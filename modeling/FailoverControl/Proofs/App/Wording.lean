import FailoverControl.Proofs.App.Ending
import FailoverControl.Proofs.Control.Wording
import FailoverControl.Proofs.Rpc.Wording

/-!
# How failures are shown

A run that fails shows one text and ends the line. The text is one line, unless it repeats a text
from outside that is none: what the connection could not be set up for, the failure of the call that
the command has failed by, or the failure of the reboot. Such texts are repeated as they are, so an
explanation of the daemon that has several lines is shown on several lines
(`failure_of_twoLines`).

The main statement: `failure_isLine_iff`.
-/

set_option autoImplicit false

namespace FailoverControl.App

open FailoverControl.CommandLine (Arguments)
open FailoverControl.Control
open FailoverControl.Daemon
open FailoverControl.Host (IoError)
open FailoverControl.Json (Value)
open FailoverControl.Operator
open FailoverControl.Rpc (Client)
open FailoverControl.Text (IsLine isLine_append_iff isLine_ofList)

variable {σ : Type} {launch : Launch} {machine : Machine} {network : Rpc.Network σ}
  {startup : Startup} {session : Session σ}

/-! ## Calls that fail -/

/-- A run comes to a call, and the connection fails it. -/
def CallFails (startup : Startup) (machine : Machine) (network : Rpc.Network σ) (call : Call)
    (rpc : Rpc.Failure) : Prop :=
  ∃ client exchanges next before,
    Rpc.connect network startup.arguments.uri connectTimeout = .ok client ∧
      Proceeds startup.procedure (startup.sessionOver machine client) exchanges
        (.ask (.call call) next) before ∧
      (before.client.call call.method call.args call.options.isSome).1 = some (.error rpc)

/-- A call that has been decided fails by a failure of the connection; one that nothing decides
comes to what it then comes to. -/
theorem outcome_of_invokeWith {call : Call} {bounded : Bool} {client : Client σ}
    {undecided : Except Halt (CallOutcome × List Log.Entry)} {invocation : Invocation σ}
    {cause : CallError} (h : invokeWith call bounded client undecided = .ok invocation)
    (hcause : invocation.outcome = .error cause) :
    (∃ log, undecided = .ok (.error cause, log)) ∨
      ∃ rpc, (client.call call.method call.args bounded).1 = some (.error rpc) ∧
        cause = CallError.ofFailure rpc := by
  unfold invokeWith at h
  generalize client.call call.method call.args bounded = called at h ⊢
  rcases called with ⟨_ | (rpc | value), later, log⟩
  · rcases undecided with halt | ⟨outcome, more⟩
    · cases h
    · obtain rfl := Except.ok.inj h
      obtain rfl : outcome = .error cause := hcause
      exact .inl ⟨more, rfl⟩
  · obtain rfl := Except.ok.inj h
    exact .inr ⟨rpc, rfl, (Except.error.inj hcause).symm⟩
  · obtain rfl := Except.ok.inj h
    cases hcause

/-- A call of a session fails with a timeout or with the failure of the connection. -/
theorem answer_call_eq_error {call : Call} {cause : CallError} {later : Session σ}
    (h : (answer (.call call)).run.run session = (.ok (.error cause), later)) :
    cause = .timeout ∨
      ∃ rpc, (session.client.call call.method call.args call.options.isSome).1 =
        some (.error rpc) ∧ cause = CallError.ofFailure rpc := by
  obtain ⟨invocation, hinvoke, hcause, -⟩ := answer_call_iff.mp h
  unfold Daemon.invoke at hinvoke
  split at hinvoke
  · next hoptions =>
    rcases outcome_of_invokeWith hinvoke hcause with ⟨log, hwaiting⟩ | hfailed
    · cases hwaiting
    · rw [hoptions]
      exact .inr hfailed
  · next options hoptions =>
    split at hinvoke
    · cases hinvoke
    · rcases outcome_of_invokeWith hinvoke hcause with ⟨log, hgivenUp⟩ | hfailed
      · cases hgivenUp
        exact .inl rfl
      · rw [hoptions]
        exact .inr hfailed

/-- A call that a run has made and that has failed was given up, or the connection has failed it. -/
theorem callFails_of_mem {client : Client σ} {call : Call} {cause : CallError}
    (hconnect : Rpc.connect network startup.arguments.uri connectTimeout = .ok client)
    (hmem : ⟨.call call, .error cause⟩ ∈
      exchangesIn startup.procedure (startup.sessionOver machine client)) :
    cause = .timeout ∨
      ∃ rpc, CallFails startup machine network call rpc ∧ cause = CallError.ofFailure rpc := by
  obtain ⟨first, rest, hsplit⟩ := List.append_of_mem hmem
  obtain ⟨left, final, hproceeds⟩ :=
    exists_proceeds startup.procedure (startup.sessionOver machine client)
  rw [hsplit] at hproceeds
  obtain ⟨next, before, later, hbefore, hanswer, -⟩ := hproceeds.split
  rcases answer_call_eq_error hanswer with hgivenUp | ⟨rpc, hcall, hcause⟩
  · exact .inl hgivenUp
  · exact .inr ⟨rpc, ⟨client, first, next, before, hconnect, hbefore, hcall⟩, hcause⟩

/-! ## Texts from outside -/

/-- The failure that a run ends in, if it fails. -/
def failure? (launch : Launch) (machine : Machine) (network : Rpc.Network σ) : Option Failure :=
  match result? launch machine network with
  | some (.error failure) => some failure
  | _ => none

/-- A failure repeats a text from outside. -/
inductive Repeats (startup : Startup) (machine : Machine) (network : Rpc.Network σ) :
    Failure → String → Prop
  | connectionSetup {cause : Rpc.Failure}
      (hfails : Rpc.connect network startup.arguments.uri connectTimeout = .error cause) :
      Repeats startup machine network (.connectionSetup cause) cause.supplied
  | fetch {what : String} {call : Call} {rpc : Rpc.Failure}
      (hfails : CallFails startup machine network call rpc)
      (hclass : CallError.ofFailure rpc = .other rpc.message) :
      Repeats startup machine network (.fetch what (.other rpc.message)) rpc.supplied
  | mutation {call : Call} {rpc : Rpc.Failure}
      (hfails : CallFails startup machine network call rpc)
      (hclass : CallError.ofFailure rpc = .other rpc.message) :
      Repeats startup machine network (.mutation (.other rpc.message)) rpc.supplied
  | reboot (cause : IoError) : Repeats startup machine network (.reboot cause) cause.supplied

variable {failure : Failure} {text : String}

/-- A run that fails has come to that failure. -/
theorem result?_of_failure? (h : failure? launch machine network = some failure) :
    result? launch machine network = some (.error failure) := by
  unfold failure? at h
  split at h
  · next hresult =>
    rw [hresult, Option.some.inj h]
  · cases h

/-- What fails a call is worded on one line exactly when what comes from outside in it is one line.
-/
theorem CallFails.isLine_message_iff {call : Call} {rpc : Rpc.Failure}
    (h : CallFails startup machine network call rpc) :
    IsLine rpc.message ↔ IsLine rpc.supplied := by
  obtain ⟨_, _, _, _, -, -, hcall⟩ := h
  exact Rpc.Failure.isLine_message_iff (Client.legible_call hcall)

/-- A failure of the connection is told by its class or in its own words. -/
theorem ofFailure_cases (rpc : Rpc.Failure) :
    CallError.ofFailure rpc = .connectFailure ∨ CallError.ofFailure rpc = .timeout ∨
      CallError.ofFailure rpc = .other rpc.message := by
  cases rpc with
  | fault fault =>
    -- Only the marks of a fault give it a class of another wording.
    simp only [CallError.ofFailure, CallError.ofFault]
    by_cases hunreachable : fault.data.any marksUnreachable = true
    · rw [if_pos hunreachable]
      exact .inl rfl
    rw [if_neg hunreachable]
    by_cases htimeout : fault.data.any marksTimeout = true
    · rw [if_pos htimeout]
      exact .inr (.inl rfl)
    · rw [if_neg htimeout]
      exact .inr (.inr rfl)
  | _ => exact .inr (.inr rfl)

/-- A call that a run has made fails in one line, or with the wording of a failure of the
connection. -/
theorem isLine_or_repeated {client : Client σ} {call : Call} {cause : CallError}
    (hconnect : Rpc.connect network startup.arguments.uri connectTimeout = .ok client)
    (hmem : ⟨.call call, .error cause⟩ ∈
      exchangesIn startup.procedure (startup.sessionOver machine client)) :
    IsLine cause.message ∨ ∃ rpc, CallFails startup machine network call rpc ∧
      CallError.ofFailure rpc = .other rpc.message ∧ cause = .other rpc.message := by
  have hunreached : IsLine CallError.connectFailure.message := isLine_ofList (by decide)
  have htimeout : IsLine CallError.timeout.message := isLine_ofList (by decide)
  rcases callFails_of_mem hconnect hmem with rfl | ⟨rpc, hfails, rfl⟩
  · exact .inl htimeout
  · rcases ofFailure_cases rpc with hclass | hclass | hclass
    · rw [hclass]
      exact .inl hunreached
    · rw [hclass]
      exact .inl htimeout
    · exact .inr ⟨rpc, hfails, hclass, hclass⟩

/-- A missing connection is worded on one line exactly when what comes from outside in its cause is
one line. -/
theorem isLine_connectionSetup_iff {cause : Rpc.Failure}
    (h : Rpc.connect network startup.arguments.uri connectTimeout = .error cause) :
    IsLine (Failure.connectionSetup cause).message ↔ IsLine cause.supplied := by
  have hbegins : IsLine "Unexpected failure enumerating websocket client: " :=
    isLine_ofList (by decide)
  exact hbegins.append_iff.trans (Rpc.Failure.isLine_message_iff (Rpc.legible_connect h))

/-- A failed reboot is worded on one line exactly when what the system says of it is one line. -/
theorem isLine_reboot_iff {cause : IoError} :
    IsLine (Failure.reboot cause).message ↔ IsLine cause.supplied := by
  have hbegins : IsLine "Failed to reboot this node: " := isLine_ofList (by decide)
  exact hbegins.append_iff.trans cause.isLine_message_iff

/-- A text that a failure repeats is one line when the wording of the failure is. -/
theorem isLine_of_repeats (h : Repeats startup machine network failure text)
    (hline : IsLine failure.message) : IsLine text := by
  cases h with
  | connectionSetup hfails => exact (isLine_connectionSetup_iff hfails).mp hline
  | fetch hfails hclass =>
    have hrpc := (isLine_append_iff.mp hline).2
    exact hfails.isLine_message_iff.mp hrpc
  | mutation hfails hclass =>
    exact hfails.isLine_message_iff.mp hline
  | reboot cause => exact isLine_reboot_iff.mp hline

/-- The failure of a command is worded on one line when every text that it repeats is one line. -/
theorem isLine_of_stems {client : Client σ}
    (hconnect : Rpc.connect network startup.arguments.uri connectTimeout = .ok client)
    (hstems : failure.Stems (exchangesIn startup.procedure (startup.sessionOver machine client)))
    (hrepeated : ∀ text, Repeats startup machine network failure text → IsLine text) :
    IsLine failure.message := by
  cases hstems with
  | own hline => exact hline
  | fetch hwhat hmem =>
    rw [isLine_fetch_iff hwhat]
    rcases isLine_or_repeated hconnect hmem with hline | ⟨rpc, hfails, hclass, rfl⟩
    · exact hline
    · exact hfails.isLine_message_iff.mpr (hrepeated _ (.fetch hfails hclass))
  | mutation hmem =>
    rcases isLine_or_repeated hconnect hmem with hline | ⟨rpc, hfails, hclass, rfl⟩
    · exact hline
    · exact hfails.isLine_message_iff.mpr (hrepeated _ (.mutation hfails hclass))
  | reboot cause => exact isLine_reboot_iff.mpr (hrepeated _ (.reboot cause))

/-- The failure of a run is worded on one line exactly when every text that it repeats is one line.
-/
theorem isLine_iff_of_result (hstart : launch.start = .ok startup)
    (hresult : result? launch machine network = some (.error failure)) :
    IsLine failure.message ↔
      ∀ text, Repeats startup machine network failure text → IsLine text := by
  constructor
  -- What is repeated is part of the wording, and nothing else in it can break the line.
  · intro hline text hrepeats
    exact isLine_of_repeats hrepeats hline
  · intro hrepeated
    rcases (result?_eq_some_iff hstart).mp hresult with ⟨cause, hconnect, hfailure⟩ |
      ⟨client, hconnect, hrun⟩
    · obtain rfl := Except.error.inj hfailure
      exact (isLine_connectionSetup_iff hconnect).mpr (hrepeated _ (.connectionSetup hconnect))
    · have hstems := (course_dispatch (course_of_runIn hrun)).stems
      exact isLine_of_stems hconnect hstems hrepeated

/-! ## What is shown -/

/-- A failure as it is shown without colors: the finding that this is no cluster is no error. -/
def plainOutput (failure : Failure) : Output :=
  if failure = .notHaNode then .out (failure.message ++ "\n") else .err (failure.message ++ "\n")

/-- A failure that is spoken of is shown in plain text where there are no colors. -/
theorem conclusion_of_plain {palette : Console.Palette} {quiet : Bool}
    (hcolors : palette.context.colors = false) (hspoken : failure = .notHaNode → quiet = false) :
    (conclusion palette quiet (.error failure)).1 = [plainOutput failure] := by
  have hplain (style : Console.Style) (text : String) : palette.styled style text = text := by
    rw [Console.Palette.styled, hcolors, Bool.false_and]
    exact if_neg Bool.false_ne_true
  by_cases hlicence : failure = .notHaNode
  · rw [hlicence, hspoken hlicence]
    rfl
  · have hshown : (conclusion palette quiet (.error failure)).1 =
        [failureOutput palette failure] := by
      cases failure with
      | notHaNode => exact absurd rfl hlicence
      | _ => rfl
    rw [hshown, failureOutput, hplain, plainOutput, if_neg hlicence]

/-- A run without colors that fails shows the wording of its failure and ends the line, unless it
keeps quiet about a node that is no cluster. The wording is one line exactly when each text from
outside that it repeats is one line. -/
theorem failure_isLine_iff {arguments : Arguments}
    (hparse : CommandLine.parse launch.arguments launch.uriValue = .ok arguments)
    (hcolors : Console.Context.wantsColors launch.loaded.1.get? launch.terminal = false)
    (hfails : failure? launch machine network = some failure)
    (hspoken : failure = .notHaNode → arguments.quiet = false) :
    printed (run launch machine network).transcript =
        dialogue launch machine network ++ [plainOutput failure] ∧
      (IsLine failure.message ↔
        ∀ text, Repeats (launch.settled arguments) machine network failure text →
          IsLine text) := by
  have hresult := result?_of_failure? hfails
  have hsettable : launch.unsettable? = none := by
    cases hunsettable : launch.unsettable? with
    | none => rfl
    | some assignment =>
      rw [result?_of_unsettable (start_of_unsettable hparse hunsettable)] at hresult
      cases hresult
  have hstart := start_of_parse hparse hsettable
  have hconclusion := @conclusion_of_plain _ (launch.settled arguments).palette _ hcolors hspoken
  refine ⟨?_, isLine_iff_of_result hstart hresult⟩
  rw [printed_run hstart hresult, ← hconclusion]
  rfl

/-- What an active node answers that refuses to enable failover. -/
def refusing (message : String) : Rpc.Network Nat :=
  answering (activeAnswers "true" ++
    ["\x7b\"id\":4,\"error\":\x7b\"code\":1,\"message\":\"" ++ message ++ "\"\x7d\x7d"])

/-- A refusal in one line is shown in one line. -/
theorem failure_isLine_refused :
    failure? (launching ["enable"]) (typing "") (refusing "pool is busy") =
        some (.mutation (.other "pool is busy")) ∧
      printed (run (launching ["enable"]) (typing "") (refusing "pool is busy")).transcript =
        [.err "pool is busy\n"] ∧
      ∀ text, Repeats ((launching ["enable"]).settled
          ⟨.perform .enable, false, CommandLine.standardUri, 2, 2, 0, false⟩) (typing "")
        (refusing "pool is busy") (.mutation (.other "pool is busy")) text → IsLine text := by
  have hparse : CommandLine.parse ["enable"] none =
      .ok ⟨.perform .enable, false, CommandLine.standardUri, 2, 2, 0, false⟩ := rfl
  have hfails : failure? (launching ["enable"]) (typing "") (refusing "pool is busy") =
      some (.mutation (.other "pool is busy")) := by
    decide +kernel
  have hdialogue : dialogue (launching ["enable"]) (typing "") (refusing "pool is busy") = [] := by
    decide +kernel
  obtain ⟨hshown, hline⟩ :=
    @failure_isLine_iff _ (launching ["enable"]) _ _ _ _ hparse rfl hfails nofun
  rw [hdialogue] at hshown
  exact ⟨hfails, hshown, hline.mp (isLine_ofList (by decide))⟩

/-- A refusal in two lines is shown in two lines. -/
theorem failure_of_twoLines :
    Console.Context.wantsColors (launching ["enable"]).loaded.1.get? false = false ∧
      failure? (launching ["enable"]) (typing "") (refusing "first\\nsecond") =
        some (.mutation (.other "first\nsecond")) ∧
      printed (run (launching ["enable"]) (typing "") (refusing "first\\nsecond")).transcript =
        [.err "first\nsecond\n"] ∧
      ¬ IsLine (Failure.mutation (.other "first\nsecond")).message ∧
      Text.linesOf "first\nsecond\n" = ["first", "second", ""] := by
  refine ⟨rfl, ?_, ?_, ?_, ?_⟩
  · decide +kernel
  · decide +kernel
  · decide +kernel
  · decide +kernel

end FailoverControl.App
