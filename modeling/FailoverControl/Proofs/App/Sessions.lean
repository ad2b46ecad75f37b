import FailoverControl.App.Session
import FailoverControl.Proofs.Control.Connection

/-!
# Sessions as runs over a connection

A session is a run over a connection among the attendants of its desk. The log is the only thing
that tells the two apart: a session writes it to the transcript, while attendants are not asked for
it. An operator who interrupts the program is left out here.

The main statements: a session comes to what the run over its connection comes to
(`runOver_agrees_runIn`), and over a connection to a server that answers it comes to what the
procedure comes to over the gateway that gives the same answers (`runIn_eq_run`).
-/

set_option autoImplicit false

namespace FailoverControl.Operator

open FailoverControl.Control (Attendants)

/-! ## Desks without a log -/

/-- Whether what is shown is more than a log entry. -/
def Output.isPrinted : Output → Bool
  | .log _ => false
  | _ => true

namespace Desk

variable {desk : Desk}

/-- A desk without its log. -/
def quiet (desk : Desk) : Desk :=
  { desk with transcript := desk.transcript.filter Output.isPrinted }

/-- The attendants at a desk. -/
def attendants : Attendants Desk where
  serial desk := (desk.serial, desk)
  warn text desk := desk.warn text
  confirm prompt desk := desk.confirm prompt
  reboot desk := (desk.reboot, { desk with reboots := desk.reboots + 1 })

/-- What is printed is shown at a desk without a log as at the desk itself. -/
theorem quiet_display {output : Output} (h : output.isPrinted = true) :
    (desk.display output).quiet = desk.quiet.display output := by
  simp only [quiet, display, List.filter_append, List.filter_cons_of_pos h, List.filter_nil]

/-- A note goes to the log only. -/
theorem quiet_note (desk : Desk) (entries : List Log.Entry) :
    (desk.note entries).quiet = desk.quiet := by
  have hlog : (entries.map Output.log).filter Output.isPrinted = [] := by
    rw [List.filter_eq_nil_iff]
    intro output hmem
    obtain ⟨entry, -, rfl⟩ := List.mem_map.mp hmem
    exact Bool.false_ne_true
  simp only [quiet, note, List.filter_append, hlog, List.append_nil]

/-- A warning is shown at a desk without a log as at the desk itself. -/
theorem quiet_warn (desk : Desk) (text : String) : (desk.warn text).quiet = desk.quiet.warn text :=
  quiet_display rfl

/-- The operator answers at a desk without a log as at the desk itself. -/
theorem confirm_quiet {prompt : String} :
    desk.quiet.confirm prompt = ((desk.confirm prompt).1, (desk.confirm prompt).2.quiet) := by
  cases hconfirmer : desk.confirmer with
  | automatic =>
    have hquiet : desk.quiet.confirmer = .automatic := hconfirmer
    simp only [confirm, hconfirmer, hquiet]
    rw [quiet_display rfl]
    rfl
  | terminal t =>
    have hquiet : desk.quiet.confirmer = .terminal t := hconfirmer
    simp only [confirm, hconfirmer, hquiet]
    rfl

/-- A reboot ends in the same way without a log. -/
theorem reboot_quiet : attendants.reboot desk.quiet =
    (desk.startReboot.1, desk.startReboot.2.quiet) := by
  have hnote := quiet_note { desk with reboots := desk.reboots + 1 } [rebootEntry]
  exact congrArg (Prod.mk desk.reboot) hnote.symm

end Desk

end FailoverControl.Operator

namespace FailoverControl.App

open FailoverControl.Control
open FailoverControl.Daemon (CallError CallOutcome Halt)
open FailoverControl.Json (Value)
open FailoverControl.Operator (Desk)
open FailoverControl.Rpc (Client Fault)

variable {σ γ α β : Type} {session : Session σ}

/-! ## Sessions -/

/-- The connection of a session and its desk without the log. -/
def Session.parts (session : Session σ) : Client σ × Desk :=
  (session.client, session.desk.quiet)

/-- What is done at the desk leaves the connection as it is. -/
theorem run_atDesk {f : Desk → α × Desk} : (atDesk f).run.run session =
    (.ok (f session.desk).1, { session with desk := (f session.desk).2 }) := rfl

/-- What is done at the desk is done among the attendants when they do the same without the log. -/
theorem attended_parts {f g : Desk → α × Desk}
    (h : g session.desk.quiet = ((f session.desk).1, (f session.desk).2.quiet)) :
    (attended g).run.run session.parts =
      (((atDesk f).run.run session).1, ((atDesk f).run.run session).2.parts) := by
  change (Except.ok (g session.desk.quiet).1, session.client, (g session.desk.quiet).2) = _
  rw [h, run_atDesk]
  rfl

/-- A call of a session comes to what the call over its connection comes to, and logs the same. -/
theorem run_callDaemon (call : Daemon.Call) : (callDaemon call).run.run session =
    match Daemon.invoke call session.client with
    | .ok invocation =>
      (.ok invocation.outcome, session.advance invocation.client invocation.log)
    | .error halt =>
      (.error halt, session.advance (halt.remains call session.client).1
        (halt.remains call session.client).2) := by
  change (match Daemon.invoke call session.client with
    | .ok invocation => do
      set (session.advance invocation.client invocation.log)
      return invocation.outcome
    | .error halt => do
      set (session.advance (halt.remains call session.client).1
        (halt.remains call session.client).2)
      throw halt : SessionM σ CallOutcome).run.run session = _
  cases Daemon.invoke call session.client <;> rfl

/-- A call is answered when it comes to an end over the connection. -/
theorem answer_call_iff {call : Daemon.Call} {reply : CallOutcome} {later : Session σ} :
    (answer (.call call)).run.run session = (.ok reply, later) ↔
      ∃ invocation, Daemon.invoke call session.client = .ok invocation ∧
        invocation.outcome = reply ∧
        session.advance invocation.client invocation.log = later := by
  rw [answer, run_callDaemon]
  cases Daemon.invoke call session.client with
  | error halt =>
    constructor
    · nofun
    · rintro ⟨_, ⟨⟩, -⟩
  | ok invocation =>
    constructor
    · intro h
      obtain ⟨hreply, hlater⟩ := Prod.mk.inj h
      exact ⟨invocation, rfl, Except.ok.inj hreply, hlater⟩
    · rintro ⟨_, ⟨⟩, rfl, rfl⟩
      rfl

/-- What a session comes to and what a run over its connection comes to. A session that is stopped
has sent what it is waiting for, which a run over a connection leaves out. -/
def Session.Agrees (x : Except Halt α × Session σ) (y : Except Halt α × Client σ × Desk) : Prop :=
  y.1 = x.1 ∧ ∀ a, x.1 = .ok a → y.2 = x.2.parts

/-- A session agrees with what its parts come to. -/
theorem Session.agrees_of_eq {x : Except Halt α × Session σ} {y : Except Halt α × Client σ × Desk}
    (h : y = (x.1, x.2.parts)) : Session.Agrees x y :=
  ⟨congrArg Prod.fst h, fun _ _ => congrArg Prod.snd h⟩

/-- A call of a session agrees with the call over its connection. -/
theorem callOver_agrees (call : Daemon.Call) :
    Session.Agrees ((callDaemon call).run.run session)
      ((callOver call).run.run session.parts) := by
  rw [run_callDaemon]
  cases hinvoke : Daemon.invoke call session.client with
  | error halt =>
    refine ⟨congrArg Prod.fst (callOver_of_error hinvoke), ?_⟩
    rintro a ⟨⟩
  | ok invocation =>
    have hnote := Desk.quiet_note session.desk invocation.log
    refine Session.agrees_of_eq ?_
    simp only [Session.parts, Session.advance, hnote]
    exact callOver_of_ok hinvoke

/-- A question that is not interrupted is settled at the desk. -/
theorem run_askOperator (hquiet : session.interruptAtPrompt = false) (prompt : String) :
    (askOperator prompt).run.run session =
      (atDesk fun desk => desk.confirm prompt).run.run session := by
  obtain ⟨client, ⟨palette, confirmer, serial, reboot, reboots, transcript⟩, interrupt⟩ := session
  obtain rfl : interrupt = false := hquiet
  cases confirmer <;> rfl

/-- An operator who does not interrupt one request does not interrupt the next one. -/
theorem interrupt_answer (r : Request) (hquiet : session.interruptAtPrompt = false) :
    ((answer r).run.run session).2.interruptAtPrompt = false := by
  cases r with
  | call call =>
    simp only [answer, run_callDaemon]
    cases Daemon.invoke call session.client <;> exact hquiet
  | confirm prompt =>
    simp only [answer, run_askOperator hquiet, run_atDesk]
    exact hquiet
  | _ =>
    simp only [answer, run_atDesk]
    exact hquiet

/-- A request is answered in a session as it is over the connection among the attendants. -/
theorem answerOver_agrees (hquiet : session.interruptAtPrompt = false) (r : Request) :
    Session.Agrees ((answer r).run.run session)
      ((Desk.attendants.answerOver r).run.run session.parts) := by
  cases r with
  | call call => exact callOver_agrees call
  | serial =>
    simp only [Attendants.answerOver, answer]
    exact Session.agrees_of_eq (attended_parts rfl)
  | warn text =>
    have hwarn := congrArg (Prod.mk ()) (Desk.quiet_warn session.desk text).symm
    simp only [Attendants.answerOver, answer]
    exact Session.agrees_of_eq (attended_parts hwarn)
  | confirm prompt =>
    simp only [Attendants.answerOver, answer, run_askOperator hquiet]
    exact Session.agrees_of_eq (attended_parts Desk.confirm_quiet)
  | reboot =>
    simp only [Attendants.answerOver, answer]
    exact Session.agrees_of_eq (attended_parts Desk.reboot_quiet)
  | log entry =>
    have hnote := Desk.quiet_note session.desk [entry]
    exact Session.agrees_of_eq
      (congrArg (fun desk => (Except.ok (), session.client, desk)) hnote.symm)

/-- A session comes to what the run over its connection among the attendants of its desk comes
to. -/
theorem runOver_agrees_runIn (procedure : Procedure α)
    (hquiet : session.interruptAtPrompt = false) :
    Session.Agrees (runIn procedure session)
      (procedure.runOver Desk.attendants session.client session.desk.quiet) := by
  induction procedure generalizing session with
  | done a => exact Session.agrees_of_eq rfl
  | ask r next ih =>
    obtain ⟨hresult, hstate⟩ := answerOver_agrees hquiet r
    have hrest := interrupt_answer r hquiet
    unfold Procedure.runOver runIn
    simp only [Procedure.interpret, run_bind]
    rw [show (session.client, session.desk.quiet) = session.parts from rfl, hresult]
    -- Both stop at this request, or both go on with the same answer.
    cases hcase : ((answer r).run.run session).1 with
    | error halt => exact ⟨rfl, nofun⟩
    | ok a =>
      rw [hstate a hcase]
      exact ih a hrest

/-- A session over a ready connection to a server that answers comes to what the procedure comes to
over the gateway that gives the same answers, and leaves the desk as the gateway leaves it, but for
the log. -/
theorem runIn_eq_run (gateway : Gateway γ) (procedure : Procedure α) (g : γ)
    (hquiet : session.interruptAtPrompt = false) (hready : session.client.Ready)
    (replies : List (Except Fault Value))
    (hbound : ∀ call ∈ calls (procedure.run (gateway.among Desk.attendants)
      (g, session.desk.quiet)).exchanges, ∀ options, call.options = some options →
        options.localDeadline?.isSome = true)
    (hreplies : outcomes (procedure.run (gateway.among Desk.attendants)
      (g, session.desk.quiet)).exchanges = replies.map (·.mapError CallError.ofFault))
    (hserves : Serves session.client.reaction session.client.nextId
      ((calls (procedure.run (gateway.among Desk.attendants)
        (g, session.desk.quiet)).exchanges).zip replies) session.client.server) :
    (runIn procedure session).1 =
        .ok (procedure.run (gateway.among Desk.attendants) (g, session.desk.quiet)).result ∧
      (runIn procedure session).2.desk.quiet =
        (procedure.run (gateway.among Desk.attendants) (g, session.desk.quiet)).state.2 ∧
      (runIn procedure session).2.client.delivered =
        session.client.delivered ++ requestTexts session.client.nextId
          (calls (procedure.run (gateway.among Desk.attendants)
            (g, session.desk.quiet)).exchanges) := by
  obtain ⟨client, hrun, hdelivered⟩ := Procedure.runOver_eq_run gateway Desk.attendants procedure g
    session.desk.quiet session.client hready replies hbound hreplies hserves
  obtain ⟨hresult, hstate⟩ := runOver_agrees_runIn procedure hquiet
  rw [hrun] at hresult hstate
  obtain ⟨hclient, hdesk⟩ := Prod.mk.inj (hstate _ hresult.symm)
  exact ⟨hresult.symm, hdesk.symm, by rw [← hclient, hdelivered]⟩

end FailoverControl.App
