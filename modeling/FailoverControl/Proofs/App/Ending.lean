import FailoverControl.Proofs.App.Stopping

/-!
# What the end of a run tells

Scripts go by the exit status of the program, and operators by what it shows at the end. The status
is 0 exactly when there is a report or the change of the action has been made (and the reboot of a
giveback started), a failure tells what has been altered until then, and each end is shown on its
stream. Only the finding that a node has no licence can be kept quiet, and that is the only thing
that the switch for it changes.

The main statement: `end_tells_truth`.
-/

set_option autoImplicit false

namespace FailoverControl.App

open FailoverControl.CommandLine (Arguments)
open FailoverControl.Console (Palette)
open FailoverControl.Control
open FailoverControl.Daemon
open FailoverControl.Host (IoError)
open FailoverControl.Json (Value)
open FailoverControl.Operator
open FailoverControl.Rpc (Client)

variable {σ α : Type} {launch : Launch} {machine : Machine} {network : Rpc.Network σ}
  {startup : Startup} {client : Client σ} {session : Session σ}

/-! ## What a run comes to -/

/-- What a run has exchanged with its surroundings, in order. -/
def exchanged (launch : Launch) (machine : Machine) (network : Rpc.Network σ) : List Exchange :=
  match launch.start with
  | .error _ => []
  | .ok startup =>
    match Rpc.connect network startup.arguments.uri connectTimeout with
    | .error _ => []
    | .ok client => exchangesIn startup.procedure (startup.sessionOver machine client)

/-- The result of a run that is not stopped. A connection that cannot be set up is a failure,
too. -/
def resultOf :
    Except Rpc.Failure (Except Halt (Except Failure Outcome)) → Option (Except Failure Outcome)
  | .error cause => some (.error (.connectionSetup cause))
  | .ok (.ok result) => some result
  | .ok (.error _) => none

/-- The result of a run that has started and is not stopped. -/
def result? (launch : Launch) (machine : Machine) (network : Rpc.Network σ) :
    Option (Except Failure Outcome) :=
  (outcome launch machine network).toOption.bind resultOf

/-- What is shown, the log left out. -/
def printed (transcript : List Output) : List Output :=
  transcript.filter Output.isPrinted

/-- What is said about the settings of the log before a run begins. -/
def notices (launch : Launch) : List Output :=
  match launch.start with
  | .error _ => []
  | .ok startup => printed startup.transcript

/-- What a run shows before its end: notices, warnings and questions. -/
def dialogue (launch : Launch) (machine : Machine) (network : Rpc.Network σ) : List Output :=
  match launch.start with
  | .error _ => []
  | .ok startup =>
    match Rpc.connect network startup.arguments.uri connectTimeout with
    | .error _ => printed startup.transcript
    | .ok client =>
      let desk := (runIn startup.procedure (startup.sessionOver machine client)).2.desk
      printed startup.transcript ++ (printed desk.transcript ++ questions desk)

/-- The text of an outcome. -/
def outcomeText (palette : Palette) : Outcome → String
  | .report report => report.text
  | .executed executed => palette.styled .success executed.message ++ "\n"

/-- What is printed in two parts is printed one after the other. -/
theorem printed_append (first second : List Output) :
    printed (first ++ second) = printed first ++ printed second := List.filter_append ..

/-- The filter of the log drops nothing that is printed. -/
theorem printed_filter_isShown (filter : Log.Filter) (transcript : List Output) :
    printed (transcript.filter (isShown filter)) = printed transcript := by
  unfold printed
  rw [List.filter_filter]
  refine List.filter_congr fun output _ => ?_
  cases output <;> rfl

/-- Questions are printed. -/
theorem printed_questions (desk : Desk) : printed (questions desk) = questions desk := by
  unfold questions
  split <;> rfl

/-- What is shown at the end is no log entry. -/
theorem printed_conclusion (palette : Palette) (quiet : Bool) (result : Except Failure Outcome) :
    printed (conclusion palette quiet result).1 = (conclusion palette quiet result).1 := by
  rcases result with failure | (report | executed)
  · cases failure <;> cases quiet <;> rfl
  · rfl
  · rfl

/-- A run without a connection shows the attempt and the failure of it. -/
theorem transcript_of_unconnected {cause : Rpc.Failure} (hstart : launch.start = .ok startup)
    (hconnect : Rpc.connect network startup.arguments.uri connectTimeout = .error cause) :
    (run launch machine network).transcript =
      (startup.transcript ++ [Output.log (Rpc.connectingEntry startup.arguments.uri)] ++
        [failureOutput startup.palette (.connectionSetup cause)]).filter
          (isShown startup.filter) := by
  simp only [run, hstart, Startup.run, hconnect]

/-- A run over a connection shows the attempt, the connection and what the command shows. -/
theorem transcript_of_connected (hstart : launch.start = .ok startup)
    (hconnect : Rpc.connect network startup.arguments.uri connectTimeout = .ok client) :
    (run launch machine network).transcript =
      (startup.transcript ++ [Output.log (Rpc.connectingEntry startup.arguments.uri)] ++
        [Output.log (connectedEntry startup.arguments.uri)] ++
          (startup.command machine client).transcript).filter (isShown startup.filter) := by
  simp only [run, hstart, Startup.run, hconnect]

/-- What a run comes to is what its connection or its session comes to. -/
theorem result?_of_start (hstart : launch.start = .ok startup) :
    result? launch machine network =
      resultOf ((Rpc.connect network startup.arguments.uri connectTimeout).map fun client =>
        (runIn startup.procedure (startup.sessionOver machine client)).1) := by
  rw [result?, outcome, hstart]
  rfl

/-- What a run shows that has started and is not stopped. -/
theorem printed_run (hstart : launch.start = .ok startup) {result : Except Failure Outcome}
    (hresult : result? launch machine network = some result) :
    printed (run launch machine network).transcript = dialogue launch machine network ++
      (conclusion startup.palette startup.arguments.quiet result).1 := by
  cases hconnect : Rpc.connect network startup.arguments.uri connectTimeout with
  | error cause =>
    obtain rfl : Except.error (.connectionSetup cause) = result := by
      rwa [result?_of_start hstart, hconnect, Except.map, resultOf, Option.some.injEq] at hresult
    rw [transcript_of_unconnected hstart hconnect, printed_filter_isShown, printed_append,
      printed_append]
    simp only [dialogue, hstart, hconnect]
    exact congrArg (· ++ _) (List.append_nil _)
  | ok client =>
    rcases hrun : runIn startup.procedure (startup.sessionOver machine client) with
      ⟨halt | result', final⟩
    · rw [result?_of_start hstart, hconnect, Except.map, hrun] at hresult
      cases hresult
    obtain rfl : result' = result := by
      rwa [result?_of_start hstart, hconnect, Except.map, hrun, resultOf, Option.some.injEq]
        at hresult
    have hcommand : (startup.command machine client).transcript =
        final.desk.transcript ++ questions final.desk ++
          (conclusion startup.palette startup.arguments.quiet result').1 := by
      rw [Startup.command, hrun]
      rfl
    rw [transcript_of_connected hstart hconnect, printed_filter_isShown, hcommand]
    simp only [printed_append, printed_questions, printed_conclusion, dialogue, hstart, hconnect,
      hrun]
    simp [printed, Output.isPrinted]

/-! ## What a run has done -/

/-- A run comes to the failure of its connection or to what its session comes to. -/
theorem result?_eq_some_iff (hstart : launch.start = .ok startup)
    {result : Except Failure Outcome} :
    result? launch machine network = some result ↔
      (∃ cause, Rpc.connect network startup.arguments.uri connectTimeout = .error cause ∧
          result = .error (.connectionSetup cause)) ∨
        ∃ client, Rpc.connect network startup.arguments.uri connectTimeout = .ok client ∧
          (runIn startup.procedure (startup.sessionOver machine client)).1 = .ok result := by
  rw [result?_of_start hstart]
  cases hconnect : Rpc.connect network startup.arguments.uri connectTimeout with
  | error cause => simp [Except.map, resultOf, eq_comm]
  | ok client =>
    cases hrun : (runIn startup.procedure (startup.sessionOver machine client)).1 with
    | error halt => simp [Except.map, resultOf, hrun]
    | ok result' => simp [Except.map, resultOf, hrun]

/-- Nothing is exchanged without a connection. -/
theorem exchanged_of_unconnected {cause : Rpc.Failure} (hstart : launch.start = .ok startup)
    (hconnect : Rpc.connect network startup.arguments.uri connectTimeout = .error cause) :
    exchanged launch machine network = [] := by
  simp only [exchanged, hstart, hconnect]

/-- A run exchanges what its session exchanges. -/
theorem exchanged_of_connected (hstart : launch.start = .ok startup)
    (hconnect : Rpc.connect network startup.arguments.uri connectTimeout = .ok client) :
    exchanged launch machine network =
      exchangesIn startup.procedure (startup.sessionOver machine client) := by
  simp only [exchanged, hstart, hconnect]

/-- Nothing is asked for without a connection. -/
theorem requested_of_unconnected {cause : Rpc.Failure} (hstart : launch.start = .ok startup)
    (hconnect : Rpc.connect network startup.arguments.uri connectTimeout = .error cause) :
    requested launch machine network = [] := by
  simp only [requested, hstart, hconnect]

/-- A run asks for what its session asks for. -/
theorem requested_of_connected (hstart : launch.start = .ok startup)
    (hconnect : Rpc.connect network startup.arguments.uri connectTimeout = .ok client) :
    requested launch machine network =
      requestsIn startup.procedure (startup.sessionOver machine client) := by
  simp only [requested, hstart, hconnect]

/-- Every request of a procedure that is done has been answered. -/
theorem requestsIn_of_runIn {p : Procedure α} {a : α} (h : (runIn p session).1 = .ok a) :
    requestsIn p session = (exchangesIn p session).map Exchange.request := by
  have hends := endsIn_runIn p session
  generalize runIn p session = ended at hends h
  cases hends with
  | done hproceeds =>
    have hrequests := hproceeds.requestsIn_eq
    rwa [requestsIn, List.append_nil] at hrequests
  | stopped _ _ => cases h

/-- The attempts to reboot are among what has been exchanged. -/
theorem reboots_run (launch : Launch) (machine : Machine) (network : Rpc.Network σ) :
    (run launch machine network).reboots =
      (exchanged launch machine network).countP Exchange.isReboot := by
  cases hstart : launch.start with
  | error obstacle =>
    simp only [run, exchanged, hstart, List.countP_nil]
    cases obstacle <;> rfl
  | ok startup =>
    cases hconnect : Rpc.connect network startup.arguments.uri connectTimeout with
    | error cause => simp only [run, exchanged, hstart, Startup.run, hconnect, List.countP_nil]
    | ok client =>
      obtain ⟨-, hreboots, -⟩ := run_of_connected machine hstart hconnect
      rw [hreboots, exchanged_of_connected hstart hconnect, reboots_eq]
      exact Nat.zero_add _

/-! ## The exit status -/

/-- The exit code is zero exactly for a command that has come to an outcome. -/
theorem exitOf_eq_zero_iff (ended : Except Rpc.Failure (Except Halt (Except Failure Outcome))) :
    exitOf (.ok ended) = .code 0 ↔ ∃ outcome, resultOf ended = some (.ok outcome) := by
  rcases ended with cause | halt | (failure | outcome)
  · simp [exitOf, resultOf]
  · cases halt <;> simp [exitOf, resultOf, haltConclusion]
  · simp [exitOf, resultOf]
  · simp [exitOf, resultOf]

/-- A command exits with zero or one, or it crashes or never ends. -/
theorem exitOf_cases (ended : Except Rpc.Failure (Except Halt (Except Failure Outcome))) :
    exitOf (.ok ended) = .code 0 ∨ exitOf (.ok ended) = .code 1 ∨ exitOf (.ok ended) = .crash ∨
      exitOf (.ok ended) = .never := by
  rcases ended with cause | halt | (failure | outcome)
  · exact .inr (.inl rfl)
  · cases halt <;> simp [exitOf, haltConclusion]
  · exact .inr (.inl rfl)
  · exact .inl rfl

/-- A run exits by what its connection or its session comes to. -/
theorem exit_of_start (hstart : launch.start = .ok startup) :
    (run launch machine network).exit =
      exitOf (.ok ((Rpc.connect network startup.arguments.uri connectTimeout).map fun client =>
        (runIn startup.procedure (startup.sessionOver machine client)).1)) := by
  rw [exit_run, outcome, hstart]
  rfl

/-- The requests of a run that alter the cluster or this node, with their answers. -/
def alterations (launch : Launch) (machine : Machine) (network : Rpc.Network σ) : List Exchange :=
  (exchanged launch machine network).filter Exchange.alters

/-- The exit status and the failure of a run with a command tell what it has done. -/
structure TellsDeeds (command : Command) (launch : Launch) (machine : Machine)
    (network : Rpc.Network σ) : Prop where
  success_iff : (run launch machine network).exit = .code 0 ↔
    (∃ report, result? launch machine network = some (.ok (.report report))) ∨
      ∃ action value, command = .perform action ∧
        ⟨.call action.mutation, .ok value⟩ ∈ exchanged launch machine network ∧
        (action = .giveback → ⟨.reboot, .ok ()⟩ ∈ exchanged launch machine network)
  otherwise : (run launch machine network).exit ≠ .code 0 →
    (run launch machine network).exit ≠ .crash → (run launch machine network).exit ≠ .never →
      (run launch machine network).exit = .code 1
  /-- Every request of a run that is not stopped has been answered. -/
  answered : ∀ result, result? launch machine network = some result →
    requested launch machine network =
      (exchanged launch machine network).map Exchange.request
  early : ∀ failure, result? launch machine network = some (.error failure) →
    failure.isEarly = true →
      alterations launch machine network = [] ∧ (run launch machine network).reboots = 0
  refused : ∀ cause, result? launch machine network = some (.error (.mutation cause)) →
    (∃ action, command = .perform action ∧
      alterations launch machine network = [⟨.call action.mutation, .error cause⟩]) ∧
    (run launch machine network).reboots = 0
  stranded : ∀ cause, result? launch machine network = some (.error (.reboot cause)) →
    command = .perform .giveback ∧
    (∃ value, alterations launch machine network =
      [⟨.call ⟨Method.becomePassive, [], none⟩, .ok value⟩, ⟨.reboot, .error cause⟩]) ∧
    (run launch machine network).reboots = 1

/-- The end of a run is shown on its stream. -/
structure TellsEnd (palette : Palette) (quiet : Bool) (launch : Launch) (machine : Machine)
    (network : Rpc.Network σ) : Prop where
  success : ∀ outcome, result? launch machine network = some (.ok outcome) →
    printed (run launch machine network).transcript =
      dialogue launch machine network ++ [.out (outcomeText palette outcome)]
  unlicensed : result? launch machine network = some (.error .notHaNode) →
    printed (run launch machine network).transcript =
      dialogue launch machine network ++
        if quiet then [] else [.out "Node status: Not an HA node\n"]
  failure : ∀ failure, failure ≠ .notHaNode →
    result? launch machine network = some (.error failure) →
      printed (run launch machine network).transcript =
        dialogue launch machine network ++
          [.err (palette.styled .danger failure.message ++ "\n")]

/-- Attempts to reboot are counted among the exchanges that alter something. -/
theorem countP_isReboot_eq (exchanges : List Exchange) :
    exchanges.countP Exchange.isReboot =
      (exchanges.filter Exchange.alters).countP Exchange.isReboot := by
  rw [List.countP_filter]
  refine List.countP_congr fun e _ => ?_
  obtain ⟨request, answer⟩ := e
  cases request <;> simp [Exchange.isReboot, Request.isReboot, Exchange.alters, Request.alters]

/-- What a run over a connection comes to, it comes to by completing its command. -/
theorem completion_of_result (hstart : launch.start = .ok startup)
    {result : Except Failure Outcome} (hresult : result? launch machine network = some result) :
    (∃ cause, result = .error (.connectionSetup cause) ∧ exchanged launch machine network = []) ∨
      Completion startup.arguments.command (exchanged launch machine network) result := by
  rcases (result?_eq_some_iff hstart).mp hresult with ⟨cause, hconnect, rfl⟩ |
    ⟨client, hconnect, hrun⟩
  · exact .inl ⟨cause, rfl, exchanged_of_unconnected hstart hconnect⟩
  · rw [exchanged_of_connected hstart hconnect]
    exact .inr (completion_of_course (course_of_runIn hrun))

/-- A run that has connected completes its command with what it comes to. -/
theorem completion_of_connected (hstart : launch.start = .ok startup)
    {result : Except Failure Outcome} (hresult : result? launch machine network = some result)
    (hconnected : ∀ cause, result ≠ .error (.connectionSetup cause)) :
    Completion startup.arguments.command (exchanged launch machine network) result := by
  rcases completion_of_result hstart hresult with ⟨cause, hsetup, -⟩ | hcompletion
  · exact absurd hsetup (hconnected cause)
  · exact hcompletion

/-- A run that comes to an outcome completes its command, and the others alter nothing unless they
complete it. -/
theorem completion_or_spared (hstart : launch.start = .ok startup) (machine : Machine)
    (network : Rpc.Network σ) :
    (∃ result, result? launch machine network = some result ∧
        Completion startup.arguments.command (exchanged launch machine network) result) ∨
      (∀ outcome, result? launch machine network ≠ some (.ok outcome)) ∧
        Idle (exchanged launch machine network) := by
  cases hconnect : Rpc.connect network startup.arguments.uri connectTimeout with
  | error cause =>
    rw [exchanged_of_unconnected hstart hconnect, result?_of_start hstart, hconnect]
    exact .inr ⟨nofun, idle_nil⟩
  | ok client =>
    rw [exchanged_of_connected hstart hconnect, result?_of_start hstart, hconnect]
    rcases completion_or_idle startup.arguments.command (peerOptions startup.arguments)
      (startup.sessionOver machine client) with ⟨result, hrun, hcompletion⟩ | ⟨halt, hrun, hidle⟩
    · refine .inl ⟨result, ?_, hcompletion⟩
      rw [Except.map, Startup.procedure, hrun, resultOf]
    · refine .inr ⟨fun outcome => ?_, hidle⟩
      rw [Except.map, Startup.procedure, hrun, resultOf]
      exact Option.some_ne_none _ ∘ Eq.symm

/-- Exit code and effects of a run that has started go together. -/
theorem tellsDeeds (hstart : launch.start = .ok startup) (machine : Machine)
    (network : Rpc.Network σ) :
    TellsDeeds startup.arguments.command launch machine network where
  success_iff := by
    rw [exit_of_start hstart, exitOf_eq_zero_iff, ← result?_of_start hstart]
    rcases completion_or_spared hstart machine network with ⟨result, hresult, hcompletion⟩ |
      ⟨hnone, hidle⟩
    · simp only [hresult, Option.some.injEq]
      exact succeeds_iff hcompletion
    · constructor
      · rintro ⟨outcome, houtcome⟩
        exact absurd houtcome (hnone outcome)
      · rintro (⟨report, hreport⟩ | ⟨action, value, -, hmem, -⟩)
        · exact absurd hreport (hnone _)
        · exact absurd hmem (not_mem_of_idle hidle)
  otherwise hsuccess hcrash hnever := by
    have hexit := @exit_of_start σ launch machine network startup hstart
    rw [hexit] at hsuccess hcrash hnever ⊢
    rcases exitOf_cases _ with h | h | h | h
    · exact absurd h hsuccess
    · exact h
    · exact absurd h hcrash
    · exact absurd h hnever
  answered result hresult := by
    rcases (result?_eq_some_iff hstart).mp hresult with ⟨cause, hconnect, -⟩ |
      ⟨client, hconnect, hrun⟩
    · rw [requested_of_unconnected hstart hconnect, exchanged_of_unconnected hstart hconnect]
      rfl
    · rw [requested_of_connected hstart hconnect, exchanged_of_connected hstart hconnect]
      exact requestsIn_of_runIn hrun
  early failure hresult hearly := by
    have hidle : Idle (exchanged launch machine network) := by
      rcases completion_of_result hstart hresult with ⟨_, -, hnone⟩ | hcompletion
      · rw [hnone]
        exact idle_nil
      · exact idle_of_isEarly hcompletion hearly
    rw [reboots_run]
    exact ⟨filter_alters_of_idle hidle, countP_isReboot_of_idle hidle⟩
  refused cause hresult := by
    rw [reboots_run, countP_isReboot_eq]
    have hcompletion := completion_of_connected hstart hresult nofun
    obtain ⟨action, hcommand, halters⟩ := alters_of_mutation_failed hcompletion
    refine ⟨⟨action, hcommand, halters⟩, ?_⟩
    rw [halters]
    rfl
  stranded cause hresult := by
    rw [reboots_run, countP_isReboot_eq]
    have hcompletion := completion_of_connected hstart hresult nofun
    obtain ⟨hcommand, value, halters⟩ := alters_of_reboot_failed hcompletion
    refine ⟨hcommand, ⟨value, halters⟩, ?_⟩
    rw [halters]
    rfl

/-- A run that has started shows what it came to, each kind of end in its own words. -/
theorem tellsEnd (hstart : launch.start = .ok startup) (machine : Machine)
    (network : Rpc.Network σ) :
    TellsEnd startup.palette startup.arguments.quiet launch machine network where
  success outcome hresult := by
    rw [printed_run hstart hresult]
    cases outcome <;> rfl
  unlicensed hresult := by
    rw [printed_run hstart hresult]
    rfl
  failure failure hother hresult := by
    rw [printed_run hstart hresult]
    cases failure with
    | notHaNode => exact absurd rfl hother
    | _ => rfl

/-! ## Runs without a licence -/

/-- A call of the daemon shows nothing but log entries. -/
theorem quiet_answer_call {call : Call} {reply : CallOutcome} {later : Session σ}
    (h : (answer (.call call)).run.run session = (.ok reply, later)) :
    later.desk.quiet = session.desk.quiet := by
  obtain ⟨invocation, -, -, rfl⟩ := answer_call_iff.mp h
  exact Desk.quiet_note session.desk invocation.log

/-- A session in which the licence is denied asks for nothing else and shows nothing. -/
theorem runIn_of_unlicensed {command : Command} {options : CallOptions}
    (h : unlicensed ∈ exchangesIn (dispatch command options).run session) :
    (runIn (dispatch command options).run session).1 = .ok (.error .notHaNode) ∧
      (runIn (dispatch command options).run session).2.desk.quiet = session.desk.quiet := by
  have hends := endsIn_runIn (dispatch command options).run session
  generalize hrun : runIn (dispatch command options).run session = ended at hends ⊢
  cases hends with
  | @done result final hproceeds =>
    have hcourse := course_dispatch (course_of_runIn (congrArg Prod.fst hrun))
    obtain ⟨hexchanges, rfl⟩ := eq_of_unlicensed_mem hcourse h
    rw [hexchanges] at hproceeds
    refine ⟨rfl, ?_⟩
    have hsplit : Proceeds _ session ([] ++ unlicensed :: []) _ final := hproceeds
    obtain ⟨next, middle, later, hbefore, hanswer, hafter⟩ := hsplit.split
    cases hbefore with
    | refl =>
      cases hafter with
      | refl => exact quiet_answer_call hanswer
  | @stopped r next later final halt hproceeds hanswer =>
    -- Something would be asked for after the answer.
    obtain ⟨rest, a, hrest⟩ := Procedure.exists_course (.ask r next)
    obtain ⟨reply, behind, -, rfl⟩ := Procedure.course_ask_iff.mp hrest
    have hcourse := course_dispatch (hproceeds.course hrest)
    obtain ⟨hexchanges, -⟩ := eq_of_unlicensed_mem hcourse (List.mem_append_left _ h)
    have hlength := congrArg List.length hexchanges
    have hpos := List.length_pos_of_mem h
    simp only [List.length_append, List.length_cons, List.length_nil] at hlength
    omega

/-- Nothing has been written to the terminal before a session begins. -/
theorem questions_desk (startup : Startup) (machine : Machine) :
    questions (startup.desk machine) = [] := by
  have hwritten : (startup.desk machine).confirmer.written = [] := by
    simp only [Startup.desk]
    split <;> rfl
  rw [questions, hwritten]
  rfl

/-- A node without a licence ends the run after the first inquiry, and nothing is shown before the
end. -/
theorem dialogue_of_unlicensed (hmem : unlicensed ∈ exchanged launch machine network) :
    result? launch machine network = some (.error .notHaNode) ∧
      dialogue launch machine network = notices launch := by
  cases hstart : launch.start with
  | error ending => simp [exchanged, hstart] at hmem
  | ok startup =>
    cases hconnect : Rpc.connect network startup.arguments.uri connectTimeout with
    | error cause =>
      rw [exchanged_of_unconnected hstart hconnect] at hmem
      exact absurd hmem List.not_mem_nil
    | ok client =>
      rw [exchanged_of_connected hstart hconnect] at hmem
      obtain ⟨hresult, hquiet⟩ := runIn_of_unlicensed hmem
      refine ⟨(result?_eq_some_iff hstart).mpr (.inr ⟨client, hconnect, hresult⟩), ?_⟩
      have hprinted := congrArg Desk.transcript hquiet
      have hquestions := (congrArg questions hquiet).trans (questions_desk startup machine)
      have hnothing : printed (runIn startup.procedure
          (startup.sessionOver machine client)).2.desk.transcript ++ questions (runIn
            startup.procedure (startup.sessionOver machine client)).2.desk = [] :=
        List.append_eq_nil_iff.mpr ⟨hprinted, hquestions⟩
      simp only [dialogue, notices, hstart, hconnect]
      rw [hnothing, List.append_nil]

/-! ## Keeping quiet -/

/-- A run that is asked to keep quiet, compared with the same run that is not. -/
structure QuietAlike (launch quiet : Launch) (machine : Machine) (network : Rpc.Network σ) :
    Prop where
  alike : RunAlike launch quiet machine machine network
  exchanged : exchanged launch machine network = exchanged quiet machine network
  licensed : unlicensed ∉ App.exchanged launch machine network →
    (run launch machine network).transcript = (run quiet machine network).transcript
  unlicensed : unlicensed ∈ App.exchanged launch machine network →
    printed (run launch machine network).transcript =
        notices launch ++ [.out "Node status: Not an HA node\n"] ∧
      printed (run quiet machine network).transcript = notices launch

/-- Only a missing licence is kept quiet. -/
theorem conclusion_eq_of_ne {result : Except Failure Outcome} (h : result ≠ .error .notHaNode)
    (palette : Palette) (quiet quiet' : Bool) :
    conclusion palette quiet result = conclusion palette quiet' result := by
  rcases result with failure | (report | executed)
  · cases failure with
    | notHaNode => exact absurd rfl h
    | _ => rfl
  · rfl
  · rfl

/-- The same startup, asked to keep quiet. -/
def Startup.quiet (startup : Startup) : Startup :=
  { startup with arguments := { startup.arguments with quiet := true } }

/-- Being quiet changes the transcript of a command only on a node without a licence. -/
theorem command_quiet_transcript
    (h : (runIn startup.procedure (startup.sessionOver machine client)).1 ≠
      .ok (.error .notHaNode)) :
    (startup.quiet.command machine client).transcript =
      (startup.command machine client).transcript := by
  have hsame : runIn startup.quiet.procedure (startup.quiet.sessionOver machine client) =
      runIn startup.procedure (startup.sessionOver machine client) := rfl
  unfold Startup.command
  rw [hsame]
  rcases hrun : runIn startup.procedure (startup.sessionOver machine client) with
    ⟨halt | result, final⟩
  · rfl
  · have hlicensed : result ≠ .error .notHaNode := by
      rintro rfl
      exact h (congrArg Prod.fst hrun)
    simp only [Startup.finished, conclusion_eq_of_ne hlicensed startup.quiet.palette
      startup.quiet.arguments.quiet startup.arguments.quiet]
    rfl

section Quiet

variable {quiet : Launch} (hstart : launch.start = .ok startup)
  (hquiet : quiet.start = .ok startup.quiet)
include hstart hquiet

/-- Being quiet does not change what a run comes to. -/
theorem outcome_quiet : outcome launch machine network = outcome quiet machine network := by
  rw [outcome, outcome, hstart, hquiet]
  rfl

/-- Being quiet does not change what is exchanged. -/
theorem exchanged_quiet : exchanged launch machine network = exchanged quiet machine network := by
  simp only [exchanged, hstart, hquiet]
  rfl

/-- Being quiet does not change what is said about the settings of the log. -/
theorem notices_quiet : notices quiet = notices launch := by
  simp only [notices, hstart, hquiet]
  rfl

/-- The switch for keeping quiet changes nothing that is done. -/
theorem runAlike_quiet (machine : Machine) (network : Rpc.Network σ) :
    RunAlike launch quiet machine machine network where
  outcome := outcome_quiet hstart hquiet
  exit := by rw [exit_run, exit_run, outcome_quiet hstart hquiet]
  reboots := by rw [reboots_run, reboots_run, exchanged_quiet hstart hquiet]
  requested := by
    simp only [requested, hstart, hquiet]
    rfl
  delivered := by
    cases hconnect : Rpc.connect network startup.arguments.uri connectTimeout with
    | error cause =>
      have hconnect' : Rpc.connect network startup.quiet.arguments.uri connectTimeout =
        .error cause := hconnect
      simp only [run, hstart, hquiet, Startup.run, hconnect, hconnect']
    | ok client =>
      obtain ⟨hdelivered, -⟩ := run_of_connected machine hstart hconnect
      obtain ⟨hdelivered', -⟩ := run_of_connected machine hquiet hconnect
      rw [hdelivered, hdelivered']
      rfl

/-- A run that is not denied its licence shows the same when it is asked to keep quiet. -/
theorem transcript_quiet (hlicensed : unlicensed ∉ exchanged launch machine network) :
    (run launch machine network).transcript = (run quiet machine network).transcript := by
  cases hconnect : Rpc.connect network startup.arguments.uri connectTimeout with
  | error cause =>
    rw [transcript_of_unconnected hstart hconnect, transcript_of_unconnected hquiet hconnect]
    rfl
  | ok client =>
    have hresult : (runIn startup.procedure (startup.sessionOver machine client)).1 ≠
        .ok (.error .notHaNode) := by
      intro hrun
      have hcompletion := completion_of_course (course_of_runIn hrun)
      have hexchanges := eq_unlicensed_of_notHaNode hcompletion
      apply hlicensed
      rw [exchanged_of_connected hstart hconnect, Startup.procedure, hexchanges]
      exact List.mem_singleton_self _
    rw [transcript_of_connected hstart hconnect, transcript_of_connected hquiet hconnect,
      command_quiet_transcript hresult]
    rfl

/-- A run that has started does the same when it is quiet, and shows the same unless the node has no
licence. -/
theorem quietAlike (hloud : startup.arguments.quiet = false) (machine : Machine)
    (network : Rpc.Network σ) : QuietAlike launch quiet machine network where
  alike := runAlike_quiet hstart hquiet machine network
  exchanged := exchanged_quiet hstart hquiet
  licensed := transcript_quiet hstart hquiet
  unlicensed := by
    intro hmem
    have hmem' : unlicensed ∈ exchanged quiet machine network := by
      rwa [← exchanged_quiet hstart hquiet]
    obtain ⟨hresult, hdialogue⟩ := dialogue_of_unlicensed hmem
    obtain ⟨hresult', hdialogue'⟩ := dialogue_of_unlicensed hmem'
    rw [printed_run hstart hresult, printed_run hquiet hresult', hdialogue, hdialogue',
      notices_quiet hstart hquiet, hloud]
    exact ⟨rfl, List.append_nil _⟩

end Quiet

/-! ## Runs that cannot set a variable -/

section Unsettable

variable {assignment : Settings.Unsettable}
  (hstart : launch.start = .error (.unsettable assignment))
include hstart

/-- A run that cannot set a variable crashes and tells of the assignment. -/
theorem run_of_unsettable :
    run launch machine network = ⟨.crash, [.err (assignment.message ++ "\n")], [], 0⟩ := by
  simp only [run, hstart]
  rfl

/-- A run that cannot set a variable comes to no result. -/
theorem result?_of_unsettable : result? launch machine network = none := by
  rw [result?, outcome, hstart]
  rfl

/-- A run that cannot set a variable exchanges nothing. -/
theorem exchanged_of_unsettable : exchanged launch machine network = [] := by
  simp only [exchanged, hstart]

/-- The crash tells that nothing has been done. -/
theorem tellsDeeds_of_unsettable (command : Command) (machine : Machine)
    (network : Rpc.Network σ) : TellsDeeds command launch machine network := by
  have hresult : result? launch machine network = none := result?_of_unsettable hstart
  have hexit : (run launch machine network).exit = .crash := by rw [run_of_unsettable hstart]
  constructor
  case success_iff =>
    rw [hexit, hresult, exchanged_of_unsettable hstart]
    simp
  case otherwise => exact fun _ hcrash => absurd hexit hcrash
  all_goals
    rw [hresult]
    exact fun _ h => nomatch h

/-- A crash is no end that is shown on a stream of its own. -/
theorem tellsEnd_of_unsettable (palette : Palette) (quiet : Bool) (machine : Machine)
    (network : Rpc.Network σ) : TellsEnd palette quiet launch machine network := by
  have hresult : result? launch machine network = none := result?_of_unsettable hstart
  constructor
  case success => exact fun _ h => nomatch hresult.symm.trans h
  case unlicensed => exact fun h => nomatch hresult.symm.trans h
  case failure => exact fun _ _ h => nomatch hresult.symm.trans h

/-- Runs that cannot set the same variable are alike, whether they are asked to keep quiet. -/
theorem quietAlike_of_unsettable {quiet : Launch}
    (hquiet : quiet.start = .error (.unsettable assignment)) (machine : Machine)
    (network : Rpc.Network σ) : QuietAlike launch quiet machine network := by
  have hrun : run launch machine network = run quiet machine network := by
    rw [run_of_unsettable hstart, run_of_unsettable hquiet]
  have hexchanged : exchanged launch machine network = [] := exchanged_of_unsettable hstart
  constructor
  case alike =>
    constructor
    case requested => simp only [requested, hstart, hquiet]
    case outcome => rw [outcome, outcome, hstart, hquiet]
    all_goals rw [hrun]
  case exchanged => rw [hexchanged, exchanged_of_unsettable hquiet]
  case licensed => exact fun _ => congrArg Finished.transcript hrun
  case unlicensed =>
    rw [hexchanged]
    intro hanswered
    exact absurd hanswered List.not_mem_nil

end Unsettable

/-! ## Whole runs -/

/-- Nothing is said about the settings of the log where there are none. -/
theorem notices_eq_nil {arguments : Arguments}
    (hparse : CommandLine.parse launch.arguments launch.uriValue = .ok arguments)
    (hunset : launch.loaded.1.get? logVariable = none) : notices launch = [] := by
  cases hunsettable : launch.unsettable? with
  | some assignment => simp only [notices, start_of_unsettable hparse hunsettable]
  | none =>
    have hignored (detail : Nat) : (Log.Filter.read "" detail).2 = [] := rfl
    simp only [notices, start_of_parse hparse hunsettable, Launch.settled, hunset,
      Option.getD_none, hignored]
    rfl

/-- The exit status and the end of a run with a command tell what it has done, and the switch for
keeping quiet changes neither what is done nor what is shown, except that a node without a licence
is not spoken of: then nothing at all is shown unless there is something to say about the settings
of the log. -/
theorem end_tells_truth {arguments : Arguments}
    (hparse : CommandLine.parse launch.arguments launch.uriValue = .ok arguments)
    (machine : Machine) (network : Rpc.Network σ) :
    TellsDeeds arguments.command launch machine network ∧
      TellsEnd (launch.settled arguments).palette arguments.quiet launch machine network ∧
      (launch.loaded.1.get? logVariable = none → notices launch = []) ∧
      (arguments.quiet = false → ∀ words,
        CommandLine.parse words launch.uriValue = .ok { arguments with quiet := true } →
          QuietAlike launch { launch with arguments := words } machine network) := by
  cases hunsettable : launch.unsettable? with
  | some assignment =>
    have hstart := start_of_unsettable hparse hunsettable
    refine ⟨tellsDeeds_of_unsettable hstart _ machine network,
      tellsEnd_of_unsettable hstart _ _ machine network, notices_eq_nil hparse,
      fun _ words hquiet => ?_⟩
    have hstart' : Launch.start { launch with arguments := words } =
        .error (.unsettable assignment) := start_of_unsettable hquiet hunsettable
    exact quietAlike_of_unsettable hstart hstart' machine network
  | none =>
    have hstart := start_of_parse hparse hunsettable
    refine ⟨tellsDeeds hstart machine network, tellsEnd hstart machine network,
      notices_eq_nil hparse, fun hloud words hquiet => ?_⟩
    have hstart' : Launch.start { launch with arguments := words } =
        .ok (launch.settled arguments).quiet := start_of_parse hquiet hunsettable
    exact quietAlike hstart hstart' hloud machine network

/-- The network of a node without a licence. -/
def unlicensedNetwork : Rpc.Network Nat := answering ["\x7b\"id\":1,\"result\":false\x7d"]

/-- A node without a licence is spoken of in one line, or not at all. -/
theorem end_tells_truth_unlicensed :
    CommandLine.parse ["enable"] none =
        .ok ⟨.perform .enable, false, CommandLine.standardUri, 2, 2, 0, false⟩ ∧
      CommandLine.parse ["-q", "enable"] none =
        .ok ⟨.perform .enable, true, CommandLine.standardUri, 2, 2, 0, false⟩ ∧
      printed (run (launching ["enable"]) (typing "") unlicensedNetwork).transcript =
        [.out "Node status: Not an HA node\n"] ∧
      printed (run (launching ["-q", "enable"]) (typing "") unlicensedNetwork).transcript = [] ∧
      (run (launching ["-q", "enable"]) (typing "") unlicensedNetwork).exit = .code 1 := by
  have hparse : CommandLine.parse ["enable"] none =
      .ok ⟨.perform .enable, false, CommandLine.standardUri, 2, 2, 0, false⟩ := rfl
  have hquiet : CommandLine.parse ["-q", "enable"] none =
      .ok ⟨.perform .enable, true, CommandLine.standardUri, 2, 2, 0, false⟩ := rfl
  obtain ⟨hdeeds, -, hnotices, hcompare⟩ :=
    @end_tells_truth _ (launching ["enable"]) _ hparse (typing "") unlicensedNetwork
  have halike := hcompare rfl ["-q", "enable"] hquiet
  have hexchanged :
      exchanged (launching ["enable"]) (typing "") unlicensedNetwork = [unlicensed] := rfl
  have hmem : unlicensed ∈ exchanged (launching ["enable"]) (typing "") unlicensedNetwork := by
    rw [hexchanged]
    exact List.mem_singleton_self _
  obtain ⟨hloud, hsilent⟩ := halike.unlicensed hmem
  rw [hnotices rfl] at hloud hsilent
  have hexit : (run (launching ["enable"]) (typing "") unlicensedNetwork).exit = .code 1 := by
    decide +kernel
  exact ⟨hparse, hquiet, hloud, hsilent, halike.alike.exit ▸ hexit⟩

end FailoverControl.App
