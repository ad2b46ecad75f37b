import FailoverControl.Proofs.App.Success

/-!
# What stops the program

A request may stop the program instead of being answered: a bounded call whose deadline does not
fit, an unbounded call that nothing decides, or a question that the operator interrupts. Only the
question for the facts about the other node is bounded, so a deadline can only overflow in a report,
and there it does whenever the two bounds and the second that is granted on top reach `2 ^ 64`
seconds: the program crashes before it has asked the other node anything.

The main statement: `crash_iff`.
-/

set_option autoImplicit false

namespace FailoverControl

namespace Daemon.CallOptions

/-- The deadline of bounds in whole seconds fits when it stays below `2 ^ 64` seconds. -/
theorem localDeadline?_eq_none_iff (timeout connectTimeout : UInt64) :
    localDeadline? ⟨.ofSeconds timeout, .ofSeconds connectTimeout⟩ = none ↔
      UInt64.size ≤ timeout.toNat + connectTimeout.toNat + 1 := by
  have hsize : UInt64.size = 18446744073709551616 := rfl
  have hgrace : grace.total = 1000000000 := rfl
  rw [← Option.not_isSome_iff_eq_none, isSome_localDeadline?_iff, Duration.total_ofSeconds,
    Duration.total_ofSeconds, hgrace]
  omega

end Daemon.CallOptions

namespace Control

open FailoverControl.Daemon

/-! ## Deadlines that do not fit -/

/-- Whether a request is a bounded call whose deadline does not fit. -/
def Request.overflows : Request → Bool
  | .call c => c.options.any fun options => options.localDeadline?.isNone
  | _ => false

variable {options : CallOptions}

/-- Only calls overflow. -/
theorem overflows_of_calls {exchanges : List Exchange}
    (h : ∀ call ∈ calls exchanges, (Request.call call).overflows = false) :
    ∀ e ∈ exchanges, e.request.overflows = false := by
  intro e he
  obtain ⟨request, a⟩ := e
  cases request with
  | call call => exact h call (List.mem_filterMap.mpr ⟨_, he, rfl⟩)
  | _ => rfl

/-- A call of a script overflows only by the options of the command. -/
theorem overflows_of_mem_script (hfits : options.localDeadline?.isNone = false)
    {command : Command} {call : Call} (h : call ∈ command.script options) :
    (Request.call call).overflows = false := by
  rcases Command.options_of_mem_script h with hoptions | hoptions
  · simp only [Request.overflows, hoptions, Option.any_none]
  · simp only [Request.overflows, hoptions, Option.any_some, hfits]

/-- The snapshot makes no call whose deadline does not fit. -/
theorem avoids_takeSnapshot (command : Command) :
    (takeSnapshot command).run.Avoids Request.overflows := by
  refine Procedure.avoids_of_courses fun exchanges result hcourse => overflows_of_calls ?_
  intro call hcall
  have hscript : call ∈ Command.script .standard .status :=
    List.mem_append_left _ ((course_takeSnapshot hcourse).calls_begin.subset hcall)
  exact overflows_of_mem_script rfl hscript

/-- Options whose deadline fits stop no command. -/
theorem avoids_dispatch_of_fits (hfits : options.localDeadline?.isNone = false)
    (command : Command) : (dispatch command options).run.Avoids Request.overflows := by
  refine Procedure.avoids_of_courses fun exchanges result hcourse => overflows_of_calls ?_
  intro call hcall
  exact overflows_of_mem_script hfits ((course_dispatch hcourse).calls_begin.subset hcall)

/-- No call of an action is bounded. -/
theorem avoids_dispatch_of_action (action : Action) (options : CallOptions) :
    (dispatch (.perform action) options).run.Avoids Request.overflows := by
  refine Procedure.avoids_of_courses fun exchanges result hcourse => overflows_of_calls ?_
  intro call hcall
  -- The script of an action does not depend on the bounds, so any that fit will do.
  have hscript : call ∈ Command.script .standard (.perform action) :=
    (course_dispatch hcourse).calls_begin.subset hcall
  exact overflows_of_mem_script rfl hscript

end Control

namespace App

open FailoverControl.Control
open FailoverControl.Daemon
open FailoverControl.Operator (Terminal outText)

variable {σ α β : Type} {session : Session σ}

/-! ## Requests that stop the program -/

/-- A request stops the program in a session. -/
inductive Stops (session : Session σ) : Request → Halt → Prop
  | overflow {call : Call} {options : CallOptions} (hoptions : call.options = some options)
      (hdeadline : options.localDeadline? = none) : Stops session (.call call) .overflow
  | waiting {call : Call} (hunbounded : call.options = none)
      (hundecided : (session.client.call call.method call.args false).1 = none) :
      Stops session (.call call) .waiting
  | interrupted {prompt : String} {t : Terminal} (hterminal : session.desk.confirmer = .terminal t)
      (hinterrupt : session.interruptAtPrompt = true) : Stops session (.confirm prompt) .interrupted

/-- A call stops the program when nothing decides it and that is what then happens. -/
theorem invokeWith_eq_error_iff {call : Call} {bounded : Bool} {client : Rpc.Client σ}
    {undecided : Except Halt (CallOutcome × List Log.Entry)} {halt : Halt} :
    invokeWith call bounded client undecided = .error halt ↔
      (client.call call.method call.args bounded).1 = none ∧ undecided = .error halt := by
  unfold invokeWith
  obtain ⟨result, client', log⟩ := client.call call.method call.args bounded
  cases result <;> rcases undecided with e | _ <;> simp [bind, Except.bind, pure, Except.pure]

/-- A call stops the program when its deadline does not fit or when it waits for ever. -/
theorem invoke_eq_error_iff {call : Call} {halt : Halt} :
    Daemon.invoke call session.client = .error halt ↔ Stops session (.call call) halt := by
  constructor
  · intro h
    cases hoptions : call.options with
    | none =>
      simp only [Daemon.invoke, hoptions, invokeWith_eq_error_iff] at h
      obtain ⟨hundecided, hwaiting⟩ := h
      cases hwaiting
      exact .waiting hoptions hundecided
    | some options =>
      cases hdeadline : options.localDeadline? with
      | none =>
        simp only [Daemon.invoke, hoptions, hdeadline] at h
        cases h
        exact .overflow hoptions hdeadline
      | some deadline =>
        simp only [Daemon.invoke, hoptions, hdeadline, invokeWith_eq_error_iff] at h
        cases h.2
  · intro h
    cases h with
    | overflow hoptions hdeadline => simp only [Daemon.invoke, hoptions, hdeadline]
    | waiting hunbounded hundecided =>
      simp only [Daemon.invoke, hunbounded, invokeWith_eq_error_iff]
      exact ⟨hundecided, trivial⟩

/-- A request is not answered exactly when it stops the program. -/
theorem answer_eq_error_iff {r : Request} {halt : Halt} :
    ((answer r).run.run session).1 = .error halt ↔ Stops session r halt := by
  cases r with
  | call call =>
    rw [← invoke_eq_error_iff, answer, run_callDaemon]
    cases Daemon.invoke call session.client <;> simp
  | confirm prompt =>
    rw [answer]
    cases hconfirmer : session.desk.confirmer with
    | automatic =>
      rw [run_askOperator_automatic session hconfirmer]
      constructor
      · rintro ⟨⟩
      · rintro (_ | _ | ⟨hterminal, -⟩)
        rw [hconfirmer] at hterminal
        cases hterminal
    | terminal t =>
      cases hinterrupt : session.interruptAtPrompt with
      | false =>
        rw [run_askOperator_terminal hconfirmer hinterrupt]
        constructor
        · rintro ⟨⟩
        · rintro (_ | _ | ⟨-, hinterrupt'⟩)
          rw [hinterrupt] at hinterrupt'
          cases hinterrupt'
      | true =>
        obtain ⟨final, hanswer⟩ := run_askOperator_interrupted hconfirmer hinterrupt prompt
        rw [hanswer]
        constructor
        · rintro ⟨⟩
          exact .interrupted hconfirmer hinterrupt
        · intro hstops
          cases hstops
          rfl
  | _ =>
    constructor
    · rintro ⟨⟩
    · rintro ⟨⟩

/-- A procedure comes to a request that stops the program. -/
def IsStopped (p : Procedure α) (session : Session σ) (halt : Halt) : Prop :=
  ∃ exchanges r next before,
    Proceeds p session exchanges (.ask r next) before ∧ Stops before r halt

/-- A session is stopped exactly when it proceeds to a request that stops it. -/
theorem runIn_eq_error_iff {p : Procedure α} {halt : Halt} :
    (runIn p session).1 = .error halt ↔ IsStopped p session halt := by
  constructor
  · intro h
    have hends := endsIn_runIn p session
    generalize runIn p session = ended at hends h
    cases hends with
    | done hproceeds => cases h
    | @stopped r next later final halt' hproceeds hanswer =>
      obtain rfl := Except.error.inj h
      have hstops := answer_eq_error_iff.mp (congrArg Prod.fst hanswer)
      exact ⟨_, r, next, later, hproceeds, hstops⟩
  · rintro ⟨exchanges, r, next, before, hproceeds, hstops⟩
    have hanswer := answer_eq_error_iff.mpr hstops
    rw [hproceeds.runIn_eq]
    rcases hrun : (answer r).run.run before with ⟨halt' | a, later⟩
    · rw [hrun] at hanswer
      rw [runIn_ask_of_error hrun, Except.error.inj hanswer]
    · rw [hrun] at hanswer
      cases hanswer

/-! ## Overflows -/

/-- What is left of a procedure avoids what the procedure avoids. -/
theorem Proceeds.avoids {p left : Procedure α} {marked : Request → Bool} {final : Session σ}
    {exchanges : List Exchange} (h : Proceeds p session exchanges left final)
    (hp : p.Avoids marked) : left.Avoids marked := by
  induction h with
  | refl p session => exact hp
  | ask hanswer _ ih =>
    cases hp with
    | ask hrequest hnext => exact ih (hnext _)

/-- Only a bounded call whose deadline does not fit overflows. -/
theorem ne_overflow_of_avoids {p : Procedure α} (h : p.Avoids Request.overflows)
    (session : Session σ) : (runIn p session).1 ≠ .error .overflow := by
  intro hrun
  obtain ⟨exchanges, r, next, before, hproceeds, hstops⟩ := runIn_eq_error_iff.mp hrun
  cases hstops with
  | overflow hoptions hdeadline =>
    cases hproceeds.avoids h with
    | ask hrequest hnext => simp [Request.overflows, hoptions, hdeadline] at hrequest

/-- A session of two procedures is a session of the second one where that of the first one ends. -/
theorem runIn_bind (p : Procedure α) (f : α → Procedure β) (session : Session σ) :
    runIn (p >>= f) session =
      match runIn p session with
      | (.ok a, later) => runIn (f a) later
      | (.error halt, later) => (.error halt, later) := by
  induction p generalizing session with
  | done a => rfl
  | ask r next ih =>
    rw [Procedure.ask_bind]
    rcases hanswer : (answer r).run.run session with ⟨halt | a, later⟩
    · rw [runIn_ask_of_error hanswer, runIn_ask_of_error hanswer]
    · rw [runIn_ask_of_ok hanswer, runIn_ask_of_ok hanswer, ih]

/-- A report asks for facts about the other node before anything can fail it. -/
theorem runIn_report_of_overflow {options : CallOptions} (role : Cluster.Role)
    (h : options.localDeadline? = none) (session : Session σ) :
    (runIn (ExceptT.run do return Outcome.report (← gatherReport role options)) session).1 =
      .error .overflow := by
  obtain ⟨next, hnext⟩ : ∃ next : Except Host.IoError String → CallOutcome →
      Procedure (Except Failure Outcome),
      ExceptT.run (do return Outcome.report (← gatherReport role options)) =
        .ask .serial fun serial => .ask (.call (peerInquiry options)) (next serial) := ⟨_, rfl⟩
  rw [hnext, runIn_eq_error_iff]
  exact ⟨_, _, _, _, .ask rfl (.refl _ _), .overflow rfl h⟩

/-- A command is stopped by an overflow exactly when it is a report that has taken its snapshot
and whose bounds do not fit. -/
theorem dispatch_overflow_iff {command : Command} {options : CallOptions} :
    (runIn (dispatch command options).run session).1 = .error .overflow ↔
      command = .status ∧
        (∃ snapshot, (runIn (takeSnapshot .status).run session).1 = .ok (.ok snapshot)) ∧
        options.localDeadline? = none := by
  cases command with
  | perform action =>
    have hnever := ne_overflow_of_avoids (avoids_dispatch_of_action action options) session
    exact ⟨fun h => absurd h hnever, nofun⟩
  | status =>
    cases hdeadline : options.localDeadline? with
    | some deadline =>
      have hfits : options.localDeadline?.isNone = false := by rw [hdeadline, Option.isNone_some]
      have hnever := ne_overflow_of_avoids (avoids_dispatch_of_fits hfits .status) session
      exact ⟨fun h => absurd h hnever, fun h => absurd h.2.2 nofun⟩
    | none =>
      have hsnapshot := ne_overflow_of_avoids (avoids_takeSnapshot .status) session
      rw [dispatch, ExceptT.run_bind, runIn_bind]
      rcases htaken : runIn (takeSnapshot .status).run session with
        ⟨halt | failure | snapshot, later⟩
      · rw [htaken] at hsnapshot
        refine ⟨fun h => ?_, fun h => absurd h.2.1 nofun⟩
        obtain rfl := Except.error.inj h
        exact absurd rfl hsnapshot
      · exact ⟨nofun, fun h => absurd h.2.1 nofun⟩
      · have hreport := runIn_report_of_overflow snapshot.role hdeadline later
        exact ⟨fun _ => ⟨rfl, ⟨snapshot, rfl⟩, rfl⟩, fun _ => hreport⟩

/-! ## Crashes -/

/-- A crash is told of an assignment that is not taken, of a deadline that does not fit, and of
nothing else. -/
theorem exitOf_eq_crash_iff
    {outcome : Except Obstacle (Except Rpc.Failure (Except Halt (Except Failure Outcome)))} :
    exitOf outcome = .crash ↔
      (∃ assignment, outcome = .error (.unsettable assignment)) ∨
        outcome = .ok (.ok (.error .overflow)) := by
  constructor
  · intro h
    match outcome with
    | .ok (.ok (.error .overflow)) => exact .inr rfl
    | .ok (.ok (.error .waiting)) => cases h
    | .ok (.ok (.error .interrupted)) => cases h
    | .ok (.ok (.ok (.ok _))) => cases h
    | .ok (.ok (.ok (.error _))) => cases h
    | .ok (.error _) => cases h
    | .error (.ending (.misuse _)) => cases h
    | .error (.ending (.help _)) => cases h
    | .error (.ending .version) => cases h
    | .error (.unsettable assignment) => exact .inl ⟨assignment, rfl⟩
  · rintro (⟨assignment, rfl⟩ | rfl)
    · rfl
    · rfl

/-- A run that starts crashes exactly when it is to report, connects, takes its snapshot, and the
two bounds for the other node and one second more reach `2 ^ 64` seconds. The others that crash have
a file of variables that sets a variable to a value with a NUL, which the system does not take.
Every other run over a connection comes to an outcome or to a failure, unless it waits for an answer
that never comes or the operator interrupts its question. -/
theorem crash_iff (launch : Launch) (machine : Machine) (network : Rpc.Network σ) :
    ((run launch machine network).exit = .crash ↔
        (∃ arguments name value,
          CommandLine.parse launch.arguments launch.uriValue = .ok arguments ∧
            launch.environment.get? name = none ∧
            launch.assignments.lookup name = some value ∧ '\x00' ∈ value.toList) ∨
        ∃ startup client, launch.start = .ok startup ∧
          Rpc.connect network startup.arguments.uri connectTimeout = .ok client ∧
          startup.arguments.command = .status ∧
          (∃ snapshot, (runIn (takeSnapshot .status).run (startup.sessionOver machine client)).1 =
            .ok (.ok snapshot)) ∧
          UInt64.size ≤ startup.arguments.peerTimeout.toNat +
            startup.arguments.peerConnectTimeout.toNat + 1) ∧
      ∀ startup client, launch.start = .ok startup →
        Rpc.connect network startup.arguments.uri connectTimeout = .ok client →
        (run launch machine network).exit ≠ .crash →
          (∃ result, (runIn startup.procedure (startup.sessionOver machine client)).1 =
              .ok result) ∨
            IsStopped startup.procedure (startup.sessionOver machine client) .waiting ∨
            IsStopped startup.procedure (startup.sessionOver machine client) .interrupted := by
  rw [exit_run, Ne, exitOf_eq_crash_iff, ← exists_unsettable_iff]
  constructor
  · unfold outcome
    cases hstart : launch.start with
    | error obstacle => simp [Except.map]
    | ok startup =>
      cases hconnect : Rpc.connect network startup.arguments.uri connectTimeout with
      | error cause => simp [Except.map, hconnect]
      | ok client =>
        have hoverflow := @dispatch_overflow_iff _ (startup.sessionOver machine client)
          startup.arguments.command (peerOptions startup.arguments)
        rw [peerOptions, CallOptions.localDeadline?_eq_none_iff] at hoverflow
        simpa [Except.map, hconnect, Startup.procedure, peerOptions] using hoverflow
  · intro startup client hstart hconnect hcrash
    cases hrun : (runIn startup.procedure (startup.sessionOver machine client)).1 with
    | ok result => exact .inl ⟨result, rfl⟩
    | error halt =>
      have hstopped := runIn_eq_error_iff.mp hrun
      cases halt with
      | waiting => exact .inr (.inl hstopped)
      | interrupted => exact .inr (.inr hstopped)
      | overflow =>
        refine absurd (.inr ?_) hcrash
        simp only [outcome, hstart, hconnect, Except.map, hrun]

/-! ## Bounds at the limit -/

/-- What an active node of a healthy cluster answers to a report. -/
def reportAnswers : List String :=
  activeAnswers "false" ++
    ["\x7b\"id\":4,\"result\":\x7b\"system_serial\":\"B\"\x7d\x7d",
      "\x7b\"id\":5,\"result\":[]\x7d"]

/-- The largest bound that is accepted crashes a report; with the standard bound for connecting the
last one that does not is three seconds shorter. -/
theorem crash_of_largestTimeout :
    (run (launching ["--peer-timeout", "18446744073709551615"]) (typing "")
        (answering reportAnswers)).exit = .crash ∧
      (run (launching ["--peer-timeout", "18446744073709551613"]) (typing "")
        (answering reportAnswers)).exit = .crash ∧
      (run (launching ["--peer-timeout", "18446744073709551612"]) (typing "")
        (answering reportAnswers)).exit = .code 0 := by
  refine ⟨?_, ?_, ?_⟩
  · decide +kernel
  · decide +kernel
  · decide +kernel

end App

end FailoverControl
