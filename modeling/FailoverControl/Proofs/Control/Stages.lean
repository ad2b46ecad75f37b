import FailoverControl.Control.Dispatch
import FailoverControl.Proofs.Control.Course

/-!
# The stages of a command

What a command may ask for and come to, as rules: one relation for each of its stages (snapshot,
report, guard, execution) with one rule for each way in which the stage may end. The rules name the
answers, so a property of commands is shown by cases on the rules and never opens a procedure.

The main statement: every course of a command follows the rules (`course_dispatch`).
-/

set_option autoImplicit false

namespace FailoverControl.Control

open FailoverControl.Cluster
open FailoverControl.Daemon
open FailoverControl.Host (IoError)
open FailoverControl.Json (Value DecodeError)

/-! ## Fetched values -/

/-- The call that asks the local daemon for a value. -/
def inquiry (method : String) : Call := ⟨method, [], none⟩

/-- An inquiry and its answer. -/
def asked (method : String) (outcome : CallOutcome) : Exchange := ⟨.call (inquiry method), outcome⟩

/-- A log entry that has been written. -/
def noted (entry : Log.Entry) : Exchange := ⟨.log entry, ()⟩

/-- What the answer to an inquiry is taken for. -/
def readFetched {α : Type} (what : String) (decode : Value → Except DecodeError α) :
    CallOutcome → Except Failure α
  | .error cause => .error (.fetch what cause)
  | .ok value =>
    (decode value).mapError fun e => .fetch what (.other ("unexpected response: " ++ e.message))

/-- What the answer about the licence is taken for. -/
def readLicense : CallOutcome → Except Failure Bool :=
  readFetched "HA license status" Value.asBool

/-- What the answer about the settings is taken for. -/
def readConfig : CallOutcome → Except Failure Config :=
  readFetched "failover configuration" Config.ofValue

/-- What the answer about the role is taken for. -/
def readIdentifier : CallOutcome → Except Failure String :=
  readFetched "failover status" Value.asText

/-- What the answer about the reasons for disabled failover is taken for. -/
def readReasons : CallOutcome → Except Failure (List Reason) :=
  readFetched "failover disabled reasons" fun value => value.asTexts.map (·.map Reason.mk)

variable {exchanges : List Exchange}

/-- A value is fetched with one call. -/
theorem course_fetch {α : Type} {what method : String} {decode : Value → Except DecodeError α}
    {result : Except Failure α} (h : Task.Course (fetch what method decode) exchanges result) :
    ∃ outcome, exchanges = [asked method outcome] ∧ result = readFetched what decode outcome := by
  unfold fetch at h
  rw [Task.course_bind_iff] at h
  rcases h with ⟨e, hinvoke, rfl⟩ | ⟨first, value, second, hinvoke, hdecode, rfl⟩
  · obtain ⟨outcome, hcall, herror⟩ := Task.course_mapFailure_iff.mp hinvoke
    rw [Task.course_invoke_iff] at hcall
    refine ⟨outcome, hcall, ?_⟩
    cases outcome with
    | error cause =>
      obtain rfl : e = .fetch what cause := Except.error.inj herror
      rfl
    | ok value => exact absurd herror (by simp [Except.mapError])
  · obtain ⟨outcome, hcall, hok⟩ := Task.course_mapFailure_iff.mp hinvoke
    rw [Task.course_invoke_iff] at hcall
    cases outcome with
    | error cause => exact absurd hok (by simp [Except.mapError])
    | ok answer =>
      obtain rfl : value = answer := by simpa [Except.mapError] using hok
      cases hvalue : decode value with
      | ok a =>
        simp only [hvalue, Task.course_pure_iff] at hdecode
        obtain ⟨rfl, rfl⟩ := hdecode
        refine ⟨.ok value, by rw [hcall]; rfl, ?_⟩
        simp [readFetched, hvalue, Except.mapError]
      | error e =>
        simp only [hvalue, Task.course_throw_iff] at hdecode
        obtain ⟨rfl, rfl⟩ := hdecode
        refine ⟨.ok value, by rw [hcall]; rfl, ?_⟩
        simp [readFetched, hvalue, Except.mapError]

/-- A value is fetched with one call, whatever the answer is. -/
theorem course_fetch_iff {α : Type} {what method : String} {decode : Value → Except DecodeError α}
    {outcome : CallOutcome} {result : Except Failure α} :
    Task.Course (fetch what method decode) [asked method outcome] result ↔
      result = readFetched what decode outcome := by
  constructor
  · intro h
    obtain ⟨found, hasked, hresult⟩ := course_fetch h
    obtain rfl : outcome = found := by simpa [asked] using hasked
    exact hresult
  · rintro rfl
    have hinvoke : Task.Course (invoke (inquiry method)) [asked method outcome] outcome :=
      Task.course_invoke_iff.mpr rfl
    have hmapped := Task.course_mapFailure_iff (f := Failure.fetch what).mpr ⟨outcome, hinvoke, rfl⟩
    unfold fetch
    rw [Task.course_bind_iff]
    cases outcome with
    | error cause => exact .inl ⟨_, hmapped, rfl⟩
    | ok value =>
      refine .inr ⟨_, value, [], hmapped, ?_, (List.append_nil _).symm⟩
      cases hvalue : decode value with
      | ok a => simp [readFetched, hvalue, Except.mapError, Task.course_pure_iff]
      | error e => simp [readFetched, hvalue, Except.mapError, Task.course_throw_iff]

/-- A sequence that begins with a fetched value ends with an answer that cannot be used or goes on
with the value. -/
theorem course_fetch_bind {α β : Type} {what method : String}
    {decode : Value → Except DecodeError α} {f : α → Task Failure β} {result : Except Failure β}
    (h : Task.Course (fetch what method decode >>= f) exchanges result) :
    ∃ outcome,
      (∃ e, readFetched what decode outcome = .error e ∧ exchanges = [asked method outcome] ∧
        result = .error e) ∨
      (∃ a rest, readFetched what decode outcome = .ok a ∧ Task.Course (f a) rest result ∧
        exchanges = asked method outcome :: rest) := by
  rw [Task.course_bind_iff] at h
  rcases h with ⟨e, hfetch, rfl⟩ | ⟨first, a, rest, hfetch, hrest, rfl⟩
  · obtain ⟨outcome, rfl, hread⟩ := course_fetch hfetch
    exact ⟨outcome, .inl ⟨e, hread.symm, rfl, rfl⟩⟩
  · obtain ⟨outcome, rfl, hread⟩ := course_fetch hfetch
    exact ⟨outcome, .inr ⟨a, rest, hread.symm, hrest, rfl⟩⟩

/-! ## The snapshot -/

/-- The log entry on the role of this node. -/
def roleEntry (identifier : String) : Log.Entry :=
  ⟨.debug, "hactl::failover", "Local failover role",
    [("identifier", identifier), ("role", (Role.ofIdentifier identifier).name)]⟩

/-- The log entry on the snapshot. -/
def snapshotEntry (command : Command) (snapshot : Snapshot) : Log.Entry :=
  ⟨.debug, "hactl::commands", "Cluster snapshot taken",
    [("command", command.logName), ("role", snapshot.role.name),
      ("config",
        "FailoverConfig \x7b disabled: " ++
          (if snapshot.config.disabled then "true" else "false") ++ " \x7d")]⟩

/-- The role is fetched by one inquiry and noted when it can be read. -/
theorem course_fetchRole {result : Except Failure Role}
    (h : Task.Course fetchRole exchanges result) :
    ∃ status,
      (∃ e, readIdentifier status = .error e ∧
        exchanges = [asked Method.status status] ∧ result = .error e) ∨
      (∃ identifier, readIdentifier status = .ok identifier ∧
        exchanges = [asked Method.status status, noted (roleEntry identifier)] ∧
        result = .ok (Role.ofIdentifier identifier)) := by
  unfold fetchRole at h
  obtain ⟨status, ⟨e, hstatus, rfl, rfl⟩ | ⟨identifier, _, hstatus, hrest, rfl⟩⟩ :=
    course_fetch_bind h
  · exact ⟨status, .inl ⟨e, hstatus, rfl, rfl⟩⟩
  · simp only [Task.course_note_bind_iff, Task.course_pure_iff] at hrest
    obtain ⟨_, ⟨rfl, rfl⟩, rfl⟩ := hrest
    exact ⟨status, .inr ⟨identifier, hstatus, rfl, rfl⟩⟩

/-- How the snapshot is taken: an answer that cannot be used ends it, and so does a missing
licence. -/
inductive SnapshotCourse (command : Command) : List Exchange → Except Failure Snapshot → Prop
  | licenseFailed {license : CallOutcome} {e : Failure}
      (hlicense : readLicense license = .error e) :
      SnapshotCourse command [asked Method.licenseIsHA license] (.error e)
  | unlicensed {license : CallOutcome} (hlicense : readLicense license = .ok false) :
      SnapshotCourse command [asked Method.licenseIsHA license] (.error .notHaNode)
  | configFailed {license config : CallOutcome} {e : Failure}
      (hlicense : readLicense license = .ok true) (hconfig : readConfig config = .error e) :
      SnapshotCourse command [asked Method.licenseIsHA license, asked Method.config config]
        (.error e)
  | roleFailed {license config status : CallOutcome} {settings : Config} {e : Failure}
      (hlicense : readLicense license = .ok true) (hconfig : readConfig config = .ok settings)
      (hstatus : readIdentifier status = .error e) :
      SnapshotCourse command
        [asked Method.licenseIsHA license, asked Method.config config, asked Method.status status]
        (.error e)
  | taken {license config status : CallOutcome} {settings : Config} {identifier : String}
      (hlicense : readLicense license = .ok true) (hconfig : readConfig config = .ok settings)
      (hstatus : readIdentifier status = .ok identifier) :
      SnapshotCourse command
        [asked Method.licenseIsHA license, asked Method.config config, asked Method.status status,
          noted (roleEntry identifier),
          noted (snapshotEntry command ⟨Role.ofIdentifier identifier, settings⟩)]
        (.ok ⟨Role.ofIdentifier identifier, settings⟩)

/-- Taking the snapshot follows its rules. -/
theorem course_takeSnapshot {command : Command} {result : Except Failure Snapshot}
    (h : Task.Course (takeSnapshot command) exchanges result) :
    SnapshotCourse command exchanges result := by
  unfold takeSnapshot at h
  obtain ⟨license, ⟨e, hlicense, rfl, rfl⟩ | ⟨licensed, _, hlicense, hrest, rfl⟩⟩ :=
    course_fetch_bind h
  · exact .licenseFailed hlicense
  -- Only a licence lets the snapshot go on to the settings and the role.
  cases licensed with
  | false =>
    simp only [Bool.not_false, if_true, Task.course_bind_iff, Task.course_throw_iff] at hrest
    rcases hrest with ⟨e, ⟨rfl, he⟩, rfl⟩ | ⟨_, _, _, ⟨-, he⟩, -⟩
    · cases he
      exact .unlicensed hlicense
    · cases he
  | true =>
    simp only [Bool.not_true, Bool.false_eq_true, if_false] at hrest
    obtain ⟨config, ⟨e, hconfig, rfl, rfl⟩ | ⟨settings, _, hconfig, hrole, rfl⟩⟩ :=
      course_fetch_bind hrest
    · exact .configFailed hlicense hconfig
    rw [Task.course_bind_iff] at hrole
    rcases hrole with ⟨e, hfetch, rfl⟩ | ⟨_, role, _, hfetch, hend, rfl⟩
    · obtain ⟨status, ⟨e', hstatus, rfl, he⟩ | ⟨_, _, _, he⟩⟩ := course_fetchRole hfetch
      · cases he
        exact .roleFailed hlicense hconfig hstatus
      · cases he
    · obtain ⟨status, ⟨_, _, _, he⟩ | ⟨identifier, hstatus, rfl, he⟩⟩ := course_fetchRole hfetch
      · cases he
      · cases he
        simp only [Task.course_note_bind_iff, Task.course_pure_iff] at hend
        obtain ⟨_, ⟨rfl, rfl⟩, rfl⟩ := hend
        exact .taken hlicense hconfig hstatus

/-! ## The report -/

/-- The call that asks for facts about the other node. -/
def peerInquiry (options : CallOptions) : Call :=
  .forwarded Method.systemInfo [] (some options)

/-- How a report is gathered: three questions, of which only the last one can fail it. -/
inductive ReportCourse (role : Role) (options : CallOptions) :
    List Exchange → Except Failure Report → Prop
  | gathered (serial : Except IoError String) (facts reasons : CallOutcome) :
      ReportCourse role options
        [⟨.serial, serial⟩, ⟨.call (peerInquiry options), facts⟩,
          asked Method.disabledReasons reasons]
        ((readReasons reasons).map fun reasons =>
          { role, serial, peerSerial := facts.bind serialOf, options, reasons })

/-- The other node is asked once, and its serial number is read off the answer. -/
theorem course_fetchPeerSerial {options : CallOptions} {result : Except CallError String}
    (h : Task.Course (fetchPeerSerial options) exchanges result) :
    ∃ facts, exchanges = [⟨.call (peerInquiry options), facts⟩] ∧
      result = facts.bind serialOf := by
  unfold fetchPeerSerial at h
  simp only [Task.course_bind_iff, Task.course_invoke_iff] at h
  rcases h with ⟨e, rfl, rfl⟩ | ⟨first, facts, second, rfl, hserial, rfl⟩
  · exact ⟨.error e, rfl, rfl⟩
  · obtain ⟨rfl, rfl⟩ := Procedure.course_done_iff.mp hserial
    exact ⟨.ok facts, rfl, rfl⟩

/-- Gathering a report follows its rules. -/
theorem course_gatherReport {role : Role} {options : CallOptions} {result : Except Failure Report}
    (h : Task.Course (gatherReport role options) exchanges result) :
    ReportCourse role options exchanges result := by
  unfold gatherReport at h
  obtain ⟨serial, _, hrest, rfl⟩ := Task.course_lift_bind_iff.mp h
  rw [Task.course_bind_iff] at hrest
  rcases hrest with ⟨e, hpeer, -⟩ | ⟨_, peerSerial, _, hpeer, hrest, rfl⟩
  · obtain ⟨_, _, _, -, hdone, -⟩ := Procedure.course_bind_iff.mp hpeer
    cases (Procedure.course_done_iff.mp hdone).2
  obtain ⟨_, _, _, hfetch, hdone, rfl⟩ := Procedure.course_bind_iff.mp hpeer
  obtain ⟨rfl, he⟩ := Procedure.course_done_iff.mp hdone
  cases he
  obtain ⟨facts, rfl, rfl⟩ := course_fetchPeerSerial hfetch
  obtain ⟨answer, ⟨e, hread, rfl, rfl⟩ | ⟨reasons, _, hread, hend, rfl⟩⟩ :=
    course_fetch_bind hrest
  · have hresult : ReportCourse role options _ _ := .gathered serial facts answer
    rw [readReasons, hread] at hresult
    exact hresult
  · obtain ⟨rfl, rfl⟩ := Task.course_pure_iff.mp hend
    have hresult : ReportCourse role options _ _ := .gathered serial facts answer
    rw [readReasons, hread] at hresult
    exact hresult

/-! ## Execution -/

/-- The one call with which an action changes the cluster. -/
def Action.mutation : Action → Call
  | .enable => ⟨Method.update, [.object [("disabled", .bool false)]], none⟩
  | .disable => ⟨Method.update, [.object [("disabled", .bool true)]], none⟩
  | .takeover => .forwarded Method.becomePassive [] none
  | .giveback => ⟨Method.becomePassive, [], none⟩

/-- What is shown before a disruptive action, and the answer to the question that follows. -/
def consulted (warning : String) (agreed : Bool) : List Exchange :=
  [⟨.warn warning, ()⟩, ⟨.confirm confirmationPrompt, agreed⟩]

/-- The warning before a disruptive action; the others have none. -/
def Action.warning : Action → String
  | .takeover => "This will likely cause the other node to reboot."
  | .giveback => "This will cause this node to reboot."
  | _ => ""

/-- The log entry on the demotion of the other node. -/
def takeoverEntry : Log.Entry :=
  ⟨.info, executionTarget, "Asking the other node to become passive", []⟩

/-- The log entry on the demotion of this node. -/
def givebackEntry : Log.Entry :=
  ⟨.info, executionTarget, "Asking this node to become passive", []⟩

/-- What the answer to a change of the cluster comes to. -/
def mutated (executed : Executed) (outcome : CallOutcome) : Except Failure Executed :=
  match outcome with
  | .ok _ => .ok executed
  | .error cause => .error (.mutation cause)

/-- What the start of a reboot comes to. -/
def rebooted (outcome : Except IoError Unit) : Except Failure Executed :=
  match outcome with
  | .ok () => .ok .givebackRequested
  | .error cause => .error (.reboot cause)

/-- How an action is carried out. -/
inductive ExecutionCourse : Action → List Exchange → Except Failure Executed → Prop
  | enable (outcome : CallOutcome) :
      ExecutionCourse .enable [⟨.call (Action.mutation .enable), outcome⟩]
        (mutated .enabled outcome)
  | disable (outcome : CallOutcome) :
      ExecutionCourse .disable [⟨.call (Action.mutation .disable), outcome⟩]
        (mutated .disabled outcome)
  | takeoverCancelled :
      ExecutionCourse .takeover (consulted (Action.warning .takeover) false)
        (.error (.cancelled .takeover))
  | takeover (outcome : CallOutcome) :
      ExecutionCourse .takeover
        (consulted (Action.warning .takeover) true ++
          [noted takeoverEntry, ⟨.call (Action.mutation .takeover), outcome⟩])
        (mutated .takeoverRequested outcome)
  | givebackCancelled :
      ExecutionCourse .giveback (consulted (Action.warning .giveback) false)
        (.error (.cancelled .giveback))
  | givebackRefused (cause : CallError) :
      ExecutionCourse .giveback
        (consulted (Action.warning .giveback) true ++
          [noted givebackEntry, ⟨.call (Action.mutation .giveback), .error cause⟩])
        (.error (.mutation cause))
  | giveback (value : Value) (outcome : Except IoError Unit) :
      ExecutionCourse .giveback
        (consulted (Action.warning .giveback) true ++
          [noted givebackEntry, ⟨.call (Action.mutation .giveback), .ok value⟩,
            ⟨.reboot, outcome⟩])
        (rebooted outcome)

/-- A change of the cluster takes one call. A refusal of it is a failed mutation and ends the
action. -/
theorem course_mutate_bind {call : Call} {f : Unit → Task Failure Executed}
    {result : Except Failure Executed}
    (h : Task.Course (Task.mapFailure Failure.mutation (do let _ ← invoke call) >>= f)
      exchanges result) :
    (∃ cause, exchanges = [⟨.call call, .error cause⟩] ∧ result = .error (.mutation cause)) ∨
      ∃ value rest, Task.Course (f ()) rest result ∧
        exchanges = ⟨.call call, .ok value⟩ :: rest := by
  rw [Task.course_bind_iff] at h
  rcases h with ⟨e, hmutate, rfl⟩ | ⟨_, _, rest, hmutate, hrest, rfl⟩
  all_goals
    obtain ⟨inner, hcall, hinner⟩ := Task.course_mapFailure_iff.mp hmutate
    simp only [Task.course_bind_iff, Task.course_invoke_iff, Task.course_pure_iff] at hcall
    rcases hcall with ⟨cause, rfl, rfl⟩ | ⟨_, value, _, rfl, ⟨rfl, rfl⟩, rfl⟩
  · cases hinner
    exact .inl ⟨cause, rfl, rfl⟩
  · cases hinner
  · cases hinner
  · exact .inr ⟨value, rest, hrest, rfl⟩

/-- A change of the cluster that ends an action. -/
theorem course_mutate_then {call : Call} {executed : Executed} {result : Except Failure Executed}
    (h : Task.Course
      (do Task.mapFailure Failure.mutation (do let _ ← invoke call); return executed)
      exchanges result) :
    ∃ outcome, exchanges = [⟨.call call, outcome⟩] ∧ result = mutated executed outcome := by
  rcases course_mutate_bind h with ⟨cause, rfl, rfl⟩ | ⟨value, _, hrest, rfl⟩
  · exact ⟨.error cause, rfl, rfl⟩
  · obtain ⟨rfl, rfl⟩ := Task.course_pure_iff.mp hrest
    exact ⟨.ok value, rfl, rfl⟩

/-- The operator is warned and asked, and only an affirmative answer lets the action go on. -/
theorem course_confirmOrCancel {action : Action} {warning : String} {result : Except Failure Unit}
    (h : Task.Course (confirmOrCancel action warning) exchanges result) :
    (exchanges = consulted warning false ∧ result = .error (.cancelled action)) ∨
      (exchanges = consulted warning true ∧ result = .ok ()) := by
  unfold confirmOrCancel at h
  obtain ⟨_, _, hrest, rfl⟩ := Task.course_lift_bind_iff.mp h
  obtain ⟨agreed, _, hend, rfl⟩ := Task.course_lift_bind_iff.mp hrest
  cases agreed with
  | false =>
    obtain ⟨rfl, rfl⟩ := Task.course_throw_iff.mp hend
    exact .inl ⟨rfl, rfl⟩
  | true =>
    obtain ⟨rfl, rfl⟩ := Task.course_pure_iff.mp hend
    exact .inr ⟨rfl, rfl⟩

/-- Without the consent of the operator nothing follows. -/
theorem course_confirmOrCancel_bind {action : Action} {warning : String}
    {f : Unit → Task Failure Executed} {result : Except Failure Executed}
    (h : Task.Course (confirmOrCancel action warning >>= f) exchanges result) :
    (exchanges = consulted warning false ∧ result = .error (.cancelled action)) ∨
      ∃ rest, Task.Course (f ()) rest result ∧ exchanges = consulted warning true ++ rest := by
  rw [Task.course_bind_iff] at h
  rcases h with ⟨e, hconfirm, rfl⟩ | ⟨_, _, rest, hconfirm, hrest, rfl⟩
  · rcases course_confirmOrCancel hconfirm with ⟨rfl, he⟩ | ⟨-, he⟩
    · cases he
      exact .inl ⟨rfl, rfl⟩
    · cases he
  · rcases course_confirmOrCancel hconfirm with ⟨-, he⟩ | ⟨rfl, -⟩
    · cases he
    · exact .inr ⟨rest, hrest, rfl⟩

/-- A reboot that ends an action is one request, and what it is answered decides. -/
theorem course_reboot_then {result : Except Failure Executed}
    (h : Task.Course (do reboot; return .givebackRequested) exchanges result) :
    ∃ outcome : Except IoError Unit,
      exchanges = [⟨.reboot, outcome⟩] ∧ result = rebooted outcome := by
  rw [Task.course_bind_iff] at h
  rcases h with ⟨e, hreboot, rfl⟩ | ⟨_, _, _, hreboot, hend, rfl⟩
  all_goals
    obtain ⟨outcome, hrequest, hmapped⟩ := Task.course_mapFailure_iff.mp hreboot
    obtain rfl := Procedure.course_request_iff.mp hrequest
  · cases outcome with
    | ok _ => cases hmapped
    | error cause =>
      cases hmapped
      exact ⟨.error cause, rfl, rfl⟩
  · obtain ⟨rfl, rfl⟩ := Task.course_pure_iff.mp hend
    cases outcome with
    | ok _ => exact ⟨.ok (), rfl, rfl⟩
    | error cause => cases hmapped

/-- Carrying out an action follows its rules. -/
theorem course_execute {action : Action} {result : Except Failure Executed}
    (h : Task.Course (execute action) exchanges result) :
    ExecutionCourse action exchanges result := by
  cases action with
  | enable =>
    obtain ⟨outcome, rfl, rfl⟩ := course_mutate_then h
    exact .enable outcome
  | disable =>
    obtain ⟨outcome, rfl, rfl⟩ := course_mutate_then h
    exact .disable outcome
  | takeover =>
    simp only [execute] at h
    rcases course_confirmOrCancel_bind h with ⟨rfl, rfl⟩ | ⟨_, hrest, rfl⟩
    · exact .takeoverCancelled
    obtain ⟨_, hmutate, rfl⟩ := Task.course_note_bind_iff.mp hrest
    obtain ⟨outcome, rfl, rfl⟩ := course_mutate_then hmutate
    exact .takeover outcome
  | giveback =>
    simp only [execute] at h
    rcases course_confirmOrCancel_bind h with ⟨rfl, rfl⟩ | ⟨_, hrest, rfl⟩
    · exact .givebackCancelled
    obtain ⟨_, hmutate, rfl⟩ := Task.course_note_bind_iff.mp hrest
    rcases course_mutate_bind hmutate with ⟨cause, rfl, rfl⟩ | ⟨value, _, hreboot, rfl⟩
    · exact .givebackRefused cause
    obtain ⟨outcome, rfl, rfl⟩ := course_reboot_then hreboot
    exact .giveback value outcome

/-! ## The guard -/

/-- How an action is performed on a cluster in the given state: the guard comes first, then, for a
disruptive action, the health of failover. -/
inductive PerformanceCourse (snapshot : Snapshot) (action : Action) :
    List Exchange → Except Failure Executed → Prop
  | rejected {rejection : Rejection} (hguard : snapshot.rejection? action = some rejection) :
      PerformanceCourse snapshot action [] (.error (.rejected rejection))
  | undisruptive {exchanges : List Exchange} {result : Except Failure Executed}
      (hguard : snapshot.rejection? action = none) (hhealth : action.requiresHealth = false)
      (hexecution : ExecutionCourse action exchanges result) :
      PerformanceCourse snapshot action exchanges result
  | reasonsFailed {reasons : CallOutcome} {e : Failure}
      (hguard : snapshot.rejection? action = none) (hhealth : action.requiresHealth = true)
      (hreasons : readReasons reasons = .error e) :
      PerformanceCourse snapshot action [asked Method.disabledReasons reasons] (.error e)
  | unhealthy {reasons : CallOutcome} {first : Reason} {rest : List Reason}
      (hguard : snapshot.rejection? action = none) (hhealth : action.requiresHealth = true)
      (hreasons : readReasons reasons = .ok (first :: rest)) :
      PerformanceCourse snapshot action [asked Method.disabledReasons reasons]
        (.error (.rejected .unhealthy))
  | healthy {reasons : CallOutcome} {exchanges : List Exchange} {result : Except Failure Executed}
      (hguard : snapshot.rejection? action = none) (hhealth : action.requiresHealth = true)
      (hreasons : readReasons reasons = .ok [])
      (hexecution : ExecutionCourse action exchanges result) :
      PerformanceCourse snapshot action (asked Method.disabledReasons reasons :: exchanges) result

/-- Only a rejection keeps an action from going on. -/
theorem course_proceedUnless {rejection : Option Rejection} {result : Except Failure Unit}
    (h : Task.Course (proceedUnless rejection) exchanges result) :
    exchanges = [] ∧ ((rejection = none ∧ result = .ok ()) ∨
      ∃ r, rejection = some r ∧ result = .error (.rejected r)) := by
  cases rejection with
  | none =>
    obtain ⟨rfl, rfl⟩ := Task.course_pure_iff.mp h
    exact ⟨rfl, .inl ⟨rfl, rfl⟩⟩
  | some r =>
    obtain ⟨rfl, rfl⟩ := Task.course_throw_iff.mp h
    exact ⟨rfl, .inr ⟨r, rfl, rfl⟩⟩

/-- Performing an action behind the snapshot follows its rules. -/
theorem course_perform {snapshot : Snapshot} {action : Action} {result : Except Failure Executed}
    (h : Task.Course (perform snapshot action) exchanges result) :
    PerformanceCourse snapshot action exchanges result := by
  unfold perform at h
  rw [Task.course_bind_iff] at h
  rcases h with ⟨e, hguard, rfl⟩ | ⟨_, _, _, hguard, hrest, rfl⟩
  · obtain ⟨rfl, ⟨-, he⟩ | ⟨r, hr, he⟩⟩ := course_proceedUnless hguard
    · cases he
    · cases he
      exact .rejected hr
  obtain ⟨rfl, ⟨hguard, -⟩ | ⟨r, -, he⟩⟩ := course_proceedUnless hguard
  swap
  · cases he
  -- The reasons are asked for before disruptive actions only.
  cases hhealth : action.requiresHealth with
  | false =>
    simp only [hhealth, Bool.false_eq_true, if_false] at hrest
    exact .undisruptive hguard hhealth (course_execute hrest)
  | true =>
    simp only [hhealth, if_true] at hrest
    obtain ⟨answer, ⟨e, hread, rfl, rfl⟩ | ⟨reasons, _, hread, hhealthy, rfl⟩⟩ :=
      course_fetch_bind hrest
    · exact .reasonsFailed hguard hhealth hread
    rw [Task.course_bind_iff] at hhealthy
    cases reasons with
    | nil =>
      rcases hhealthy with ⟨e, hproceed, rfl⟩ | ⟨_, _, _, hproceed, hexecute, rfl⟩
      · cases (Task.course_pure_iff.mp hproceed).2
      · obtain ⟨rfl, -⟩ := Task.course_pure_iff.mp hproceed
        exact .healthy hguard hhealth hread (course_execute hexecute)
    | cons reason rest =>
      rcases hhealthy with ⟨e, hproceed, rfl⟩ | ⟨_, _, _, hproceed, hrest, rfl⟩
      · obtain ⟨rfl, he⟩ := Task.course_throw_iff.mp hproceed
        cases he
        exact .unhealthy hguard hhealth hread
      · cases (Task.course_throw_iff.mp hproceed).2

/-! ## Whole commands -/

/-- How a command runs: it takes the snapshot and then reports or performs its action. -/
inductive CommandCourse (options : CallOptions) :
    Command → List Exchange → Except Failure Outcome → Prop
  | stopped {command : Command} {exchanges : List Exchange} {e : Failure}
      (hsnapshot : SnapshotCourse command exchanges (.error e)) :
      CommandCourse options command exchanges (.error e)
  | reported {before after : List Exchange} {snapshot : Snapshot} {result : Except Failure Report}
      (hsnapshot : SnapshotCourse .status before (.ok snapshot))
      (hreport : ReportCourse snapshot.role options after result) :
      CommandCourse options .status (before ++ after) (result.map .report)
  | performed {action : Action} {before after : List Exchange} {snapshot : Snapshot}
      {result : Except Failure Executed}
      (hsnapshot : SnapshotCourse (.perform action) before (.ok snapshot))
      (hperform : PerformanceCourse snapshot action after result) :
      CommandCourse options (.perform action) (before ++ after) (result.map .executed)

/-- What is done with the result of the last stage of a command. -/
theorem course_wrap {α : Type} {task : Task Failure α} {wrap : α → Outcome}
    {result : Except Failure Outcome}
    (h : Task.Course (do return wrap (← task)) exchanges result) :
    ∃ inner, Task.Course task exchanges inner ∧ result = inner.map wrap := by
  rw [Task.course_bind_iff] at h
  rcases h with ⟨e, htask, rfl⟩ | ⟨_, a, _, htask, hwrap, rfl⟩
  · exact ⟨.error e, htask, rfl⟩
  · obtain ⟨rfl, rfl⟩ := Task.course_pure_iff.mp hwrap
    exact ⟨.ok a, by rwa [List.append_nil], rfl⟩

/-- A command runs by the rules. -/
theorem course_dispatch {command : Command} {options : CallOptions}
    {result : Except Failure Outcome}
    (h : Task.Course (dispatch command options) exchanges result) :
    CommandCourse options command exchanges result := by
  unfold dispatch at h
  rw [Task.course_bind_iff] at h
  rcases h with ⟨e, hsnapshot, rfl⟩ | ⟨_, snapshot, _, hsnapshot, hrest, rfl⟩
  · exact .stopped (course_takeSnapshot hsnapshot)
  have htaken := course_takeSnapshot hsnapshot
  cases command with
  | status =>
    obtain ⟨inner, hreport, rfl⟩ := course_wrap hrest
    exact .reported htaken (course_gatherReport hreport)
  | perform action =>
    obtain ⟨inner, hperform, rfl⟩ := course_wrap hrest
    exact .performed htaken (course_perform hperform)

end FailoverControl.Control
