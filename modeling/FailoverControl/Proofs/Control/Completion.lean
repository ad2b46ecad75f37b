import FailoverControl.Proofs.Control.Plan
import FailoverControl.Proofs.Control.Reboot

/-!
# How a command ends, seen from its change

Apart from its one change, and from the reboot at the end of a giveback, a command asks for nothing
that alters the cluster or this node. So its end tells whether it has altered anything: a command
that fails before its change has altered nothing, a refused change is a failed mutation and the last
thing that is asked for, a change that has been made is the last thing too, and only a giveback goes
on to the reboot.

The main statements: every course of a command ends in one of these ways (`completion_of_course`),
and from its end it follows when a command succeeds (`succeeds_iff`) and what a failed one has
altered (`idle_of_isEarly`, `alters_of_mutation_failed`, `alters_of_reboot_failed`).
-/

set_option autoImplicit false

namespace FailoverControl.Control

open FailoverControl.Daemon
open FailoverControl.Host (IoError)
open FailoverControl.Json (Value)

/-- Whether a request alters the cluster or this node. -/
def Request.alters : Request → Bool
  | .call c => c.changes
  | .reboot => true
  | _ => false

/-- Exchanges that alter nothing. -/
def Idle (exchanges : List Exchange) : Prop :=
  ∀ e ∈ exchanges, e.request.alters = false

/-- Without exchanges nothing is altered. -/
theorem idle_nil : Idle [] := fun _ h => absurd h List.not_mem_nil

/-- Exchanges alter nothing when neither the first one nor any later one does. -/
theorem idle_cons_iff {e : Exchange} {rest : List Exchange} :
    Idle (e :: rest) ↔ e.request.alters = false ∧ Idle rest :=
  List.forall_mem_cons

/-- Exchanges alter nothing when neither of their parts does. -/
theorem idle_append_iff {first second : List Exchange} :
    Idle (first ++ second) ↔ Idle first ∧ Idle second :=
  List.forall_mem_append

/-- The first inquiry, answered by the daemon of a node without a licence. -/
def unlicensed : Exchange := asked Method.licenseIsHA (.ok (.bool false))

/-- The failures of a command that has altered nothing. A missing licence is found before anything
else is asked for. -/
inductive Failure.Spares (exchanges : List Exchange) : Failure → Prop
  | notHaNode (hexchanges : exchanges = [unlicensed]) : Spares exchanges .notHaNode
  | fetch (what : String) (cause : CallError) : Spares exchanges (.fetch what cause)
  | rejected (rejection : Rejection) : Spares exchanges (.rejected rejection)
  | cancelled (action : Action) : Spares exchanges (.cancelled action)

/-- How a command may end. -/
inductive Completion : Command → List Exchange → Except Failure Outcome → Prop
  | reported {exchanges : List Exchange} {report : Report} (hidle : Idle exchanges) :
      Completion .status exchanges (.ok (.report report))
  | spared {command : Command} {exchanges : List Exchange} {failure : Failure}
      (hidle : Idle exchanges) (hspares : failure.Spares exchanges) :
      Completion command exchanges (.error failure)
  | refused {action : Action} {before : List Exchange} {cause : CallError} (hidle : Idle before) :
      Completion (.perform action) (before ++ [⟨.call action.mutation, .error cause⟩])
        (.error (.mutation cause))
  | changed {action : Action} {before : List Exchange} {value : Value} (hidle : Idle before)
      (hstays : action ≠ .giveback) :
      Completion (.perform action) (before ++ [⟨.call action.mutation, .ok value⟩])
        (.ok (.executed action.executed))
  | handedOver {before : List Exchange} {value : Value} {outcome : Except IoError Unit}
      (hidle : Idle before) :
      Completion (.perform .giveback)
        (before ++ [⟨.call (Action.mutation .giveback), .ok value⟩, ⟨.reboot, outcome⟩])
        ((rebooted outcome).map .executed)

/-! ## The stages -/

variable {exchanges : List Exchange}

/-- A failed fetch spares the cluster. -/
theorem spares_of_readFetched {α : Type} {what : String}
    {decode : Value → Except Json.DecodeError α} {outcome : CallOutcome} {e : Failure}
    (h : readFetched what decode outcome = .error e) : e.Spares exchanges := by
  cases outcome with
  | error cause =>
    obtain rfl := Except.error.inj h
    exact .fetch what cause
  | ok value =>
    cases hvalue : decode value with
    | ok a => simp [readFetched, hvalue, Except.mapError] at h
    | error error =>
      simp only [readFetched, hvalue, Except.mapError] at h
      obtain rfl := Except.error.inj h
      exact .fetch what _

/-- Taking the snapshot alters nothing. -/
theorem SnapshotCourse.idle {command : Command} {result : Except Failure Snapshot}
    (h : SnapshotCourse command exchanges result) : Idle exchanges :=
  h.forall_mem (fun call hcall _ => unchanging_snapshotInquiries call hcall) fun _ => rfl

/-- The failures of the snapshot spare the cluster. -/
theorem SnapshotCourse.spares {command : Command} {e : Failure}
    (h : SnapshotCourse command exchanges (.error e)) : e.Spares exchanges := by
  cases h with
  | licenseFailed hlicense => exact spares_of_readFetched hlicense
  | unlicensed hlicense =>
    rw [readLicense_eq_ok_iff.mp hlicense]
    exact .notHaNode rfl
  | configFailed hlicense hconfig => exact spares_of_readFetched hconfig
  | roleFailed hlicense hconfig hstatus => exact spares_of_readFetched hstatus

/-- A report completes its command without altering anything. -/
theorem ReportCourse.completion {role : Cluster.Role} {options : CallOptions}
    {before : List Exchange} {result : Except Failure Report}
    (h : ReportCourse role options exchanges result) (hbefore : Idle before) :
    Completion .status (before ++ exchanges) (result.map .report) := by
  cases h with
  | gathered serial facts reasons =>
    have hpeer : (peerInquiry options).changes = false := rfl
    have hidle : Idle (before ++ [⟨.serial, serial⟩, ⟨.call (peerInquiry options), facts⟩,
        asked Method.disabledReasons reasons]) := by
      simp [idle_append_iff, idle_cons_iff, idle_nil, hbefore, asked, Request.alters, hpeer,
        unchanging_disabledReasons]
    cases hreasons : readReasons reasons with
    | error e => exact .spared hidle (spares_of_readFetched hreasons)
    | ok codes => exact .reported hidle

/-- Consulting the operator alters nothing. -/
theorem idle_consulted (warning : String) (agreed : Bool) : Idle (consulted warning agreed) := by
  simp [consulted, idle_cons_iff, idle_nil, Request.alters]

/-- A change is the last thing that an action asks for, but for the reboot. -/
theorem completion_of_mutated (action : Action) {before : List Exchange} (outcome : CallOutcome)
    (hidle : Idle before) (hstays : action ≠ .giveback) :
    Completion (.perform action) (before ++ [⟨.call action.mutation, outcome⟩])
      ((mutated action.executed outcome).map .executed) := by
  cases outcome with
  | ok value => exact .changed hidle hstays
  | error cause => exact .refused hidle

/-- An action that is carried out completes its command. -/
theorem ExecutionCourse.completion {action : Action} {before : List Exchange}
    {result : Except Failure Executed} (h : ExecutionCourse action exchanges result)
    (hbefore : Idle before) :
    Completion (.perform action) (before ++ exchanges) (result.map .executed) := by
  -- Everything in front of the change joins what has been asked for before.
  have hasked (warning : String) (entry : Log.Entry) :
      Idle (before ++ (consulted warning true ++ [noted entry])) := by
    simp [idle_append_iff, hbefore, idle_consulted, idle_cons_iff, idle_nil, noted, Request.alters]
  cases h with
  | enable outcome => exact completion_of_mutated .enable outcome hbefore nofun
  | disable outcome => exact completion_of_mutated .disable outcome hbefore nofun
  | takeoverCancelled =>
    exact .spared (idle_append_iff.mpr ⟨hbefore, idle_consulted _ _⟩) (.cancelled _)
  | takeover outcome =>
    have hend := completion_of_mutated .takeover outcome
      (hasked (Action.warning .takeover) takeoverEntry) nofun
    rw [List.append_assoc, List.append_assoc] at hend
    exact hend
  | givebackCancelled =>
    exact .spared (idle_append_iff.mpr ⟨hbefore, idle_consulted _ _⟩) (.cancelled _)
  | givebackRefused cause =>
    have hend := @Completion.refused .giveback _ cause
      (hasked (Action.warning .giveback) givebackEntry)
    rw [List.append_assoc, List.append_assoc] at hend
    exact hend
  | giveback value outcome =>
    have hend := @Completion.handedOver _ value outcome
      (hasked (Action.warning .giveback) givebackEntry)
    rw [List.append_assoc, List.append_assoc] at hend
    exact hend

/-- An action completes its command, whether or not the guard lets it pass. -/
theorem PerformanceCourse.completion {snapshot : Snapshot} {action : Action}
    {before : List Exchange} {result : Except Failure Executed}
    (h : PerformanceCourse snapshot action exchanges result) (hbefore : Idle before) :
    Completion (.perform action) (before ++ exchanges) (result.map .executed) := by
  have hasked (reasons : CallOutcome) :
      Idle (before ++ [asked Method.disabledReasons reasons]) := by
    simp [idle_append_iff, idle_cons_iff, idle_nil, hbefore, asked, Request.alters,
      unchanging_disabledReasons]
  cases h with
  | rejected hguard =>
    rw [List.append_nil]
    exact .spared hbefore (.rejected _)
  | undisruptive hguard hhealth hexecution => exact hexecution.completion hbefore
  | reasonsFailed hguard hhealth hreasons =>
    exact .spared (hasked _) (spares_of_readFetched hreasons)
  | unhealthy hguard hhealth hreasons => exact .spared (hasked _) (.rejected _)
  | @healthy reasons _ _ hguard hhealth hreasons hexecution =>
    have hend := hexecution.completion (hasked reasons)
    rw [List.append_assoc] at hend
    exact hend

/-! ## Commands -/

/-- Every course of a command completes it. -/
theorem CommandCourse.completion {options : CallOptions} {command : Command}
    {result : Except Failure Outcome} (h : CommandCourse options command exchanges result) :
    Completion command exchanges result := by
  cases h with
  | stopped hsnapshot => exact .spared hsnapshot.idle hsnapshot.spares
  | reported hsnapshot hreport => exact hreport.completion hsnapshot.idle
  | performed hsnapshot hperform => exact hperform.completion hsnapshot.idle

/-- Every course of a command ends in one of the ways in which a command may end. -/
theorem completion_of_course {command : Command} {options : CallOptions}
    {result : Except Failure Outcome}
    (h : (dispatch command options).run.Course exchanges result) :
    Completion command exchanges result :=
  (course_dispatch h).completion

/-! ## Changes that have been made -/

variable {action : Action}

/-- The change of an action alters the cluster. -/
theorem alters_mutation (action : Action) : (Request.call action.mutation).alters = true :=
  action.changes_mutation

/-- Exchanges that alter nothing hold no change that has been made. -/
theorem not_mem_of_idle (h : Idle exchanges) {value : Value} :
    (⟨.call action.mutation, .ok value⟩ : Exchange) ∉ exchanges := by
  intro hmem
  have hidle := h _ hmem
  rw [alters_mutation] at hidle
  cases hidle

/-- A change that has been refused has not been granted before. -/
theorem not_mem_of_refused {before : List Exchange} (h : Idle before) {value : Value}
    {cause : CallError} :
    (⟨.call action.mutation, .ok value⟩ : Exchange) ∉
      before ++ [⟨.call action.mutation, .error cause⟩] := by
  intro hmem
  rcases List.mem_append.mp hmem with hmem | hmem
  · exact not_mem_of_idle h hmem
  · have heq := List.mem_singleton.mp hmem
    simp at heq

/-- A change that has been made is the end of an action, but for the reboot of a giveback. -/
theorem result_of_changed {result : Except Failure Outcome}
    (h : Completion (.perform action) exchanges result) {value : Value}
    (hmem : ⟨.call action.mutation, .ok value⟩ ∈ exchanges) :
    (action ≠ .giveback ∧ result = .ok (.executed action.executed)) ∨
      action = .giveback ∧
        ∃ outcome, ⟨.reboot, outcome⟩ ∈ exchanges ∧ result = (rebooted outcome).map .executed := by
  cases h with
  | spared hidle _ => exact absurd hmem (not_mem_of_idle hidle)
  | refused hidle => exact absurd hmem (not_mem_of_refused hidle)
  | changed hidle hstays => exact .inl ⟨hstays, rfl⟩
  | @handedOver before value outcome hidle => exact .inr ⟨rfl, outcome, by simp, rfl⟩

/-- Where nothing is altered no reboot is attempted. -/
theorem countP_isReboot_of_idle (h : Idle exchanges) :
    exchanges.countP Exchange.isReboot = 0 := by
  rw [List.countP_eq_zero]
  intro e he hreboot
  obtain ⟨request, answer⟩ := e
  have hidle : request.alters = false := h _ he
  cases request with
  | reboot => cases hidle
  | _ => cases hreboot

/-- Only a giveback whose change has been made attempts a reboot, and it attempts one. -/
theorem countP_isReboot_of_completion {result : Except Failure Outcome}
    (h : Completion (.perform action) exchanges result) :
    ((action = .giveback ∧ ∃ value, ⟨.call action.mutation, .ok value⟩ ∈ exchanges) →
        exchanges.countP Exchange.isReboot = 1) ∧
      (¬ (action = .giveback ∧ ∃ value, ⟨.call action.mutation, .ok value⟩ ∈ exchanges) →
        exchanges.countP Exchange.isReboot = 0) := by
  have hcall {before : List Exchange} (hidle : Idle before) (outcome : CallOutcome) :
      List.countP Exchange.isReboot (before ++ [⟨.call action.mutation, outcome⟩]) = 0 := by
    rw [List.countP_append, countP_isReboot_of_idle hidle]
    rfl
  cases h with
  | spared hidle _ =>
    exact ⟨fun ⟨_, _, hmem⟩ => absurd hmem (not_mem_of_idle hidle),
      fun _ => countP_isReboot_of_idle hidle⟩
  | refused hidle =>
    exact ⟨fun ⟨_, _, hmem⟩ => absurd hmem (not_mem_of_refused hidle), fun _ => hcall hidle _⟩
  | changed hidle hstays =>
    exact ⟨fun hgiveback => absurd hgiveback.1 hstays, fun _ => hcall hidle _⟩
  | @handedOver before value outcome hidle =>
    have hmem : ⟨.call (Action.mutation .giveback), .ok value⟩ ∈ before ++
        [⟨.call (Action.mutation .giveback), .ok value⟩, ⟨.reboot, outcome⟩] :=
      List.mem_append_right _ List.mem_cons_self
    refine ⟨fun _ => ?_, fun hnone => (hnone ⟨rfl, value, hmem⟩).elim⟩
    rw [List.countP_append, countP_isReboot_of_idle hidle]
    rfl

/-- An action that has been carried out has been granted its change. -/
theorem mem_of_executed {executed : Executed}
    (h : Completion (.perform action) exchanges (.ok (.executed executed))) :
    ∃ value, ⟨.call action.mutation, .ok value⟩ ∈ exchanges := by
  generalize hresult : (Except.ok (.executed executed) : Except Failure Outcome) = result at h
  cases h with
  | spared _ _ => cases hresult
  | refused _ => cases hresult
  | changed _ _ => exact ⟨_, List.mem_append_right _ List.mem_cons_self⟩
  | handedOver _ => exact ⟨_, List.mem_append_right _ List.mem_cons_self⟩

/-- Where all attempts to reboot end alike, an action that has been completed has been carried out
when its change has been made and, for a giveback, the attempt ends well. -/
theorem executed_iff_of_completion {result : Except Failure Outcome}
    (h : Completion (.perform action) exchanges result) {switch : Except IoError Unit}
    (hswitch : ∀ outcome, ⟨.reboot, outcome⟩ ∈ exchanges → outcome = switch) :
    (∃ executed, result = .ok (.executed executed)) ↔
      (∃ value, ⟨.call action.mutation, .ok value⟩ ∈ exchanges) ∧
        (action = .giveback → switch = .ok ()) := by
  constructor
  · rintro ⟨executed, rfl⟩
    obtain ⟨value, hmem⟩ := mem_of_executed h
    refine ⟨⟨value, hmem⟩, fun hgiveback => ?_⟩
    rcases result_of_changed h hmem with ⟨hstays, -⟩ | ⟨-, outcome, houtcome, hresult⟩
    · exact absurd hgiveback hstays
    · obtain rfl := hswitch outcome houtcome
      cases outcome with
      | ok done => rfl
      | error cause => cases hresult
  · rintro ⟨⟨value, hmem⟩, hends⟩
    rcases result_of_changed h hmem with ⟨-, hresult⟩ | ⟨hgiveback, outcome, houtcome, hresult⟩
    · exact ⟨_, hresult⟩
    · obtain rfl := hswitch outcome houtcome
      rw [hends hgiveback] at hresult
      exact ⟨_, hresult⟩

/-! ## What a failed command has altered -/

/-- Whether what has been asked for alters the cluster or this node. -/
def Exchange.alters (e : Exchange) : Bool := e.request.alters

/-- Where nothing is altered there is no exchange that alters something. -/
theorem filter_alters_of_idle (h : Idle exchanges) : exchanges.filter Exchange.alters = [] := by
  rw [List.filter_eq_nil_iff]
  intro e he
  rw [Exchange.alters, h e he]
  exact Bool.false_ne_true

/-- How a command has ended that fails. -/
inductive Failing : Command → List Exchange → Failure → Prop
  | spared {command : Command} {exchanges : List Exchange} {failure : Failure}
      (hidle : Idle exchanges) (hspares : failure.Spares exchanges) :
      Failing command exchanges failure
  | refused {action : Action} {before : List Exchange} {cause : CallError} (hidle : Idle before) :
      Failing (.perform action) (before ++ [⟨.call action.mutation, .error cause⟩])
        (.mutation cause)
  | stranded {before : List Exchange} {value : Value} {cause : IoError} (hidle : Idle before) :
      Failing (.perform .giveback)
        (before ++ [⟨.call (Action.mutation .giveback), .ok value⟩, ⟨.reboot, .error cause⟩])
        (.reboot cause)

variable {command : Command}

/-- What a command that fails has altered is told by its failure. -/
theorem Completion.failing {failure : Failure} (h : Completion command exchanges (.error failure)) :
    Failing command exchanges failure := by
  generalize hresult : (Except.error failure : Except Failure Outcome) = result at h
  cases h with
  | reported _ => cases hresult
  | spared hidle hspares =>
    cases hresult
    exact .spared hidle hspares
  | refused hidle =>
    cases hresult
    exact .refused hidle
  | changed _ _ => cases hresult
  | @handedOver _ _ outcome hidle =>
    cases outcome with
    | ok done => cases hresult
    | error cause =>
      cases hresult
      exact .stranded hidle

/-- Whether a failure comes before a command alters anything. -/
def Failure.isEarly : Failure → Bool
  | .mutation _ => false
  | .reboot _ => false
  | _ => true

/-- A command that fails early has altered nothing. -/
theorem idle_of_isEarly {failure : Failure} (h : Completion command exchanges (.error failure))
    (hearly : failure.isEarly = true) : Idle exchanges := by
  cases h.failing with
  | spared hidle _ => exact hidle
  | refused _ => cases hearly
  | stranded _ => cases hearly

/-- A failed mutation is one change, which has been refused. -/
theorem alters_of_mutation_failed {cause : CallError}
    (h : Completion command exchanges (.error (.mutation cause))) :
    ∃ action, command = .perform action ∧
      exchanges.filter Exchange.alters = [⟨.call action.mutation, .error cause⟩] := by
  cases h.failing with
  | spared _ hspares => cases hspares
  | @refused action _ _ hidle =>
    have hchange : Exchange.alters ⟨.call action.mutation, .error cause⟩ = true :=
      alters_mutation action
    refine ⟨action, rfl, ?_⟩
    rw [List.filter_append, filter_alters_of_idle hidle, List.nil_append,
      List.filter_cons_of_pos hchange, List.filter_nil]

/-- A failed reboot follows the change of a giveback, which has been made. -/
theorem alters_of_reboot_failed {cause : IoError}
    (h : Completion command exchanges (.error (.reboot cause))) :
    command = .perform .giveback ∧ ∃ value, exchanges.filter Exchange.alters =
      [⟨.call ⟨Method.becomePassive, [], none⟩, .ok value⟩, ⟨.reboot, .error cause⟩] := by
  cases h.failing with
  | spared _ hspares => cases hspares
  | @stranded _ value _ hidle =>
    refine ⟨rfl, value, ?_⟩
    rw [List.filter_append, filter_alters_of_idle hidle]
    rfl

/-- A command succeeds when it reports, or when its change has been made and the reboot that a
giveback ends with has been started. -/
theorem succeeds_iff {result : Except Failure Outcome}
    (h : Completion command exchanges result) :
    (∃ outcome, result = .ok outcome) ↔
      (∃ report, result = .ok (.report report)) ∨
        ∃ action value, command = .perform action ∧
          ⟨.call action.mutation, .ok value⟩ ∈ exchanges ∧
          (action = .giveback → ⟨.reboot, .ok ()⟩ ∈ exchanges) := by
  constructor
  · rintro ⟨outcome, rfl⟩
    generalize hresult : (Except.ok outcome : Except Failure Outcome) = result at h
    cases h with
    | reported _ => exact .inl ⟨_, rfl⟩
    | spared _ _ => cases hresult
    | refused _ => cases hresult
    | @changed action _ value _ hstays =>
      exact .inr ⟨action, value, rfl, by simp, fun hgiveback => absurd hgiveback hstays⟩
    | @handedOver _ value done _ =>
      cases done with
      | error cause => cases hresult
      | ok done => exact .inr ⟨.giveback, value, rfl, by simp, fun _ => by simp⟩
  · rintro (⟨report, rfl⟩ | ⟨action, value, rfl, hmem, hreboot⟩)
    · exact ⟨_, rfl⟩
    · cases h with
      | spared hidle _ => exact absurd hmem (not_mem_of_idle hidle)
      | refused hidle => exact absurd hmem (not_mem_of_refused hidle)
      | changed _ _ => exact ⟨_, rfl⟩
      | @handedOver before value' outcome hidle =>
        -- The one attempt to reboot is the one that has been started.
        have hstarted := hreboot rfl
        simp only [List.mem_append, List.mem_cons, List.not_mem_nil, or_false] at hstarted
        rcases hstarted with hbefore | hcall | hlast
        · cases hidle _ hbefore
        · cases hcall
        · obtain rfl := eq_of_heq (Exchange.mk.inj hlast).2
          exact ⟨_, rfl⟩

/-! ## The licence -/

/-- Everything begins with the inquiry after the licence, and it ends there without one. -/
theorem CommandCourse.begins {options : CallOptions} {result : Except Failure Outcome}
    (h : CommandCourse options command exchanges result) :
    ∃ license rest, exchanges = asked Method.licenseIsHA license :: rest ∧
      (readLicense license = .ok false → rest = [] ∧ result = .error .notHaNode) := by
  have hlicensed {license : CallOutcome} {rest : List Exchange}
      (hlicense : readLicense license = .ok true) :
      readLicense license = .ok false → rest = [] ∧ result = .error .notHaNode := by
    intro hfalse
    rw [hlicense] at hfalse
    cases hfalse
  cases h with
  | stopped hsnapshot =>
    cases hsnapshot with
    | licenseFailed hlicense =>
      refine ⟨_, _, rfl, fun hfalse => ?_⟩
      rw [hlicense] at hfalse
      cases hfalse
    | unlicensed _ => exact ⟨_, _, rfl, fun _ => ⟨rfl, rfl⟩⟩
    | configFailed hlicense _ => exact ⟨_, _, rfl, hlicensed hlicense⟩
    | roleFailed hlicense _ _ => exact ⟨_, _, rfl, hlicensed hlicense⟩
  | reported hsnapshot _ =>
    cases hsnapshot with
    | taken hlicense _ _ => exact ⟨_, _, rfl, hlicensed hlicense⟩
  | performed hsnapshot _ =>
    cases hsnapshot with
    | taken hlicense _ _ => exact ⟨_, _, rfl, hlicensed hlicense⟩

/-- Nothing follows the answer that there is no licence. -/
theorem eq_of_unlicensed_mem {options : CallOptions} {result : Except Failure Outcome}
    (h : CommandCourse options command exchanges result) (hmem : unlicensed ∈ exchanges) :
    exchanges = [unlicensed] ∧ result = .error .notHaNode := by
  obtain ⟨license, rest, rfl, hends⟩ := h.begins
  rcases List.mem_cons.mp hmem with hfirst | hrest
  · obtain rfl : license = .ok (.bool false) := (eq_of_heq (Exchange.mk.inj hfirst).2).symm
    obtain ⟨rfl, hresult⟩ := hends (readLicense_eq_ok_iff.mpr rfl)
    exact ⟨rfl, hresult⟩
  · -- The inquiry would be made twice.
    have honce := h.once
    have hagain : Method.licenseIsHA ∈ (calls rest).map Call.method :=
      List.mem_map.mpr ⟨inquiry Method.licenseIsHA, List.mem_filterMap.mpr ⟨_, hrest, rfl⟩, rfl⟩
    rw [calls_cons_asked, List.map_cons, List.nodup_cons] at honce
    exact absurd hagain honce.1

/-- A missing licence is found by the first inquiry, and nothing follows it. -/
theorem eq_unlicensed_of_notHaNode (h : Completion command exchanges (.error .notHaNode)) :
    exchanges = [unlicensed] := by
  cases h.failing with
  | spared _ hspares =>
    cases hspares with
    | notHaNode hexchanges => exact hexchanges

end FailoverControl.Control
