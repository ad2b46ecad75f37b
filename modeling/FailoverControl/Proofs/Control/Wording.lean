import FailoverControl.Proofs.Control.Completion
import FailoverControl.Proofs.Json.Wording

/-!
# How failed commands are worded

A command that fails has a wording of its own, of one line, or one that goes back to something that
it has asked for: a call that has failed, or the reboot. An answer that cannot be decoded has a
wording of its own, too, for it is described in one line.

The main statement: `CommandCourse.stems`.
-/

set_option autoImplicit false

namespace FailoverControl.Control

open FailoverControl.Cluster
open FailoverControl.Daemon
open FailoverControl.Host (IoError)
open FailoverControl.Json
open FailoverControl.Text (IsLine isLine_append_iff isLine_ofList)

/-! ## Decoded answers -/

/-- Settings that cannot be decoded are described in one line. -/
theorem plain_configOfValue (v : Value) : Plain (Config.ofValue v) := by
  unfold Config.ofValue
  split
  · split
    · exact plain_error (isLine_ofList (by decide))
    · next v _ => exact v.plain_asBool.map _
  · exact plain_error (isLine_ofList (by decide))
  · next v => exact v.plain_asBool.map _
  · next v w rest => exact v.plain_asBool.bind fun _ => plain_error (isLine_ofList (by decide))
  · exact v.plain_refuse (isLine_ofList (by decide))

/-! ## Failures of commands -/

/-- What the wording of a failure goes back to, given what has been exchanged until then. -/
inductive Failure.Stems (exchanges : List Exchange) : Failure → Prop
  /-- The wording is fixed, or describes an answer that cannot be decoded. -/
  | own {failure : Failure} (hline : IsLine failure.message) : Stems exchanges failure
  | fetch {what : String} {call : Call} {cause : CallError} (hwhat : IsLine what)
      (hmem : ⟨.call call, .error cause⟩ ∈ exchanges) : Stems exchanges (.fetch what cause)
  | mutation {call : Call} {cause : CallError} (hmem : ⟨.call call, .error cause⟩ ∈ exchanges) :
      Stems exchanges (.mutation cause)
  | reboot (cause : IoError) : Stems exchanges (.reboot cause)

/-- A failed fetch is worded on one line exactly when its cause is. -/
theorem isLine_fetch_iff {what : String} (hwhat : IsLine what) {cause : CallError} :
    IsLine (Failure.fetch what cause).message ↔ IsLine cause.message := by
  have hbegins : IsLine ("Failed to fetch " ++ what ++ ": ") := by
    rw [isLine_append_iff, isLine_append_iff]
    exact ⟨⟨isLine_ofList (by decide), hwhat⟩, isLine_ofList (by decide)⟩
  exact hbegins.append_iff

/-- A rejection is worded on one line. -/
theorem isLine_rejection (rejection : Rejection) : IsLine rejection.message := by
  cases rejection <;> exact isLine_ofList (by decide)

/-- A cancelled command is worded on one line. -/
theorem isLine_cancelled (action : Action) : IsLine (Failure.cancelled action).message := by
  have hname : IsLine action.name := by cases action <;> exact isLine_ofList (by decide)
  have hmessage : IsLine ("Command: '" ++ action.name ++ "' cancelled.") := by
    rw [isLine_append_iff, isLine_append_iff]
    exact ⟨⟨isLine_ofList (by decide), hname⟩, isLine_ofList (by decide)⟩
  exact hmessage

/-- A missing licence is worded on one line. -/
theorem isLine_notHaNode : IsLine Failure.notHaNode.message :=
  isLine_append_iff.mpr ⟨isLine_ofList (by decide), isLine_ofList (by decide)⟩

variable {exchanges : List Exchange}

/-- What a failure goes back to may have been preceded by anything. -/
theorem Failure.Stems.append {failure : Failure} {after : List Exchange}
    (h : failure.Stems after) (before : List Exchange) : failure.Stems (before ++ after) := by
  cases h with
  | own hline => exact .own hline
  | fetch hwhat hmem => exact .fetch hwhat (List.mem_append_right _ hmem)
  | mutation hmem => exact .mutation (List.mem_append_right _ hmem)
  | reboot cause => exact .reboot cause

/-- A failed fetch goes back to the answer that could not be used. -/
theorem stems_of_readFetched {α : Type} {what : String} (method : String)
    {decode : Value → Except DecodeError α} {outcome : CallOutcome} {failure : Failure}
    (h : readFetched what decode outcome = .error failure) (hwhat : IsLine what)
    (hplain : ∀ v, Plain (decode v)) (hmem : asked method outcome ∈ exchanges) :
    failure.Stems exchanges := by
  cases outcome with
  | error cause =>
    obtain rfl := Except.error.inj h
    exact .fetch hwhat hmem
  | ok value =>
    cases hvalue : decode value with
    | ok a => simp [readFetched, hvalue, Except.mapError] at h
    | error e =>
      simp only [readFetched, hvalue, Except.mapError] at h
      obtain rfl := Except.error.inj h
      have hdescribed := isLine_message e (hplain value e hvalue)
      have hunexpected : IsLine ("unexpected response: " ++ e.message) :=
        isLine_append_iff.mpr ⟨isLine_ofList (by decide), hdescribed⟩
      exact .own ((isLine_fetch_iff hwhat).mpr hunexpected)

/-- Reasons that cannot be read go back to their answer. -/
theorem stems_of_readReasons {outcome : CallOutcome} {failure : Failure}
    (h : readReasons outcome = .error failure)
    (hmem : asked Method.disabledReasons outcome ∈ exchanges) : failure.Stems exchanges :=
  stems_of_readFetched _ h (isLine_ofList (by decide)) (fun v => v.plain_asTexts.map _) hmem

/-- The failure of a snapshot goes back to its last answer. -/
theorem SnapshotCourse.stems {command : Command} {failure : Failure}
    (h : SnapshotCourse command exchanges (.error failure)) : failure.Stems exchanges := by
  cases h with
  | licenseFailed hlicense =>
    exact stems_of_readFetched Method.licenseIsHA hlicense (isLine_ofList (by decide))
      Value.plain_asBool (by simp)
  | unlicensed _ => exact .own isLine_notHaNode
  | configFailed _ hconfig =>
    exact stems_of_readFetched Method.config hconfig (isLine_ofList (by decide))
      plain_configOfValue (by simp)
  | roleFailed _ _ hstatus =>
    exact stems_of_readFetched Method.status hstatus (isLine_ofList (by decide))
      Value.plain_asText (by simp)

/-- The failure of a report goes back to the answer about the reasons. -/
theorem ReportCourse.stems {role : Role} {options : CallOptions} {failure : Failure}
    (h : ReportCourse role options exchanges (.error failure)) : failure.Stems exchanges := by
  generalize hresult : (Except.error failure : Except Failure Report) = result at h
  cases h with
  | gathered serial facts reasons =>
    cases hreasons : readReasons reasons with
    | ok codes =>
      rw [hreasons] at hresult
      cases hresult
    | error e =>
      rw [hreasons] at hresult
      obtain rfl := Except.error.inj hresult
      exact stems_of_readReasons hreasons (by simp)

/-- The failure of an action goes back to the answer to its change, to the operator or to the
reboot. -/
theorem ExecutionCourse.stems {action : Action} {failure : Failure}
    (h : ExecutionCourse action exchanges (.error failure)) : failure.Stems exchanges := by
  -- A change that is made ends in success, and a refused one is among the exchanges.
  have hmutated {executed : Executed} {call : Call} {outcome : CallOutcome}
      (hresult : .error failure = mutated executed outcome)
      (hmem : ⟨.call call, outcome⟩ ∈ exchanges) : failure.Stems exchanges := by
    cases outcome with
    | ok value => cases hresult
    | error cause =>
      cases hresult
      exact .mutation hmem
  generalize hresult : (Except.error failure : Except Failure Executed) = result at h
  cases h with
  | enable outcome => exact hmutated hresult (List.mem_singleton_self _)
  | disable outcome => exact hmutated hresult (List.mem_singleton_self _)
  | takeoverCancelled =>
    cases hresult
    exact .own (isLine_cancelled _)
  | takeover outcome =>
    exact hmutated hresult (List.mem_append_right _ (List.mem_cons_of_mem _ List.mem_cons_self))
  | givebackCancelled =>
    cases hresult
    exact .own (isLine_cancelled _)
  | givebackRefused cause =>
    cases hresult
    exact .mutation (List.mem_append_right _ (List.mem_cons_of_mem _ List.mem_cons_self))
  | giveback value outcome =>
    cases outcome with
    | ok done => cases hresult
    | error cause =>
      cases hresult
      exact .reboot cause

/-- The failure of an action behind the snapshot goes back to what the action has exchanged. -/
theorem PerformanceCourse.stems {snapshot : Snapshot} {action : Action} {failure : Failure}
    (h : PerformanceCourse snapshot action exchanges (.error failure)) :
    failure.Stems exchanges := by
  cases h with
  | rejected _ => exact .own (isLine_rejection _)
  | undisruptive _ _ hexecution => exact hexecution.stems
  | reasonsFailed _ _ hreasons => exact stems_of_readReasons hreasons (List.mem_singleton_self _)
  | unhealthy _ _ _ => exact .own (isLine_rejection _)
  | healthy _ _ _ hexecution => exact hexecution.stems.append [_]

/-- A failed command has a wording of its own, or one that goes back to what it has asked for. -/
theorem CommandCourse.stems {options : CallOptions} {command : Command} {failure : Failure}
    (h : CommandCourse options command exchanges (.error failure)) : failure.Stems exchanges := by
  generalize hended : (Except.error failure : Except Failure Outcome) = ended at h
  cases h with
  | stopped hsnapshot =>
    cases hended
    exact hsnapshot.stems
  | @reported before after snapshot result hsnapshot hreport =>
    cases result with
    | ok report => cases hended
    | error e =>
      cases hended
      exact hreport.stems.append before
  | @performed action before after snapshot result hsnapshot hperform =>
    cases result with
    | ok executed => cases hended
    | error e =>
      cases hended
      exact hperform.stems.append before

end FailoverControl.Control
