import FailoverControl.Proofs.Control.Gate

/-!
# One decision in two phases

`decide?` settles whether an action may run from the snapshot and the live reasons at once. A
command never calls it: it applies the rules on the snapshot, asks for the reasons only when these
rules let a disruptive action pass, and then applies the rule on health. Both come to the same.

The main statement: whatever gateway answers a licensed cluster's inquiries, a command is rejected
with what `decide?` names and goes on to the execution exactly when `decide?` allows it
(`dispatch_decided`).
-/

set_option autoImplicit false

namespace FailoverControl.Control

open FailoverControl.Cluster
open FailoverControl.Daemon
open FailoverControl.Json (Value)

variable {σ γ δ : Type}

/-! ## The full decision -/

variable {snapshot : Snapshot} {action : Action}

/-- A rule on the snapshot that fails outweighs whatever is known of the reasons. -/
theorem decide?_of_rejection? {rejection : Rejection}
    (h : snapshot.rejection? action = some rejection) (reasons : Option (List Reason)) :
    decide? snapshot action reasons = some rejection := by
  simp only [decide?, h]

/-- An action that disrupts nothing is permitted by the snapshot alone. -/
theorem decide?_of_undisruptive (hguard : snapshot.rejection? action = none)
    (hhealth : action.requiresHealth = false) (reasons : Option (List Reason)) :
    decide? snapshot action reasons = none := by
  simp only [decide?, hguard, hhealth, Bool.false_eq_true, if_false]

/-- A disruptive action that the snapshot permits is decided by the reasons. -/
theorem decide?_of_disruptive (hguard : snapshot.rejection? action = none)
    (hhealth : action.requiresHealth = true) (codes : List Reason) :
    decide? snapshot action (some codes) = healthRejection? codes := by
  simp only [decide?, hguard, hhealth, if_true]

/-- Without the reasons nothing is allowed that some reasons would rule out. -/
theorem decide?_eq_none_of_withheld (h : decide? snapshot action none = none)
    (codes : List Reason) : decide? snapshot action (some codes) = none := by
  cases hguard : snapshot.rejection? action with
  | some rejection =>
    rw [decide?_of_rejection? hguard] at h
    cases h
  | none =>
    by_cases hhealth : action.requiresHealth = true
    · simp [decide?, hguard, hhealth] at h
    · exact decide?_of_undisruptive hguard (Bool.eq_false_iff.mpr hhealth) (some codes)

/-! ## Runs that go on to the execution -/

/-- The rules on how an action is carried out name courses of `execute` only. -/
theorem ExecutionCourse.course {exchanges : List Exchange} {result : Except Failure Executed}
    (h : ExecutionCourse action exchanges result) :
    Task.Course (execute action) exchanges result := by
  cases h with
  | enable outcome =>
    cases outcome with
    | ok value => exact .ask (.done _)
    | error cause => exact .ask (.done _)
  | disable outcome =>
    cases outcome with
    | ok value => exact .ask (.done _)
    | error cause => exact .ask (.done _)
  | takeoverCancelled => exact .ask (.ask (.done _))
  | takeover outcome =>
    cases outcome with
    | ok value => exact .ask (.ask (.ask (.ask (.done _))))
    | error cause => exact .ask (.ask (.ask (.ask (.done _))))
  | givebackCancelled => exact .ask (.ask (.done _))
  | givebackRefused cause => exact .ask (.ask (.ask (.ask (.done _))))
  | giveback value outcome =>
    cases outcome with
    | ok done => exact .ask (.ask (.ask (.ask (.ask (.done _)))))
    | error cause => exact .ask (.ask (.ask (.ask (.ask (.done _)))))

/-- Carrying out an action never ends in a rejection. -/
theorem ExecutionCourse.ne_rejected {exchanges : List Exchange}
    {result : Except Failure Executed} (h : ExecutionCourse action exchanges result)
    (rejection : Rejection) : result ≠ .error (.rejected rejection) := by
  intro hresult
  cases h with
  | enable outcome => cases outcome <;> cases hresult
  | disable outcome => cases outcome <;> cases hresult
  | takeover outcome => cases outcome <;> cases hresult
  | giveback value outcome => cases outcome <;> cases hresult
  | _ => cases hresult

/-- A run has made the inquiries of an action and all the rest of it is a course of `execute`. -/
def Run.Enters (run : Run σ (Except Failure Outcome)) (action : Action) : Prop :=
  ∃ before after result, run.exchanges = before ++ after ∧ calls before = action.inquiries ∧
    Task.Course (execute action) after result ∧ run.result = result.map .executed

/-- The reasons that a run has been told are these; a run that does not ask may be told any. -/
def Run.Learns (run : Run σ (Except Failure Outcome)) (codes : List Reason) : Prop :=
  ∀ outcome, asked Method.disabledReasons outcome ∈ run.exchanges →
    readReasons outcome = .ok codes

/-- What has not been called for has not been asked. -/
theorem not_mem_asked_of_calls {exchanges : List Exchange} {method : String}
    (h : inquiry method ∉ calls exchanges) (outcome : CallOutcome) :
    asked method outcome ∉ exchanges := by
  intro hmem
  exact h (List.mem_filterMap.mpr ⟨_, hmem, rfl⟩)

/-- What is not asked for may be anything. -/
theorem Run.learns_of_unasked {run : Run σ (Except Failure Outcome)}
    (h : inquiry Method.disabledReasons ∉ calls run.exchanges) (codes : List Reason) :
    run.Learns codes := by
  intro outcome hmem
  exact absurd hmem (not_mem_asked_of_calls h outcome)

/-- What is asked for once is what was answered. -/
theorem Run.learns_iff_of_asked {run : Run σ (Except Failure Outcome)}
    {before rest : List Exchange} {answer : CallOutcome}
    (hrun : run.exchanges = before ++ asked Method.disabledReasons answer :: rest)
    (hbefore : inquiry Method.disabledReasons ∉ calls before)
    (hrest : inquiry Method.disabledReasons ∉ calls rest) (codes : List Reason) :
    run.Learns codes ↔ readReasons answer = .ok codes := by
  unfold Run.Learns
  rw [hrun]
  constructor
  · intro hlearns
    exact hlearns answer (List.mem_append_right _ List.mem_cons_self)
  · intro hread outcome hmem
    rcases List.mem_append.mp hmem with hmem | hmem
    · exact absurd hmem (not_mem_asked_of_calls hbefore outcome)
    rcases List.mem_cons.mp hmem with hfirst | hmem
    · obtain rfl : outcome = answer := eq_of_heq (Exchange.mk.inj hfirst).2
      exact hread
    · exact absurd hmem (not_mem_asked_of_calls hrest outcome)

/-- No result of an action turns into a rejection. -/
theorem map_executed_ne_rejected {result : Except Failure Executed} {rejection : Rejection}
    (h : result ≠ .error (.rejected rejection)) :
    (result.map .executed : Except Failure Outcome) ≠ .error (.rejected rejection) := by
  intro hmapped
  cases result with
  | ok executed => cases hmapped
  | error failure => exact h (congrArg Except.error (Except.error.inj hmapped))

/-- A run that is rejected does not go on to the execution. -/
theorem Run.not_enters_of_rejected {run : Run σ (Except Failure Outcome)} {rejection : Rejection}
    (h : run.result = .error (.rejected rejection)) : ¬ run.Enters action := by
  rintro ⟨_, _, result, -, -, hcourse, hresult⟩
  have hend := (course_execute hcourse).ne_rejected rejection
  exact map_executed_ne_rejected hend (hresult.symm.trans h)

/-! ## The decision behind a run -/

/-- How a run on a cluster in the given state is decided. -/
structure Decided (snapshot : Snapshot) (action : Action)
    (run : Run σ (Except Failure Outcome)) : Prop where
  /-- Only a failed fetch of the reasons keeps a run from learning them. -/
  learns : (∃ codes, run.Learns codes) ∨
    ∃ cause, run.result = .error (.fetch "failover disabled reasons" cause)
  rejects : ∀ codes, run.Learns codes → ∀ rejection,
    run.result = .error (.rejected rejection) ↔
      decide? snapshot action (some codes) = some rejection
  enters : ∀ codes, run.Learns codes →
    (run.Enters action ↔ decide? snapshot action (some codes) = none)
  /-- A rule on the snapshot decides whatever the reasons are, and they are not asked for. -/
  early : ∀ rejection, snapshot.rejection? action = some rejection →
    (∀ reasons, decide? snapshot action reasons = some rejection) ∧
      inquiry Method.disabledReasons ∉ calls run.exchanges
  withheld : decide? snapshot action none = none →
    ∀ codes, decide? snapshot action (some codes) = none

variable {run : Run σ (Except Failure Outcome)}

/-- A run that is rejected as the full decision says. -/
theorem decided_of_rejected {rejection : Rejection}
    (hresult : run.result = .error (.rejected rejection)) (hlearns : ∃ codes, run.Learns codes)
    (hdecision : ∀ codes, run.Learns codes →
      decide? snapshot action (some codes) = some rejection)
    (hearly : ∀ rejection, snapshot.rejection? action = some rejection →
      inquiry Method.disabledReasons ∉ calls run.exchanges) :
    Decided snapshot action run where
  learns := .inl hlearns
  rejects codes hcodes other := by
    rw [hresult, hdecision codes hcodes]
    simp
  enters codes hcodes := by
    rw [hdecision codes hcodes]
    exact iff_of_false (Run.not_enters_of_rejected hresult) nofun
  early other hguard := ⟨decide?_of_rejection? hguard, hearly other hguard⟩
  withheld := decide?_eq_none_of_withheld

/-- A run that goes on to the execution as the full decision says. -/
theorem decided_of_entered (hguard : snapshot.rejection? action = none)
    (hlearns : ∃ codes, run.Learns codes) (henters : run.Enters action)
    (hdecision : ∀ codes, run.Learns codes → decide? snapshot action (some codes) = none) :
    Decided snapshot action run where
  learns := .inl hlearns
  rejects codes hcodes rejection := by
    rw [hdecision codes hcodes]
    exact iff_of_false (fun hresult => Run.not_enters_of_rejected hresult henters) nofun
  enters codes hcodes := iff_of_true henters (hdecision codes hcodes)
  early rejection hrejection := by
    rw [hguard] at hrejection
    cases hrejection
  withheld := decide?_eq_none_of_withheld

/-- A run whose fetch of the reasons has failed learns none. -/
theorem decided_of_unlearned {cause : CallError} (hguard : snapshot.rejection? action = none)
    (hresult : run.result = .error (.fetch "failover disabled reasons" cause))
    (hlearns : ∀ codes, ¬ run.Learns codes) : Decided snapshot action run where
  learns := .inr ⟨cause, hresult⟩
  rejects codes hcodes := absurd hcodes (hlearns codes)
  enters codes hcodes := absurd hcodes (hlearns codes)
  early rejection hrejection := by
    rw [hguard] at hrejection
    cases hrejection
  withheld := decide?_eq_none_of_withheld

/-- A failed fetch is told by the name of what was fetched. -/
theorem exists_fetch_of_readReasons {reasons : CallOutcome} {e : Failure}
    (h : readReasons reasons = .error e) :
    ∃ cause, e = .fetch "failover disabled reasons" cause := by
  cases reasons with
  | error cause => exact ⟨cause, (Except.error.inj h).symm⟩
  | ok value =>
    cases hcodes : value.asTexts.map (·.map Reason.mk) with
    | ok codes => simp [readReasons, readFetched, hcodes, Except.mapError] at h
    | error error =>
      simp only [readReasons, readFetched, hcodes, Except.mapError] at h
      exact ⟨_, (Except.error.inj h).symm⟩

/-- Nothing in front of an action asks for the reasons. -/
theorem disabledReasons_not_mem_snapshotInquiries :
    inquiry Method.disabledReasons ∉ snapshotInquiries := by
  have hlicense : Method.disabledReasons ≠ Method.licenseIsHA := by decide
  have hconfig : Method.disabledReasons ≠ Method.config := by decide
  have hstatus : Method.disabledReasons ≠ Method.status := by decide
  simp [snapshotInquiries, inquiry, hlicense, hconfig, hstatus]

/-- No change of the cluster asks for the reasons. -/
theorem ExecutionCourse.disabledReasons_not_mem {exchanges : List Exchange}
    {result : Except Failure Executed} (h : ExecutionCourse action exchanges result) :
    inquiry Method.disabledReasons ∉ calls exchanges := by
  intro hmem
  have hchange := List.mem_singleton.mp (h.calls_begin.subset hmem)
  have hsame := unchanging_disabledReasons
  rw [hchange, action.changes_mutation] at hsame
  cases hsame

/-- An action is performed as the full decision on its cluster says. -/
theorem PerformanceCourse.decided {before after : List Exchange} {state : σ}
    {result : Except Failure Executed} (hbefore : calls before = snapshotInquiries)
    (h : PerformanceCourse snapshot action after result) :
    Decided snapshot action ⟨result.map .executed, before ++ after, state⟩ := by
  have hunasked : inquiry Method.disabledReasons ∉ calls before := by
    rw [hbefore]
    exact disabledReasons_not_mem_snapshotInquiries
  have hunasked' {rest : List Exchange} (hrest : inquiry Method.disabledReasons ∉ calls rest) :
      inquiry Method.disabledReasons ∉ calls (before ++ rest) := by
    rw [calls_append, List.mem_append]
    exact not_or.mpr ⟨hunasked, hrest⟩
  have hnone : inquiry Method.disabledReasons ∉ calls [] := List.not_mem_nil
  cases h with
  | rejected hguard =>
    have hquiet := hunasked' hnone
    exact decided_of_rejected rfl ⟨[], Run.learns_of_unasked hquiet []⟩
      (fun codes _ => decide?_of_rejection? hguard _) fun _ _ => hquiet
  | undisruptive hguard hhealth hexecution =>
    have hquiet := hunasked' hexecution.disabledReasons_not_mem
    refine decided_of_entered hguard ⟨[], Run.learns_of_unasked hquiet []⟩ ?_
      fun codes _ => decide?_of_undisruptive hguard hhealth _
    refine ⟨before, after, result, rfl, ?_, hexecution.course, rfl⟩
    rw [hbefore, Action.inquiries_of_undisruptive hhealth]
  | reasonsFailed hguard hhealth hreasons =>
    obtain ⟨cause, rfl⟩ := exists_fetch_of_readReasons hreasons
    refine decided_of_unlearned hguard rfl fun codes hlearns => ?_
    have hread := (Run.learns_iff_of_asked rfl hunasked hnone codes).mp hlearns
    rw [hreasons] at hread
    cases hread
  | @unhealthy reasons first rest hguard hhealth hreasons =>
    refine decided_of_rejected rfl
      ⟨_, (Run.learns_iff_of_asked rfl hunasked hnone _).mpr hreasons⟩ (fun codes hlearns => ?_)
      fun rejection hrejection => ?_
    · have hread := (Run.learns_iff_of_asked rfl hunasked hnone codes).mp hlearns
      obtain rfl := Except.ok.inj (hreasons.symm.trans hread)
      exact decide?_of_disruptive hguard hhealth _
    · rw [hguard] at hrejection
      cases hrejection
  | @healthy reasons rest _ hguard hhealth hreasons hexecution =>
    have hquiet := hexecution.disabledReasons_not_mem
    refine decided_of_entered hguard
      ⟨[], (Run.learns_iff_of_asked rfl hunasked hquiet []).mpr hreasons⟩ ?_ fun codes hlearns => ?_
    · refine ⟨before ++ [asked Method.disabledReasons reasons], rest, result, ?_, ?_,
        hexecution.course, rfl⟩
      · exact List.append_cons _ _ _
      · rw [calls_append, hbefore, Action.inquiries_of_disruptive hhealth]
        rfl
    · have hread := (Run.learns_iff_of_asked rfl hunasked hquiet codes).mp hlearns
      obtain rfl := Except.ok.inj (hreasons.symm.trans hread)
      exact decide?_of_disruptive hguard hhealth []

/-! ## Commands -/

/-- Where the daemon answers that the cluster is licensed, with settings and a role, an action is
decided as the full decision on that snapshot says: it is rejected with the rejection that the
decision names, and it is carried out when the decision names none. -/
theorem dispatch_decided (gateway : Gateway γ) (attendants : Attendants δ) (g : γ) (d : δ)
    (action : Action) (options : CallOptions) {settings : Config} {identifier : String}
    (hlicense : readLicense (gateway.findings g).license = .ok true)
    (hconfig : readConfig (gateway.findings g).config = .ok settings)
    (hstatus : readIdentifier (gateway.findings g).status = .ok identifier) :
    Decided ⟨Role.ofIdentifier identifier, settings⟩ action
      ((dispatch (.perform action) options).run.run (gateway.among attendants) (g, d)) := by
  have hshow : (gateway.findings g).Show settings.disabled identifier :=
    ⟨readLicense_eq_ok_iff.mp hlicense, readConfig_eq_ok_iff.mp hconfig,
      readIdentifier_eq_ok_iff.mp hstatus⟩
  have hcourse := course_dispatch
    (Procedure.course_run (gateway.among attendants) (dispatch (.perform action) options).run (g, d))
  have hreplays :=
    (gateway.among attendants).replays_run (dispatch (.perform action) options).run (g, d)
  generalize (dispatch (.perform action) options).run.run (gateway.among attendants) (g, d) = run
    at hcourse hreplays
  obtain ⟨result, exchanges, state⟩ := run
  simp only at hcourse hreplays
  cases hcourse with
  | stopped hsnapshot => exact absurd hshow (hsnapshot.not_show hreplays)
  | @performed _ before after snapshot result hsnapshot hperform =>
    obtain ⟨shown, hrole, hshown, -⟩ := hsnapshot.show hreplays
    obtain ⟨hdisabled, rfl⟩ := hshow.unique hshown
    obtain ⟨role, ⟨disabled⟩⟩ := snapshot
    obtain rfl : role = Role.ofIdentifier identifier := hrole
    obtain ⟨switch⟩ := settings
    obtain rfl : switch = disabled := hdisabled
    exact hperform.decided hsnapshot.calls_of_ok

/-- A gateway that always gives the same answers. -/
def steadyGateway (config status reasons : Value) : Gateway Unit where
  call call g :=
    (.ok (if call.method = Method.licenseIsHA then .bool true
      else if call.method = Method.config then config
      else if call.method = Method.status then status
      else reasons), g)

/-- Attendants of a node that agree to everything. -/
def willing : Attendants Unit where
  serial d := (.ok "A-1", d)
  warn _ d := d
  confirm _ d := (true, d)
  reboot d := (.ok (), d)

/-- A takeover on a standby node whose heartbeat has stopped is rejected after the reasons have been
learned. -/
theorem dispatch_decided_takeover :
    let gateway := steadyGateway (.object [("disabled", .bool false)]) (.string "BACKUP")
      (.array [.string "NO_PONG"])
    let run := (dispatch (.perform .takeover) .standard).run.run (gateway.among willing) ((), ())
    readLicense (gateway.findings ()).license = .ok true ∧
      readConfig (gateway.findings ()).config = .ok ⟨false⟩ ∧
      readIdentifier (gateway.findings ()).status = .ok "BACKUP" ∧
      run.Learns [⟨"NO_PONG"⟩] ∧ run.result = .error (.rejected .unhealthy) := by
  intro gateway run
  have hlicense : readLicense (gateway.findings ()).license = .ok true := rfl
  have hconfig : readConfig (gateway.findings ()).config = .ok ⟨false⟩ := rfl
  have hstatus : readIdentifier (gateway.findings ()).status = .ok "BACKUP" := rfl
  have hlearns : run.Learns [⟨"NO_PONG"⟩] := by
    intro outcome hmem
    have hexchanges : run.exchanges =
        [asked Method.licenseIsHA (.ok (.bool true)),
          asked Method.config (.ok (.object [("disabled", .bool false)])),
          asked Method.status (.ok (.string "BACKUP")), noted (roleEntry "BACKUP"),
          noted (snapshotEntry (.perform .takeover) ⟨.standby, ⟨false⟩⟩),
          asked Method.disabledReasons (.ok (.array [.string "NO_PONG"]))] := rfl
    rw [hexchanges] at hmem
    simp [asked, noted, inquiry, Method.disabledReasons, Method.licenseIsHA, Method.config,
      Method.status] at hmem
    rw [hmem]
    rfl
  have hdecided := dispatch_decided gateway willing () () .takeover .standard hlicense hconfig
    hstatus
  refine ⟨hlicense, hconfig, hstatus, hlearns, ?_⟩
  exact (hdecided.rejects _ hlearns .unhealthy).mpr (by decide)

end FailoverControl.Control
