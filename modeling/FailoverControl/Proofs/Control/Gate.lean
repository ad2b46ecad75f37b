import FailoverControl.Proofs.Cluster.Reading
import FailoverControl.Proofs.Control.Attendants
import FailoverControl.Proofs.Control.Calls

/-!
# When a command changes the cluster

Only the raw answers of the daemon and the answer of the operator decide whether a command changes
the cluster: the licence has to be the value true, the settings have to hold the switch in the
position that the action wants, the role has to carry the one identifier that the action wants, and
before a disruptive action the reasons have to be the empty array and the operator has to agree.
Every other answer, of whatever kind, keeps the command from changing anything.

The main statement: a command makes a call that changes the cluster exactly when the answers admit
it, and then it makes one such call, after its inquiries and as its last one
(`changes_iff_admitted`).
-/

set_option autoImplicit false

namespace FailoverControl.Daemon

/-- Whether a call changes the cluster: it sets the switch, or demotes this node or the other
one. -/
def Call.changes (call : Call) : Bool :=
  call.method == Method.update || call.method == Method.becomePassive ||
    (call.method == Method.callRemote &&
      call.args.head?.bind Json.Value.string? == some Method.becomePassive)

end FailoverControl.Daemon

namespace FailoverControl.Control

open FailoverControl.Cluster
open FailoverControl.Daemon
open FailoverControl.Json (Value DecodeError)

variable {γ δ : Type}

/-! ## What the daemon answers -/

/-- The answers of the daemon to the inquiries of a command. -/
structure Findings where
  license : CallOutcome
  config : CallOutcome
  status : CallOutcome
  reasons : CallOutcome

namespace Gateway

/-- The gateway after the inquiries about licence, settings and role. -/
def afterSnapshot (gateway : Gateway γ) (g : γ) : γ :=
  let g₁ := (gateway.call (inquiry Method.licenseIsHA) g).2
  let g₂ := (gateway.call (inquiry Method.config) g₁).2
  (gateway.call (inquiry Method.status) g₂).2

/-- What a gateway answers when it is asked for licence, settings, role and reasons, one after the
other. -/
def findings (gateway : Gateway γ) (g : γ) : Findings :=
  let (license, g₁) := gateway.call (inquiry Method.licenseIsHA) g
  let (config, g₂) := gateway.call (inquiry Method.config) g₁
  let (status, g₃) := gateway.call (inquiry Method.status) g₂
  let (reasons, _) := gateway.call (inquiry Method.disabledReasons) g₃
  ⟨license, config, status, reasons⟩

end Gateway

/-- Answers that show a licensed cluster with the switch in a position and this node under an
identifier. -/
structure Findings.Show (findings : Findings) (disabled : Bool) (identifier : String) : Prop where
  license : findings.license = .ok (.bool true)
  config : ∃ settings, findings.config = .ok settings ∧ HoldsSwitch settings disabled
  status : findings.status = .ok (.string identifier)

/-- Answers and attendants that let a disruptive action pass: there is no reason against it, and
the operator agrees after the warning. -/
structure Findings.Clear (findings : Findings) (attendants : Attendants δ) (warning : String)
    (d : δ) : Prop where
  reasons : findings.reasons = .ok (.array [])
  agreed : (attendants.confirm confirmationPrompt (attendants.warn warning d)).1 = true

/-- The answers that admit an action. -/
def Action.Admitted (findings : Findings) (attendants : Attendants δ) (d : δ) : Action → Prop
  | .enable => findings.Show true "MASTER"
  | .disable => findings.Show false "MASTER"
  | .takeover =>
    findings.Show false "BACKUP" ∧ findings.Clear attendants (Action.warning .takeover) d
  | .giveback =>
    findings.Show false "MASTER" ∧ findings.Clear attendants (Action.warning .giveback) d

/-- The answers that admit a change by a command; a report never changes anything. -/
def Command.Admitted (findings : Findings) (attendants : Attendants δ) (d : δ) : Command → Prop
  | .status => False
  | .perform action => action.Admitted findings attendants d

/-! ## What the answers are taken for -/

/-- An answer is taken for a value when it can be decoded as one. -/
theorem readFetched_eq_ok_iff {α : Type} {what : String} {decode : Value → Except DecodeError α}
    {outcome : CallOutcome} {a : α} :
    readFetched what decode outcome = .ok a ↔
      ∃ value, outcome = .ok value ∧ decode value = .ok a := by
  cases outcome with
  | error cause => simp [readFetched]
  | ok value =>
    cases hvalue : decode value with
    | error e => simp [readFetched, hvalue, Except.mapError]
    | ok a' => simp [readFetched, hvalue, Except.mapError]

/-- The licence is read from a boolean only. -/
theorem readLicense_eq_ok_iff {license : CallOutcome} {b : Bool} :
    readLicense license = .ok b ↔ license = .ok (.bool b) := by
  simp only [readLicense, readFetched_eq_ok_iff, asBool_eq_ok_iff]
  exact exists_eq_right

/-- The settings are read from whatever holds the switch. -/
theorem readConfig_eq_ok_iff {config : CallOutcome} {settings : Config} :
    readConfig config = .ok settings ↔
      ∃ value, config = .ok value ∧ HoldsSwitch value settings.disabled := by
  simp only [readConfig, readFetched_eq_ok_iff, ofValue_eq_ok_iff]

/-- The identifier of the role is read from a string only. -/
theorem readIdentifier_eq_ok_iff {status : CallOutcome} {identifier : String} :
    readIdentifier status = .ok identifier ↔ status = .ok (.string identifier) := by
  simp only [readIdentifier, readFetched_eq_ok_iff, asText_eq_ok_iff]
  exact exists_eq_right

/-- Reasons are read from the array of their codes only. -/
theorem readReasons_eq_ok_iff {reasons : CallOutcome} {codes : List Reason} :
    readReasons reasons = .ok codes ↔
      ∃ texts : List String, reasons = .ok (.array (texts.map .string)) ∧
        texts.map Reason.mk = codes := by
  have hcodes (value : Value) :
      value.asTexts.map (·.map Reason.mk) = .ok codes ↔
        ∃ texts : List String, value = .array (texts.map .string) ∧
          texts.map Reason.mk = codes := by
    simp only [← asTexts_eq_ok_iff]
    cases value.asTexts <;> simp [Except.map]
  simp only [readReasons, readFetched_eq_ok_iff, hcodes]
  constructor
  · rintro ⟨_, rfl, texts, rfl, hcodes⟩
    exact ⟨texts, rfl, hcodes⟩
  · rintro ⟨texts, hreasons, hcodes⟩
    exact ⟨_, hreasons, texts, rfl, hcodes⟩

/-- There are no reasons only when the daemon answers with the empty array. -/
theorem readReasons_eq_ok_nil_iff {reasons : CallOutcome} :
    readReasons reasons = .ok [] ↔ reasons = .ok (.array []) := by
  simp [readReasons_eq_ok_iff]

/-! ## What an action wants -/

/-- The switch of the settings that an action wants: whether failover is disabled. -/
def Action.switch : Action → Bool
  | .enable => true
  | _ => false

/-- The identifier of the role that an action wants. -/
def Action.identifier : Action → String
  | .takeover => "BACKUP"
  | _ => "MASTER"

/-- An action is admitted by answers that show what it wants and, when it is disruptive, let it
pass. -/
theorem Action.admitted_iff {action : Action} {findings : Findings} {attendants : Attendants δ}
    {d : δ} :
    action.Admitted findings attendants d ↔
      findings.Show action.switch action.identifier ∧
        (action.requiresHealth = true → findings.Clear attendants action.warning d) := by
  cases action <;>
    simp [Action.Admitted, Action.switch, Action.identifier, Action.requiresHealth]

/-- The switch and the identifier are read off the answers in one way. -/
theorem Findings.Show.unique {findings : Findings} {b b' : Bool} {identifier identifier' : String}
    (h : findings.Show b identifier) (h' : findings.Show b' identifier') :
    b = b' ∧ identifier = identifier' := by
  obtain ⟨settings, hconfig, hswitch⟩ := h.config
  obtain ⟨settings', hconfig', hswitch'⟩ := h'.config
  obtain rfl : settings = settings' := Except.ok.inj (hconfig.symm.trans hconfig')
  have hstatus := h.status.symm.trans h'.status
  refine ⟨?_, by simpa using hstatus⟩
  cases hswitch with
  | member hmember =>
    cases hswitch' with
    | member hmember' => simpa using hmember.symm.trans hmember'
  | sole =>
    cases hswitch'
    rfl

/-- The guard lets an action pass exactly when the cluster is in the state that it wants. -/
theorem rejection?_eq_none_iff {action : Action} {settings : Config} {identifier : String} :
    (Snapshot.mk (Role.ofIdentifier identifier) settings).rejection? action = none ↔
      settings.disabled = action.switch ∧ identifier = action.identifier := by
  cases action with
  | takeover =>
    simp only [Snapshot.rejection?, Action.switch, Action.identifier, ← ofIdentifier_eq_standby_iff]
    cases settings.disabled <;> simp
  | _ =>
    simp only [Snapshot.rejection?, Action.switch, Action.identifier, ← ofIdentifier_eq_active_iff]
    cases settings.disabled <;> simp

/-! ## Calls that change nothing -/

/-- The one change of an action is a change, and none of its inquiries is one. -/
theorem Action.changes_mutation (action : Action) : action.mutation.changes = true := by
  cases action <;> decide

/-- The inquiries of the snapshot change nothing. -/
theorem unchanging_snapshotInquiries : ∀ call ∈ snapshotInquiries, call.changes = false := by
  simp only [snapshotInquiries, List.forall_mem_cons]
  decide

/-- Asking for the reasons changes nothing. -/
theorem unchanging_disabledReasons : (inquiry Method.disabledReasons).changes = false := by
  decide

/-- The inquiries before an action change nothing. -/
theorem Action.unchanging_inquiries (action : Action) :
    ∀ call ∈ action.inquiries, call.changes = false := by
  intro call hcall
  rcases Action.of_mem_inquiries hcall with hcall | rfl
  · exact unchanging_snapshotInquiries call hcall
  · exact unchanging_disabledReasons

/-- Taking the snapshot changes nothing. -/
theorem SnapshotCourse.unchanging {command : Command} {exchanges : List Exchange}
    {result : Except Failure Snapshot} (h : SnapshotCourse command exchanges result) :
    ∀ call ∈ calls exchanges, call.changes = false :=
  fun call hcall => unchanging_snapshotInquiries call (h.calls_begin.subset hcall)

/-- A report changes nothing. -/
theorem ReportCourse.unchanging {role : Role} {options : CallOptions} {exchanges : List Exchange}
    {result : Except Failure Report} (h : ReportCourse role options exchanges result) :
    ∀ call ∈ calls exchanges, call.changes = false := by
  have hpeer : (peerInquiry options).changes = false := rfl
  rw [h.calls_eq]
  simp [hpeer, unchanging_disabledReasons]

/-! ## The answers behind a run -/

section Replays

variable {gateway : Gateway γ} {attendants : Attendants δ} {g : γ} {d : δ} {s : γ × δ}
  {command : Command} {before after : List Exchange}

/-- Only the gateway answers an inquiry. -/
theorem replays_asked_iff {method : String} {outcome : CallOutcome} :
    (gateway.among attendants).Replays (g, d) (asked method outcome :: after) s ↔
      (gateway.call (inquiry method) g).1 = outcome ∧
        (gateway.among attendants).Replays ((gateway.call (inquiry method) g).2, d) after s :=
  Gateway.replays_call_iff

/-- What is noted changes neither gateway nor attendants. -/
theorem replays_noted_iff {entry : Log.Entry} :
    (gateway.among attendants).Replays (g, d) (noted entry :: after) s ↔
      (gateway.among attendants).Replays (g, d) after s :=
  Gateway.replays_log_iff

/-- The operator is asked in the state that the warning has left. -/
theorem agreed_of_replays_consulted {warning : String} {agreed : Bool}
    (h : (gateway.among attendants).Replays (g, d) (consulted warning agreed ++ after) s) :
    (attendants.confirm confirmationPrompt (attendants.warn warning d)).1 = agreed :=
  (Gateway.replays_confirm_iff.mp (Gateway.replays_warn_iff.mp h)).1

/-- A snapshot that fails has had an answer that shows no cluster to act on. -/
theorem SnapshotCourse.not_show {e : Failure} (h : SnapshotCourse command before (.error e))
    (hreplays : (gateway.among attendants).Replays (g, d) before s) {disabled : Bool}
    {identifier : String} : ¬ (gateway.findings g).Show disabled identifier := by
  intro hshow
  cases h with
  | licenseFailed hlicense =>
    obtain ⟨rfl, -⟩ := replays_asked_iff.mp hreplays
    have hread := hlicense.symm.trans (readLicense_eq_ok_iff.mpr hshow.license)
    cases hread
  | unlicensed hlicense =>
    obtain ⟨rfl, -⟩ := replays_asked_iff.mp hreplays
    have hread := hlicense.symm.trans (readLicense_eq_ok_iff.mpr hshow.license)
    cases hread
  | configFailed _ hconfig =>
    simp only [replays_asked_iff] at hreplays
    obtain ⟨-, rfl, -⟩ := hreplays
    have hshown : readConfig _ = .ok ⟨disabled⟩ := readConfig_eq_ok_iff.mpr hshow.config
    have hread := hconfig.symm.trans hshown
    cases hread
  | roleFailed _ _ hstatus =>
    simp only [replays_asked_iff] at hreplays
    obtain ⟨-, -, rfl, -⟩ := hreplays
    have hread := hstatus.symm.trans (readIdentifier_eq_ok_iff.mpr hshow.status)
    cases hread

/-- A snapshot that is taken holds what the answers show. -/
theorem SnapshotCourse.show {snapshot : Snapshot}
    (h : SnapshotCourse command before (.ok snapshot))
    (hreplays : (gateway.among attendants).Replays (g, d) (before ++ after) s) :
    ∃ identifier, snapshot.role = .ofIdentifier identifier ∧
      (gateway.findings g).Show snapshot.config.disabled identifier ∧
      (gateway.among attendants).Replays (gateway.afterSnapshot g, d) after s := by
  cases h with
  | @taken license config status settings identifier hlicense hconfig hstatus =>
    simp only [List.cons_append, List.nil_append, replays_asked_iff, replays_noted_iff] at hreplays
    obtain ⟨rfl, rfl, rfl, hrest⟩ := hreplays
    exact ⟨identifier, rfl,
      ⟨readLicense_eq_ok_iff.mp hlicense, readConfig_eq_ok_iff.mp hconfig,
        readIdentifier_eq_ok_iff.mp hstatus⟩, hrest⟩

/-- An action changes the cluster when the answers behind it let it pass, and only then. -/
theorem PerformanceCourse.calls_eq {snapshot : Snapshot} {action : Action} {identifier : String}
    {exchanges : List Exchange} {result : Except Failure Executed}
    (h : PerformanceCourse snapshot action exchanges result)
    (hrole : snapshot.role = .ofIdentifier identifier)
    (hshow : (gateway.findings g).Show snapshot.config.disabled identifier)
    (hreplays : (gateway.among attendants).Replays (gateway.afterSnapshot g, d) exchanges s) :
    action.Admitted (gateway.findings g) attendants d ∧
        snapshotInquiries ++ calls exchanges = action.inquiries ++ [action.mutation] ∨
      ¬ action.Admitted (gateway.findings g) attendants d ∧
        ∀ call ∈ calls exchanges, call.changes = false := by
  obtain ⟨role, settings⟩ := snapshot
  obtain rfl : role = .ofIdentifier identifier := hrole
  simp only [Action.admitted_iff]
  -- Whether the guard lets the action pass is decided by the switch and the identifier alone.
  have hguard_iff : (Snapshot.mk (.ofIdentifier identifier) settings).rejection? action = none ↔
      (gateway.findings g).Show action.switch action.identifier := by
    rw [rejection?_eq_none_iff]
    constructor
    · rintro ⟨hswitch, hidentifier⟩
      rw [← hswitch, ← hidentifier]
      exact hshow
    · exact hshow.unique
  cases h with
  | rejected hguard =>
    refine .inr ⟨fun hadmitted => ?_, by simp⟩
    rw [hguard_iff.mpr hadmitted.1] at hguard
    cases hguard
  | undisruptive hguard hhealth hexecution =>
    rcases hexecution.calls_eq with ⟨hcalls, -⟩ | ⟨-, hdisruptive, -⟩
    · refine .inl ⟨⟨hguard_iff.mp hguard, fun h => ?_⟩, ?_⟩
      · rw [hhealth] at h
        cases h
      · rw [hcalls, Action.inquiries_of_undisruptive hhealth]
    · rw [hhealth] at hdisruptive
      cases hdisruptive
  | reasonsFailed hguard hhealth hreasons =>
    obtain ⟨rfl, -⟩ := replays_asked_iff.mp hreplays
    refine .inr ⟨fun hadmitted => ?_, by simp [unchanging_disabledReasons]⟩
    have hread := hreasons.symm.trans (readReasons_eq_ok_nil_iff.mpr (hadmitted.2 hhealth).reasons)
    cases hread
  | unhealthy hguard hhealth hreasons =>
    obtain ⟨rfl, -⟩ := replays_asked_iff.mp hreplays
    refine .inr ⟨fun hadmitted => ?_, by simp [unchanging_disabledReasons]⟩
    have hread := hreasons.symm.trans (readReasons_eq_ok_nil_iff.mpr (hadmitted.2 hhealth).reasons)
    cases hread
  | healthy hguard hhealth hreasons hexecution =>
    obtain ⟨rfl, hrest⟩ := replays_asked_iff.mp hreplays
    rcases hexecution.calls_eq with ⟨hcalls, hconsulted⟩ | ⟨hcalls, -, rfl⟩
    · obtain ⟨rest, rfl⟩ := hconsulted hhealth
      refine .inl ⟨⟨hguard_iff.mp hguard, fun _ => ⟨?_, ?_⟩⟩, ?_⟩
      · exact readReasons_eq_ok_nil_iff.mp hreasons
      · exact agreed_of_replays_consulted hrest
      · rw [calls_cons_asked, hcalls, Action.inquiries_of_disruptive hhealth]
        exact List.append_cons _ _ _
    · refine .inr ⟨fun hadmitted => ?_, by simp [hcalls, unchanging_disabledReasons]⟩
      rw [← List.append_nil (consulted _ _)] at hrest
      have hrefused := agreed_of_replays_consulted hrest
      rw [(hadmitted.2 hhealth).agreed] at hrefused
      cases hrefused

end Replays

/-! ## The gate -/

/-- A run either is admitted and makes its inquiries and then its change, or is not admitted and
changes nothing. -/
theorem admitted_or_unchanging (gateway : Gateway γ) (attendants : Attendants δ) (g : γ) (d : δ)
    (command : Command) (options : CallOptions) :
    let exchanges :=
      ((dispatch command options).run.run (gateway.among attendants) (g, d)).exchanges
    (∃ action, command = .perform action ∧ action.Admitted (gateway.findings g) attendants d ∧
        calls exchanges = action.inquiries ++ [action.mutation]) ∨
      ¬ command.Admitted (gateway.findings g) attendants d ∧
        ∀ call ∈ calls exchanges, call.changes = false := by
  have hcourse := course_dispatch
    (Procedure.course_run (gateway.among attendants) (dispatch command options).run (g, d))
  have hreplays := (gateway.among attendants).replays_run (dispatch command options).run (g, d)
  generalize (dispatch command options).run.run (gateway.among attendants) (g, d) = run
    at hcourse hreplays
  obtain ⟨result, exchanges, s⟩ := run
  simp only at hcourse hreplays ⊢
  cases hcourse with
  | stopped hsnapshot =>
    refine .inr ⟨fun hadmitted => ?_, hsnapshot.unchanging⟩
    cases command with
    | status => exact hadmitted
    | perform action => exact hsnapshot.not_show hreplays (Action.admitted_iff.mp hadmitted).1
  | reported hsnapshot hreport =>
    refine .inr ⟨id, ?_⟩
    rw [calls_append]
    exact List.forall_mem_append.mpr ⟨hsnapshot.unchanging, hreport.unchanging⟩
  | @performed action before after snapshot result hsnapshot hperform =>
    obtain ⟨identifier, hrole, hshow, hrest⟩ := hsnapshot.show hreplays
    rcases hperform.calls_eq hrole hshow hrest with ⟨hadmitted, hcalls⟩ | ⟨hrefused, hquiet⟩
    · refine .inl ⟨action, rfl, hadmitted, ?_⟩
      rw [calls_append, hsnapshot.calls_of_ok, hcalls]
    · refine .inr ⟨hrefused, ?_⟩
      rw [calls_append]
      exact List.forall_mem_append.mpr ⟨hsnapshot.unchanging, hquiet⟩

/-- A command changes the cluster exactly when the answers of the daemon and of the operator admit
it. Then it makes its inquiries and, as its last call, its one change. -/
theorem changes_iff_admitted (gateway : Gateway γ) (attendants : Attendants δ) (g : γ) (d : δ)
    (command : Command) (options : CallOptions) :
    let exchanges :=
      ((dispatch command options).run.run (gateway.among attendants) (g, d)).exchanges
    ((∃ call ∈ calls exchanges, call.changes = true) ↔
        command.Admitted (gateway.findings g) attendants d) ∧
      (command.Admitted (gateway.findings g) attendants d →
        ∃ action, command = .perform action ∧
          calls exchanges = action.inquiries ++ [action.mutation] ∧
          (calls exchanges).filter Call.changes = [action.mutation]) := by
  intro exchanges
  rcases admitted_or_unchanging gateway attendants g d command options with
    ⟨action, rfl, hadmitted, hcalls⟩ | ⟨hrefused, hquiet⟩
  · have hchange : action.mutation.changes = true := action.changes_mutation
    refine ⟨⟨fun _ => hadmitted, fun _ => ⟨action.mutation, ?_, hchange⟩⟩, fun _ => ?_⟩
    · rw [hcalls]
      simp
    · refine ⟨action, rfl, hcalls, ?_⟩
      have hinquiries : action.inquiries.filter Call.changes = [] := by
        simpa [List.filter_eq_nil_iff] using action.unchanging_inquiries
      rw [hcalls, List.filter_append, hinquiries, List.filter_cons_of_pos hchange]
      rfl
  · refine ⟨⟨?_, fun h => absurd h hrefused⟩, fun h => absurd h hrefused⟩
    rintro ⟨call, hcall, hchange⟩
    rw [hquiet call hcall] at hchange
    cases hchange

end FailoverControl.Control
