import FailoverControl.Proofs.Control.Stages

/-!
# The calls of a command

Every command has a script: the calls that it makes, in order, when nothing stops it. Whatever the
answers are, the calls of a run are a beginning of the script, so a run never makes a call that is
not in the script, never repeats one and never makes one out of order.

The main statement: the calls of every course of a command begin its script
(`CommandCourse.calls_begin`).
-/

set_option autoImplicit false

namespace FailoverControl.Control

open FailoverControl.Daemon
open FailoverControl.Json (Value)

/-! ## Scripts -/

/-- The inquiries of a snapshot, in order. -/
def snapshotInquiries : List Call :=
  [inquiry Method.licenseIsHA, inquiry Method.config, inquiry Method.status]

/-- The actions that disrupt the service. -/
def Action.IsDisruptive (action : Action) : Prop :=
  action = .takeover ∨ action = .giveback

/-- The disruptive actions are those that want healthy failover. -/
theorem Action.isDisruptive_iff {action : Action} :
    action.IsDisruptive ↔ action.requiresHealth = true := by
  cases action <;> simp [IsDisruptive, requiresHealth]

/-- The inquiries before an action, in order: the reasons for disabled failover come last, right
before the actions that disrupt the service. -/
def Action.inquiries : Action → List Call
  | .enable => snapshotInquiries
  | .disable => snapshotInquiries
  | .takeover => snapshotInquiries ++ [inquiry Method.disabledReasons]
  | .giveback => snapshotInquiries ++ [inquiry Method.disabledReasons]

/-- An action that disrupts nothing only takes the snapshot first. -/
theorem Action.inquiries_of_undisruptive {action : Action} (h : action.requiresHealth = false) :
    action.inquiries = snapshotInquiries := by
  cases action with
  | enable => rfl
  | disable => rfl
  | takeover => contradiction
  | giveback => contradiction

/-- A disruptive action takes the snapshot and then asks for the reasons. -/
theorem Action.inquiries_of_disruptive {action : Action} (h : action.requiresHealth = true) :
    action.inquiries = snapshotInquiries ++ [inquiry Method.disabledReasons] := by
  cases action with
  | enable => contradiction
  | disable => contradiction
  | takeover => rfl
  | giveback => rfl

/-- Before an action only the snapshot is taken and the reasons are asked for. -/
theorem Action.of_mem_inquiries {action : Action} {call : Call} (h : call ∈ action.inquiries) :
    call ∈ snapshotInquiries ∨ call = inquiry Method.disabledReasons := by
  cases hhealth : action.requiresHealth with
  | false => exact .inl (inquiries_of_undisruptive hhealth ▸ h)
  | true => simpa [inquiries_of_disruptive hhealth] using h

/-- Every action first takes the snapshot. -/
theorem Action.snapshotInquiries_prefix (action : Action) :
    snapshotInquiries <+: action.inquiries := by
  cases hhealth : action.requiresHealth with
  | false => exact inquiries_of_undisruptive hhealth ▸ List.prefix_refl _
  | true => exact inquiries_of_disruptive hhealth ▸ List.prefix_append _ _

/-- The calls that a command makes when nothing stops it. -/
def Command.script (options : CallOptions) : Command → List Call
  | .status => snapshotInquiries ++ [peerInquiry options, inquiry Method.disabledReasons]
  | .perform action => action.inquiries ++ [action.mutation]

/-- No script is longer than five calls. -/
theorem Command.length_script_le (options : CallOptions) (command : Command) :
    (command.script options).length ≤ 5 := by
  cases command with
  | status => exact Nat.le_refl 5
  | perform action => cases action <;> simp [script, Action.inquiries, snapshotInquiries]

/-- Only the question about the other node is bounded, by the options of the command. -/
theorem Command.options_of_mem_script {options : CallOptions} {command : Command} {call : Call}
    (h : call ∈ command.script options) : call.options = none ∨ call.options = some options := by
  cases command with
  | status =>
    simp only [script, snapshotInquiries, List.mem_append, List.mem_cons, List.not_mem_nil,
      or_false] at h
    rcases h with (rfl | rfl | rfl) | rfl | rfl
    · exact .inl rfl
    · exact .inl rfl
    · exact .inl rfl
    · exact .inr rfl
    · exact .inl rfl
  | perform action =>
    have hunbounded : ∀ call ∈ action.inquiries ++ [action.mutation], call.options = none := by
      cases action <;> simp [Action.inquiries, snapshotInquiries, inquiry, Action.mutation,
        Call.forwarded]
    exact .inl (hunbounded call h)

/-! ## Calls among exchanges -/

/-- No exchanges make no calls. -/
@[simp]
theorem calls_nil : calls [] = [] := rfl

/-- The calls of two parts are made one after the other. -/
@[simp]
theorem calls_append (first second : List Exchange) :
    calls (first ++ second) = calls first ++ calls second := List.filterMap_append

/-- A call in front is made first. -/
@[simp]
theorem calls_cons_call (call : Call) (outcome : CallOutcome) (rest : List Exchange) :
    calls (⟨.call call, outcome⟩ :: rest) = call :: calls rest := rfl

/-- An inquiry in front is made first. -/
@[simp]
theorem calls_cons_asked (method : String) (outcome : CallOutcome) (rest : List Exchange) :
    calls (asked method outcome :: rest) = inquiry method :: calls rest := rfl

/-- A log entry is no call. -/
@[simp]
theorem calls_cons_noted (entry : Log.Entry) (rest : List Exchange) :
    calls (noted entry :: rest) = calls rest := rfl

/-- Consulting the operator makes no call. -/
@[simp]
theorem calls_consulted (warning : String) (agreed : Bool) :
    calls (consulted warning agreed) = [] := rfl

/-! ## The calls of the stages -/

variable {exchanges : List Exchange}

/-- The snapshot makes its inquiries and writes to the log, and nothing else. -/
theorem SnapshotCourse.forall_mem {command : Command} {result : Except Failure Snapshot}
    {P : Exchange → Prop} (h : SnapshotCourse command exchanges result)
    (hasked : ∀ call ∈ snapshotInquiries, ∀ outcome, P ⟨.call call, outcome⟩)
    (hnoted : ∀ entry, P (noted entry)) : ∀ e ∈ exchanges, P e := by
  simp only [snapshotInquiries, List.forall_mem_cons] at hasked
  obtain ⟨hlicense, hconfig, hstatus, -⟩ := hasked
  cases h <;> simp [asked, hlicense, hconfig, hstatus, hnoted]

/-- A snapshot that is taken has made all of its inquiries. -/
theorem SnapshotCourse.calls_of_ok {command : Command} {snapshot : Snapshot}
    (h : SnapshotCourse command exchanges (.ok snapshot)) :
    calls exchanges = snapshotInquiries := by
  cases h
  rfl

/-- A snapshot makes its inquiries in order, as far as it comes. -/
theorem SnapshotCourse.calls_begin {command : Command} {result : Except Failure Snapshot}
    (h : SnapshotCourse command exchanges result) : calls exchanges <+: snapshotInquiries := by
  cases h with
  | licenseFailed _ => exact ⟨[inquiry Method.config, inquiry Method.status], rfl⟩
  | unlicensed _ => exact ⟨[inquiry Method.config, inquiry Method.status], rfl⟩
  | configFailed _ _ => exact ⟨[inquiry Method.status], rfl⟩
  | roleFailed _ _ _ => exact ⟨[], rfl⟩
  | taken _ _ _ => exact ⟨[], rfl⟩

/-- A report always asks the other node and then for the reasons, whatever the answers are. -/
theorem ReportCourse.calls_eq {role : Cluster.Role} {options : CallOptions}
    {result : Except Failure Report} (h : ReportCourse role options exchanges result) :
    calls exchanges = [peerInquiry options, inquiry Method.disabledReasons] := by
  cases h
  rfl

/-- An action that is carried out makes its one change, unless it is disruptive and the operator
does not agree. -/
theorem ExecutionCourse.calls_eq {action : Action} {result : Except Failure Executed}
    (h : ExecutionCourse action exchanges result) :
    calls exchanges = [action.mutation] ∧
        (action.requiresHealth = true →
          ∃ rest, exchanges = consulted action.warning true ++ rest) ∨
      calls exchanges = [] ∧ action.requiresHealth = true ∧
        exchanges = consulted action.warning false := by
  cases h with
  | enable outcome => exact .inl ⟨rfl, nofun⟩
  | disable outcome => exact .inl ⟨rfl, nofun⟩
  | takeoverCancelled => exact .inr ⟨rfl, rfl, rfl⟩
  | takeover outcome => exact .inl ⟨rfl, fun _ => ⟨_, rfl⟩⟩
  | givebackCancelled => exact .inr ⟨rfl, rfl, rfl⟩
  | givebackRefused cause => exact .inl ⟨rfl, fun _ => ⟨_, rfl⟩⟩
  | giveback value outcome => exact .inl ⟨rfl, fun _ => ⟨_, rfl⟩⟩

/-- An action that is carried out makes no call but its change. -/
theorem ExecutionCourse.calls_begin {action : Action} {result : Except Failure Executed}
    (h : ExecutionCourse action exchanges result) : calls exchanges <+: [action.mutation] := by
  rcases h.calls_eq with ⟨hcalls, -⟩ | ⟨hcalls, -⟩
  · exact hcalls ▸ List.prefix_refl _
  · exact hcalls ▸ List.nil_prefix

/-- Behind the snapshot an action goes on with its own script. -/
theorem PerformanceCourse.calls_begin {snapshot : Snapshot} {action : Action}
    {result : Except Failure Executed} (h : PerformanceCourse snapshot action exchanges result) :
    snapshotInquiries ++ calls exchanges <+: action.inquiries ++ [action.mutation] := by
  cases h with
  | rejected _ =>
    rw [calls_nil, List.append_nil]
    exact action.snapshotInquiries_prefix.trans (List.prefix_append _ _)
  | undisruptive _ hhealth hexecution =>
    rw [Action.inquiries_of_undisruptive hhealth, List.prefix_append_right_inj]
    exact hexecution.calls_begin
  | reasonsFailed _ hhealth _ =>
    rw [Action.inquiries_of_disruptive hhealth]
    exact List.prefix_append _ _
  | unhealthy _ hhealth _ =>
    rw [Action.inquiries_of_disruptive hhealth]
    exact List.prefix_append _ _
  | healthy _ hhealth _ hexecution =>
    rw [Action.inquiries_of_disruptive hhealth, calls_cons_asked, List.append_cons,
      List.prefix_append_right_inj]
    exact hexecution.calls_begin

/-- The calls of a command begin its script. -/
theorem CommandCourse.calls_begin {options : CallOptions} {command : Command}
    {result : Except Failure Outcome} (h : CommandCourse options command exchanges result) :
    calls exchanges <+: command.script options := by
  cases h with
  | stopped hsnapshot =>
    cases command with
    | status => exact hsnapshot.calls_begin.trans (List.prefix_append _ _)
    | perform action =>
      exact hsnapshot.calls_begin.trans
        (action.snapshotInquiries_prefix.trans (List.prefix_append _ _))
  | reported hsnapshot hreport =>
    rw [calls_append, hsnapshot.calls_of_ok, hreport.calls_eq]
    exact List.prefix_refl _
  | performed hsnapshot hperform =>
    rw [calls_append, hsnapshot.calls_of_ok]
    exact hperform.calls_begin

end FailoverControl.Control
