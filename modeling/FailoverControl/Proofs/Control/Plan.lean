import FailoverControl.Proofs.Control.Connection
import FailoverControl.Proofs.Control.Gate

/-!
# Where a command stops

A command works off its script and stops directly after the first answer that fails it, with the
failure of that step: an answer that cannot be used is a failed fetch of what was asked for, a
missing licence, a rule of the guard and a reason against healthy failover are rejections, and a
refused change is a failed mutation. Only the answer about the other node stops nothing, whatever it
is.

`Command.failure?` says which answers fail a command, and `Command.Ends` what it comes to when none
does. The main statement: every run is accounted for by these two (`accounted_dispatch`).
-/

set_option autoImplicit false

namespace FailoverControl.Control

open FailoverControl.Cluster
open FailoverControl.Daemon
open FailoverControl.Host (IoError)

variable {σ : Type}

/-! ## What fails a command -/

/-- The failure that the last of some answers stops a run with, if it does not let it go on. -/
def failureOf {α : Type} : Except Failure α → Option Failure
  | .error e => some e
  | .ok _ => none

/-- The failure of a refused change. -/
def mutationFailure? : CallOutcome → Option Failure
  | .error cause => some (.mutation cause)
  | .ok _ => none

/-- The failure of a command on a node without a licence. -/
def licenseFailure? (license : CallOutcome) : Option Failure :=
  match readLicense license with
  | .error e => some e
  | .ok false => some .notHaNode
  | .ok true => none

/-- The rule of the guard that an action breaks, by whether failover is disabled and by the
identifier of the role of this node. The rule on failover comes before the rule on the role. -/
def brokenRule? (disabled : Bool) (identifier : String) : Action → Option Rejection
  | .enable =>
    if disabled = false then some .alreadyEnabled
    else if identifier ≠ "MASTER" then some .notActiveForToggle
    else none
  | .disable =>
    if disabled = true then some .alreadyDisabled
    else if identifier ≠ "MASTER" then some .notActiveForToggle
    else none
  | .takeover =>
    if disabled = true then some .failoverDisabled
    else if identifier ≠ "BACKUP" then some .notStandby
    else none
  | .giveback =>
    if disabled = true then some .failoverDisabled
    else if identifier ≠ "MASTER" then some .notActive
    else none

/-- The failure of an action on the cluster that settings and role show. -/
def guardFailure? (config : CallOutcome) (identifier : String) : Command → Option Failure
  | .status => none
  | .perform action =>
    match readConfig config with
    | .error e => some e
    | .ok settings => (brokenRule? settings.disabled identifier action).map .rejected

/-- The failure of a command on what the third answer, together with the settings, shows. -/
def statusFailure? (command : Command) (config status : CallOutcome) : Option Failure :=
  match readIdentifier status with
  | .error e => some e
  | .ok identifier => guardFailure? config identifier command

/-- The failure of a disruptive action: any reason for disabled failover is against it. -/
def healthFailure? (reasons : CallOutcome) : Option Failure :=
  match readReasons reasons with
  | .error e => some e
  | .ok [] => none
  | .ok (_ :: _) => some (.rejected .unhealthy)

/-- The failure with which the last of the answers so far stops a command. -/
def Command.failure? (command : Command) : List CallOutcome → Option Failure
  | [license] => licenseFailure? license
  | [_, config] => failureOf (readConfig config)
  | [_, config, role] => statusFailure? command config role
  | [_, _, _, fourth] =>
    match command with
    | .status => none
    | .perform .enable => mutationFailure? fourth
    | .perform .disable => mutationFailure? fourth
    | .perform .takeover => healthFailure? fourth
    | .perform .giveback => healthFailure? fourth
  | [_, _, _, _, fifth] =>
    match command with
    | .status => failureOf (readReasons fifth)
    | .perform _ => mutationFailure? fifth
  | _ => none

/-- What an action that has been carried out did. -/
def Action.executed : Action → Executed
  | .enable => .enabled
  | .disable => .disabled
  | .takeover => .takeoverRequested
  | .giveback => .givebackRequested

/-- What a command comes to when no answer stops it. -/
inductive Command.Ends (options : CallOptions) (exchanges : List Exchange) :
    Command → Except Failure Outcome → Prop
  /-- The report shows what has been fetched. An answer about the other node that cannot be used is
  shown in place of its serial number. -/
  | reported {license config facts reasons : CallOutcome} {identifier : String}
      {serial : Except IoError String} {codes : List Reason}
      (hanswers :
        outcomes exchanges = [license, config, .ok (.string identifier), facts, reasons])
      (hserial : ⟨.serial, serial⟩ ∈ exchanges) (hcodes : readReasons reasons = .ok codes) :
      Ends options exchanges .status (.ok (.report
        ⟨Role.ofIdentifier identifier, serial, facts.bind serialOf, options, codes⟩))
  /-- The operator does not agree, so the change is not made. -/
  | cancelled {action : Action} (hdisruptive : action.IsDisruptive)
      (hcalls : calls exchanges = action.inquiries)
      (hasked : ⟨.confirm confirmationPrompt, false⟩ ∈ exchanges) :
      Ends options exchanges (.perform action) (.error (.cancelled action))
  | carriedOut {action : Action} (hstays : action ≠ .giveback)
      (hcalls : calls exchanges = action.inquiries ++ [action.mutation])
      (hasked : action.IsDisruptive → ⟨.confirm confirmationPrompt, true⟩ ∈ exchanges) :
      Ends options exchanges (.perform action) (.ok (.executed action.executed))
  /-- A giveback ends with the reboot of this node, well or not. -/
  | handedOver {outcome : Except IoError Unit}
      (hcalls : calls exchanges = Action.inquiries .giveback ++ [Action.mutation .giveback])
      (hasked : ⟨.confirm confirmationPrompt, true⟩ ∈ exchanges)
      (hreboot : ⟨.reboot, outcome⟩ ∈ exchanges) :
      Ends options exchanges (.perform .giveback) ((rebooted outcome).map .executed)

/-- A run whose calls begin the script of its command, none of them made twice, and which goes on
exactly as long as no answer fails the command. -/
structure Accounted (command : Command) (options : CallOptions) (exchanges : List Exchange)
    (result : Except Failure Outcome) : Prop where
  begins : calls exchanges <+: command.script options
  once : ((calls exchanges).map Call.method).Nodup
  answered : (outcomes exchanges).length = (calls exchanges).length
  /-- No answer but the last one fails the command. -/
  goesOn : ∀ n, 0 < n → n < (outcomes exchanges).length →
    command.failure? ((outcomes exchanges).take n) = none
  stops : ∀ failure, command.failure? (outcomes exchanges) = some failure →
    result = .error failure
  ends : command.failure? (outcomes exchanges) = none → command.Ends options exchanges result

/-! ## The rules of the guard -/

/-- The guard rejects an action by the rule that the action breaks, if it breaks one. -/
theorem rejection?_eq_brokenRule? (settings : Config) (identifier : String) (action : Action) :
    (Snapshot.mk (Role.ofIdentifier identifier) settings).rejection? action =
      brokenRule? settings.disabled identifier action := by
  cases action with
  | takeover =>
    simp only [Snapshot.rejection?, brokenRule?, ne_eq, ofIdentifier_eq_standby_iff]
  | _ =>
    simp [Snapshot.rejection?, brokenRule?, ofIdentifier_eq_active_iff]

/-- The fourth answer to a disruptive action gives the reasons for disabled failover. -/
theorem failure?_fourth_of_disruptive {action : Action} (h : action.requiresHealth = true)
    (license config status reasons : CallOutcome) :
    Command.failure? (.perform action) [license, config, status, reasons] =
      healthFailure? reasons := by
  cases action with
  | enable => contradiction
  | disable => contradiction
  | takeover => rfl
  | giveback => rfl

/-- The fourth answer to an action that disrupts nothing is the one to its change. -/
theorem failure?_fourth_of_undisruptive {action : Action} (h : action.requiresHealth = false)
    (license config status outcome : CallOutcome) :
    Command.failure? (.perform action) [license, config, status, outcome] =
      mutationFailure? outcome := by
  cases action with
  | enable => rfl
  | disable => rfl
  | takeover => contradiction
  | giveback => contradiction

/-! ## Answers among exchanges -/

/-- No exchanges give no answers. -/
@[simp]
theorem outcomes_nil : outcomes [] = [] := rfl

/-- The answers of two parts come one after the other. -/
@[simp]
theorem outcomes_append (first second : List Exchange) :
    outcomes (first ++ second) = outcomes first ++ outcomes second := List.filterMap_append

/-- The answer to a call in front comes first. -/
@[simp]
theorem outcomes_cons_call (call : Call) (outcome : CallOutcome) (rest : List Exchange) :
    outcomes (⟨.call call, outcome⟩ :: rest) = outcome :: outcomes rest := rfl

/-- The answer to an inquiry in front comes first. -/
@[simp]
theorem outcomes_cons_asked (method : String) (outcome : CallOutcome) (rest : List Exchange) :
    outcomes (asked method outcome :: rest) = outcome :: outcomes rest := rfl

/-- A log entry has no answer of the daemon. -/
@[simp]
theorem outcomes_cons_noted (entry : Log.Entry) (rest : List Exchange) :
    outcomes (noted entry :: rest) = outcomes rest := rfl

/-- Consulting the operator gives no answer of the daemon. -/
@[simp]
theorem outcomes_consulted (warning : String) (agreed : Bool) :
    outcomes (consulted warning agreed) = [] := rfl

/-- Every call has one answer. -/
theorem length_outcomes (exchanges : List Exchange) :
    (outcomes exchanges).length = (calls exchanges).length := by
  induction exchanges with
  | nil => rfl
  | cons exchange rest ih =>
    obtain ⟨request, answer⟩ := exchange
    cases request with
    | call call => exact congrArg (· + 1) ih
    | _ => exact ih

/-- No script asks for one thing twice. -/
theorem Command.nodup_script (options : CallOptions) (command : Command) :
    ((command.script options).map Call.method).Nodup := by
  have hreport : [Method.licenseIsHA, Method.config, Method.status, Method.callRemote,
      Method.disabledReasons].Nodup := by decide
  have htoggle : [Method.licenseIsHA, Method.config, Method.status, Method.update].Nodup := by
    decide
  have hdemote : [Method.licenseIsHA, Method.config, Method.status, Method.disabledReasons,
      Method.callRemote].Nodup := by decide
  have hhandOver : [Method.licenseIsHA, Method.config, Method.status, Method.disabledReasons,
      Method.becomePassive].Nodup := by decide
  cases command with
  | status => exact hreport
  | perform action =>
    cases action with
    | enable => exact htoggle
    | disable => exact htoggle
    | takeover => exact hdemote
    | giveback => exact hhandOver

/-! ## Answers that do not fail a command -/

/-- None of the answers fails a command. -/
def Command.Passes (command : Command) (answers : List CallOutcome) : Prop :=
  ∀ n, 0 < n → n ≤ answers.length → command.failure? (answers.take n) = none

variable {command : Command}

/-- A command without answers goes on. -/
theorem Command.passes_nil : command.Passes [] := by
  intro n hpos hle
  exact absurd hle (Nat.not_le.mpr hpos)

/-- One more answer that fails nothing lets the command go on. -/
theorem Command.Passes.concat {answers : List CallOutcome} {answer : CallOutcome}
    (h : command.Passes answers) (hlast : command.failure? (answers ++ [answer]) = none) :
    command.Passes (answers ++ [answer]) := by
  intro n hpos hle
  rw [List.length_append, List.length_singleton] at hle
  rcases Nat.lt_or_ge answers.length n with hlong | hshort
  · have hall : (answers ++ [answer]).length ≤ n := by simp; omega
    rwa [List.take_of_length_le hall]
  · rw [List.take_append_of_le_length hshort]
    exact h n hpos hshort

/-- A run goes on as long as the answers before the last one pass. -/
theorem Command.Passes.goesOn {answers : List CallOutcome} {answer : CallOutcome}
    (h : command.Passes answers) (n : Nat) (hpos : 0 < n) (hlt : n < (answers ++ [answer]).length) :
    command.failure? ((answers ++ [answer]).take n) = none := by
  rw [List.length_append, List.length_singleton] at hlt
  have hle : n ≤ answers.length := Nat.le_of_lt_succ hlt
  rw [List.take_append_of_le_length hle]
  exact h n hpos hle

/-! ## The stages -/

variable {options : CallOptions} {exchanges : List Exchange}

/-- The calls of a course begin the script, so none of them is made twice. -/
theorem CommandCourse.once {result : Except Failure Outcome}
    (h : CommandCourse options command exchanges result) :
    ((calls exchanges).map Call.method).Nodup := by
  obtain ⟨rest, hscript⟩ := h.calls_begin
  have hnodup := command.nodup_script options
  rw [← hscript, List.map_append] at hnodup
  exact (List.nodup_append.mp hnodup).1

/-- A run whose last answer fails the command and whose other answers do not. -/
theorem CommandCourse.accounted_of_failure {answer : CallOutcome} {e : Failure}
    (h : CommandCourse options command exchanges (.error e)) (answers : List CallOutcome)
    (hanswers : outcomes exchanges = answers ++ [answer]) (hpasses : command.Passes answers)
    (hfailure : command.failure? (answers ++ [answer]) = some e) :
    Accounted command options exchanges (.error e) where
  begins := h.calls_begin
  once := h.once
  answered := length_outcomes exchanges
  goesOn := by
    rw [hanswers]
    exact hpasses.goesOn
  stops := by
    intro failure hstop
    rw [hanswers, hfailure] at hstop
    rw [Option.some.inj hstop]
  ends := by
    intro hnone
    rw [hanswers, hfailure] at hnone
    cases hnone

/-- A run that no answer stops. -/
theorem CommandCourse.accounted_of_passes {result : Except Failure Outcome}
    (h : CommandCourse options command exchanges result)
    (hpasses : command.Passes (outcomes exchanges))
    (hends : command.Ends options exchanges result) :
    Accounted command options exchanges result where
  begins := h.calls_begin
  once := h.once
  answered := length_outcomes exchanges
  goesOn n hpos hlt := hpasses n hpos (Nat.le_of_lt hlt)
  stops := by
    intro failure hstop
    cases hlength : outcomes exchanges with
    | nil =>
      rw [hlength] at hstop
      cases hstop
    | cons answer rest =>
      have hnone := hpasses (outcomes exchanges).length (by simp [hlength]) (Nat.le_refl _)
      rw [List.take_length, hstop] at hnone
      cases hnone
  ends _ := hends

/-- An answer that can be used stops nothing by itself. -/
theorem failureOf_of_ok {α : Type} {answer : Except Failure α} {a : α} (h : answer = .ok a) :
    failureOf answer = none := by
  rw [h]
  rfl

/-- An answer that cannot be used is the failure that stops the run. -/
theorem failureOf_of_error {α : Type} {answer : Except Failure α} {e : Failure}
    (h : answer = .error e) : failureOf answer = some e := by
  rw [h]
  rfl

/-- A licence lets a command go on. -/
theorem passes_license {license : CallOutcome} (hlicense : readLicense license = .ok true) :
    command.Passes [license] := by
  refine Command.passes_nil.concat ?_
  simp only [List.nil_append, Command.failure?, licenseFailure?, hlicense]

/-- Settings that can be read let a command go on. -/
theorem passes_config {license config : CallOutcome} {settings : Config}
    (hlicense : readLicense license = .ok true) (hconfig : readConfig config = .ok settings) :
    command.Passes [license, config] :=
  (passes_license hlicense).concat (failureOf_of_ok hconfig)

/-- A snapshot that is taken passes unless the guard rejects the action. -/
theorem passes_status {license config status : CallOutcome} {settings : Config}
    {identifier : String} (hlicense : readLicense license = .ok true)
    (hconfig : readConfig config = .ok settings)
    (hstatus : readIdentifier status = .ok identifier)
    (hguard : ∀ action, command = .perform action →
      (Snapshot.mk (Role.ofIdentifier identifier) settings).rejection? action = none) :
    command.Passes [license, config, status] := by
  refine (passes_config hlicense hconfig).concat ?_
  change statusFailure? command config status = none
  simp only [statusFailure?, hstatus]
  cases command with
  | status => rfl
  | perform action =>
    simp only [guardFailure?, hconfig, ← rejection?_eq_brokenRule?, hguard action rfl,
      Option.map_none]

/-- A command that stops at the snapshot is accounted for. -/
theorem accounted_of_stopped {e : Failure} (h : SnapshotCourse command exchanges (.error e)) :
    Accounted command options exchanges (.error e) := by
  have hcourse : CommandCourse options command exchanges (.error e) := .stopped h
  cases h with
  | licenseFailed hlicense =>
    refine hcourse.accounted_of_failure [] rfl Command.passes_nil ?_
    simp only [List.nil_append, Command.failure?, licenseFailure?, hlicense]
  | unlicensed hlicense =>
    refine hcourse.accounted_of_failure [] rfl Command.passes_nil ?_
    simp only [List.nil_append, Command.failure?, licenseFailure?, hlicense]
  | @configFailed license _ _ hlicense hconfig =>
    exact hcourse.accounted_of_failure [license] rfl (passes_license hlicense)
      (failureOf_of_error hconfig)
  | @roleFailed license config _ _ _ hlicense hconfig hstatus =>
    refine hcourse.accounted_of_failure [license, config] rfl
      (passes_config hlicense hconfig) ?_
    change statusFailure? command _ _ = _
    simp only [statusFailure?, hstatus]

/-- A report is accounted for. -/
theorem accounted_of_reported {before after : List Exchange} {snapshot : Snapshot}
    {result : Except Failure Report} (hsnapshot : SnapshotCourse .status before (.ok snapshot))
    (hreport : ReportCourse snapshot.role options after result) :
    Accounted .status options (before ++ after) (result.map .report) := by
  have hcourse : CommandCourse options .status (before ++ after) (result.map .report) :=
    .reported hsnapshot hreport
  cases hsnapshot with
  | @taken license config status settings identifier hlicense hconfig hstatus =>
    cases hreport with
    | gathered serial facts reasons =>
      -- Whatever the answer about the other node is, the reasons are asked for.
      have hsettled : Command.Passes .status [license, config, status] :=
        passes_status hlicense hconfig hstatus nofun
      have hpasses : Command.Passes .status [license, config, status, facts] :=
        hsettled.concat rfl
      cases hreasons : readReasons reasons with
      | error e =>
        rw [hreasons] at hcourse
        exact hcourse.accounted_of_failure _ rfl hpasses (failureOf_of_error hreasons)
      | ok codes =>
        rw [hreasons] at hcourse
        refine hcourse.accounted_of_passes (hpasses.concat (failureOf_of_ok hreasons)) ?_
        rw [readIdentifier_eq_ok_iff] at hstatus
        subst hstatus
        exact .reported rfl (by simp) hreasons

/-- An action that is carried out either is refused its change or comes to one of the ends. -/
theorem ExecutionCourse.refused_or_ends {action : Action} {before after : List Exchange}
    {result : Except Failure Executed} (h : ExecutionCourse action after result)
    (hcalls : calls before = action.inquiries) :
    (∃ cause, outcomes after = [.error cause] ∧ result = .error (.mutation cause)) ∨
      (outcomes after = [] ∨ ∃ value, outcomes after = [.ok value]) ∧
        Command.Ends options (before ++ after) (.perform action) (result.map .executed) := by
  cases h with
  | enable outcome =>
    cases outcome with
    | error cause => exact .inl ⟨cause, rfl, rfl⟩
    | ok value =>
      refine .inr ⟨.inr ⟨value, rfl⟩, .carriedOut (by decide) (by simp [hcalls]) fun h => ?_⟩
      exact absurd (Action.isDisruptive_iff.mp h) (by decide)
  | disable outcome =>
    cases outcome with
    | error cause => exact .inl ⟨cause, rfl, rfl⟩
    | ok value =>
      refine .inr ⟨.inr ⟨value, rfl⟩, .carriedOut (by decide) (by simp [hcalls]) fun h => ?_⟩
      exact absurd (Action.isDisruptive_iff.mp h) (by decide)
  | takeoverCancelled =>
    exact .inr ⟨.inl rfl, .cancelled (.inl rfl) (by simp [hcalls]) (by simp [consulted])⟩
  | takeover outcome =>
    cases outcome with
    | error cause => exact .inl ⟨cause, rfl, rfl⟩
    | ok value =>
      refine .inr ⟨.inr ⟨value, rfl⟩, .carriedOut (by decide) (by simp [hcalls]) fun _ => ?_⟩
      simp [consulted]
  | givebackCancelled =>
    exact .inr ⟨.inl rfl, .cancelled (.inr rfl) (by simp [hcalls]) (by simp [consulted])⟩
  | givebackRefused cause => exact .inl ⟨cause, rfl, rfl⟩
  | giveback value outcome =>
    refine .inr ⟨.inr ⟨value, rfl⟩, .handedOver ?_ (by simp [consulted]) (by simp)⟩
    rw [calls_append, hcalls]
    rfl

/-- An action that is carried out behind its inquiries, whose answers pass, stops only when its
change is refused. -/
theorem ExecutionCourse.accounted {action : Action} {before after : List Exchange}
    {result : Except Failure Executed} (h : ExecutionCourse action after result)
    (hcourse : CommandCourse options (.perform action) (before ++ after) (result.map .executed))
    (hcalls : calls before = action.inquiries)
    (hpasses : Command.Passes (.perform action) (outcomes before))
    (hmutation : ∀ outcome, Command.failure? (.perform action) (outcomes before ++ [outcome]) =
      mutationFailure? outcome) :
    Accounted (.perform action) options (before ++ after) (result.map .executed) := by
  rcases h.refused_or_ends hcalls with ⟨cause, hrefused, rfl⟩ | ⟨hquiet, hends⟩
  · have hanswers : outcomes (before ++ after) = outcomes before ++ [.error cause] := by
      rw [outcomes_append, hrefused]
    exact hcourse.accounted_of_failure _ hanswers hpasses (hmutation _)
  · refine hcourse.accounted_of_passes ?_ hends
    rw [outcomes_append]
    rcases hquiet with hnone | ⟨value, hvalue⟩
    · rwa [hnone, List.append_nil]
    · rw [hvalue]
      exact hpasses.concat (hmutation _)

/-- An action behind its snapshot is accounted for. -/
theorem accounted_of_performed {action : Action} {before after : List Exchange}
    {snapshot : Snapshot} {result : Except Failure Executed}
    (hsnapshot : SnapshotCourse (.perform action) before (.ok snapshot))
    (hperform : PerformanceCourse snapshot action after result) :
    Accounted (.perform action) options (before ++ after) (result.map .executed) := by
  have hcourse : CommandCourse options (.perform action) (before ++ after)
      (result.map .executed) := .performed hsnapshot hperform
  cases hsnapshot with
  | @taken license config status settings identifier hlicense hconfig hstatus =>
    have hpasses (hguard : (Snapshot.mk (Role.ofIdentifier identifier) settings).rejection? action =
        none) : Command.Passes (.perform action) [license, config, status] := by
      refine passes_status hlicense hconfig hstatus ?_
      rintro _ ⟨⟩
      exact hguard
    cases hperform with
    | @rejected rejection hguard =>
      refine hcourse.accounted_of_failure [license, config] rfl
        (passes_config hlicense hconfig) ?_
      change statusFailure? (.perform action) config status = _
      simp only [statusFailure?, hstatus, guardFailure?, hconfig, ← rejection?_eq_brokenRule?,
        hguard, Option.map_some]
    | undisruptive hguard hhealth hexecution =>
      refine hexecution.accounted hcourse ?_ (hpasses hguard) fun outcome => ?_
      · rw [Action.inquiries_of_undisruptive hhealth]
        rfl
      · exact failure?_fourth_of_undisruptive hhealth license config status outcome
    | reasonsFailed hguard hhealth hreasons =>
      refine hcourse.accounted_of_failure _ rfl (hpasses hguard) ?_
      refine (failure?_fourth_of_disruptive hhealth license config status _).trans ?_
      simp only [healthFailure?, hreasons]
    | unhealthy hguard hhealth hreasons =>
      refine hcourse.accounted_of_failure _ rfl (hpasses hguard) ?_
      refine (failure?_fourth_of_disruptive hhealth license config status _).trans ?_
      simp only [healthFailure?, hreasons]
    | @healthy reasons rest _ hguard hhealth hreasons hexecution =>
      have hhealthy : Command.Passes (.perform action) [license, config, status, reasons] := by
        refine (hpasses hguard).concat ?_
        refine (failure?_fourth_of_disruptive hhealth license config status reasons).trans ?_
        simp only [healthFailure?, hreasons]
      rw [List.append_cons] at hcourse ⊢
      refine hexecution.accounted hcourse ?_ hhealthy fun outcome => rfl
      rw [Action.inquiries_of_disruptive hhealth]
      rfl

/-! ## Whole commands -/

/-- Whatever world a command runs in, its calls begin its script, it stops directly after the first
answer that fails it, with the failure of that step, and otherwise it comes to one of its ends. -/
theorem accounted_dispatch (world : World σ) (command : Command) (options : CallOptions) (s : σ) :
    Accounted command options ((dispatch command options).run.run world s).exchanges
      ((dispatch command options).run.run world s).result := by
  have hcourse := course_dispatch (Procedure.course_run world (dispatch command options).run s)
  generalize (dispatch command options).run.run world s = run at hcourse ⊢
  obtain ⟨result, exchanges, s'⟩ := run
  cases hcourse with
  | stopped hsnapshot => exact accounted_of_stopped hsnapshot
  | reported hsnapshot hreport => exact accounted_of_reported hsnapshot hreport
  | performed hsnapshot hperform => exact accounted_of_performed hsnapshot hperform

end FailoverControl.Control
