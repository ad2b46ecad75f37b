import FailoverControl.Proofs.Control.Calls

/-!
# When this node reboots

A session is a list of commands that are run one after the other, each in the surroundings that the
ones before it have left. Only a giveback ever attempts a reboot, and it does so exactly when the
daemon has demoted this node: after the operator has agreed and the daemon has answered, once, and
as the last thing it does. A failed attempt is what the giveback ends in.

The main statement: every turn of every session is safe in this sense, and over a whole session the
attempts are as many as the demotions (`turns_rebootSafe`).
-/

set_option autoImplicit false

namespace FailoverControl.Control

open FailoverControl.Daemon
open FailoverControl.Host (IoError)
open FailoverControl.Json (Value)

variable {σ : Type}

/-! ## Sessions -/

/-- A command that has been run, and what came of it. -/
structure Turn (σ : Type) where
  command : Command
  run : Run σ (Except Failure Outcome)

/-- The turns of commands that are run one after the other. -/
def turns (world : World σ) : List (Command × CallOptions) → σ → List (Turn σ)
  | [], _ => []
  | (command, options) :: rest, s =>
    let run := (dispatch command options).run.run world s
    ⟨command, run⟩ :: turns world rest run.state

/-- Whether a request is an attempt to reboot this node. -/
def Request.isReboot : Request → Bool
  | .reboot => true
  | _ => false

namespace Exchange

/-- An attempt to reboot this node, however it ends. -/
def isReboot (exchange : Exchange) : Bool :=
  exchange.request.isReboot

/-- A demotion of this node that the daemon has carried out. -/
def isDemotion : Exchange → Bool
  | ⟨.call call, .ok _⟩ => call.method == Method.becomePassive
  | _ => false

/-- A question that the operator has agreed to. -/
def isAgreement : Exchange → Bool
  | ⟨.confirm _, true⟩ => true
  | _ => false

end Exchange

/-- A turn without an unjustified, misplaced, repeated or hidden attempt to reboot. -/
structure RebootSafe (command : Command) (exchanges : List Exchange)
    (result : Except Failure Outcome) : Prop where
  /-- A reboot is attempted exactly by a giveback that has demoted this node. -/
  attempted_iff : (∃ e ∈ exchanges, e.isReboot = true) ↔
    command = .perform .giveback ∧ ∃ e ∈ exchanges, e.isDemotion = true
  atMostOne : exchanges.countP Exchange.isReboot ≤ 1
  balanced : exchanges.countP Exchange.isReboot = exchanges.countP Exchange.isDemotion
  /-- Before an attempt the operator has agreed and this node has been demoted, in this order, and
  after it nothing happens any more. -/
  ordered : ∀ before attempt after, exchanges = before ++ attempt :: after →
    attempt.isReboot = true →
      after = [] ∧ ∃ first agreement second demotion third,
        before = first ++ agreement :: (second ++ demotion :: third) ∧
          agreement.isAgreement = true ∧ demotion.isDemotion = true
  /-- A failed attempt is what the turn ends in. -/
  failed : ∀ e ∈ exchanges, ∀ cause, e = ⟨.reboot, .error cause⟩ → result = .error (.reboot cause)
  /-- Nothing is attempted in a turn that is rejected, cancelled or fails at the demotion. -/
  spared : (∃ rejection, result = .error (.rejected rejection)) ∨
      (∃ action, result = .error (.cancelled action)) ∨
      (∃ cause, result = .error (.mutation cause)) →
    ∀ e ∈ exchanges, e.isReboot = false

/-! ## Stages without a reboot -/

/-- Exchanges without a demotion and without an attempt to reboot. -/
def Calm (exchanges : List Exchange) : Prop :=
  ∀ e ∈ exchanges, e.isReboot = false ∧ e.isDemotion = false

/-- Without exchanges there is neither a demotion nor a reboot. -/
theorem calm_nil : Calm [] := fun _ h => absurd h List.not_mem_nil

/-- Exchanges are calm when the first one and all later ones are. -/
theorem calm_cons_iff {e : Exchange} {rest : List Exchange} :
    Calm (e :: rest) ↔ (e.isReboot = false ∧ e.isDemotion = false) ∧ Calm rest :=
  List.forall_mem_cons

/-- Exchanges are calm when both of their parts are. -/
theorem calm_append_iff {first second : List Exchange} :
    Calm (first ++ second) ↔ Calm first ∧ Calm second :=
  List.forall_mem_append

/-- Calm exchanges hold no reboot and no demotion. -/
theorem Calm.countP_eq_zero {exchanges : List Exchange} (h : Calm exchanges) :
    exchanges.countP Exchange.isReboot = 0 ∧ exchanges.countP Exchange.isDemotion = 0 :=
  ⟨List.countP_eq_zero.mpr fun e he => by simp [(h e he).1],
    List.countP_eq_zero.mpr fun e he => by simp [(h e he).2]⟩

/-- A call of another method demotes nothing here. -/
theorem isDemotion_call {call : Call} {outcome : CallOutcome}
    (h : (call.method == Method.becomePassive) = false) :
    Exchange.isDemotion ⟨.call call, outcome⟩ = false := by
  cases outcome with
  | ok value => exact h
  | error cause => rfl

/-- Taking the snapshot is calm. -/
theorem SnapshotCourse.calm {command : Command} {exchanges : List Exchange}
    {result : Except Failure Snapshot} (h : SnapshotCourse command exchanges result) :
    Calm exchanges := by
  have hinquiries : ∀ call ∈ snapshotInquiries, (call.method == Method.becomePassive) = false := by
    decide
  exact h.forall_mem (fun call hcall _ => ⟨rfl, isDemotion_call (hinquiries call hcall)⟩)
    fun _ => ⟨rfl, rfl⟩

/-- A report is calm. -/
theorem ReportCourse.calm {role : Cluster.Role} {options : CallOptions} {exchanges : List Exchange}
    {result : Except Failure Report} (h : ReportCourse role options exchanges result) :
    Calm exchanges := by
  cases h with
  | gathered serial facts reasons =>
    refine calm_cons_iff.mpr ⟨⟨rfl, rfl⟩, calm_cons_iff.mpr ⟨⟨rfl, isDemotion_call ?_⟩, ?_⟩⟩
    · show (Method.callRemote == Method.becomePassive) = false
      decide
    · exact calm_cons_iff.mpr ⟨⟨rfl, isDemotion_call (by decide)⟩, calm_nil⟩

/-- The end of a giveback that has demoted this node. -/
def handedOver (value : Value) (outcome : Except IoError Unit) : List Exchange :=
  consulted (Action.warning .giveback) true ++
    [noted givebackEntry, ⟨.call (Action.mutation .giveback), .ok value⟩, ⟨.reboot, outcome⟩]

/-- An action either is calm or is a giveback that has demoted this node and attempts a reboot at
its end. -/
theorem ExecutionCourse.calm_or_handedOver {action : Action} {exchanges : List Exchange}
    {result : Except Failure Executed} (h : ExecutionCourse action exchanges result) :
    Calm exchanges ∨ ∃ value outcome, action = .giveback ∧ exchanges = handedOver value outcome ∧
      result = rebooted outcome := by
  have hquiet (outcome : CallOutcome) (action : Action)
      (hmethod : (action.mutation.method == Method.becomePassive) = false) :
      Calm [⟨.call action.mutation, outcome⟩] :=
    calm_cons_iff.mpr ⟨⟨rfl, isDemotion_call hmethod⟩, calm_nil⟩
  have hconsulted (warning : String) (agreed : Bool) : Calm (consulted warning agreed) :=
    calm_cons_iff.mpr ⟨⟨rfl, rfl⟩, calm_cons_iff.mpr ⟨⟨rfl, by cases agreed <;> rfl⟩, calm_nil⟩⟩
  cases h with
  | enable outcome => exact .inl (hquiet outcome .enable (by decide))
  | disable outcome => exact .inl (hquiet outcome .disable (by decide))
  | takeoverCancelled => exact .inl (hconsulted _ _)
  | takeover outcome =>
    refine .inl (calm_append_iff.mpr ⟨hconsulted _ _, calm_cons_iff.mpr ⟨⟨rfl, rfl⟩, ?_⟩⟩)
    exact hquiet outcome .takeover (by decide)
  | givebackCancelled => exact .inl (hconsulted _ _)
  | givebackRefused cause =>
    refine .inl (calm_append_iff.mpr ⟨hconsulted _ _, calm_cons_iff.mpr ⟨⟨rfl, rfl⟩, ?_⟩⟩)
    exact calm_cons_iff.mpr ⟨⟨rfl, rfl⟩, calm_nil⟩
  | giveback value outcome => exact .inr ⟨value, outcome, rfl, rfl, rfl⟩

/-- An action behind the snapshot is calm or hands over at its end. -/
theorem PerformanceCourse.calm_or_handedOver {snapshot : Snapshot} {action : Action}
    {exchanges : List Exchange} {result : Except Failure Executed}
    (h : PerformanceCourse snapshot action exchanges result) :
    Calm exchanges ∨ ∃ before value outcome, action = .giveback ∧ Calm before ∧
      exchanges = before ++ handedOver value outcome ∧ result = rebooted outcome := by
  have hasked (reasons : CallOutcome) : Calm [asked Method.disabledReasons reasons] :=
    calm_cons_iff.mpr ⟨⟨rfl, isDemotion_call (by decide)⟩, calm_nil⟩
  cases h with
  | rejected _ => exact .inl calm_nil
  | reasonsFailed _ _ _ => exact .inl (hasked _)
  | unhealthy _ _ _ => exact .inl (hasked _)
  | undisruptive _ _ hexecution =>
    rcases hexecution.calm_or_handedOver with hcalm | ⟨value, outcome, rfl, rfl, rfl⟩
    · exact .inl hcalm
    · exact .inr ⟨[], value, outcome, rfl, calm_nil, rfl, rfl⟩
  | @healthy reasons _ _ _ _ _ hexecution =>
    rcases hexecution.calm_or_handedOver with hcalm | ⟨value, outcome, rfl, rfl, rfl⟩
    · exact .inl (calm_append_iff.mpr ⟨hasked reasons, hcalm⟩)
    · exact .inr ⟨[asked Method.disabledReasons reasons], value, outcome, rfl, hasked _, rfl, rfl⟩

/-- A command either is calm or is a giveback that has demoted this node and attempts a reboot at
its end. -/
theorem CommandCourse.calm_or_handedOver {options : CallOptions} {command : Command}
    {exchanges : List Exchange} {result : Except Failure Outcome}
    (h : CommandCourse options command exchanges result) :
    Calm exchanges ∨ ∃ before value outcome, command = .perform .giveback ∧ Calm before ∧
      exchanges = before ++ handedOver value outcome ∧
      result = (rebooted outcome).map .executed := by
  cases h with
  | stopped hsnapshot => exact .inl hsnapshot.calm
  | reported hsnapshot hreport => exact .inl (calm_append_iff.mpr ⟨hsnapshot.calm, hreport.calm⟩)
  | @performed action first after snapshot inner hsnapshot hperform =>
    rcases hperform.calm_or_handedOver with hcalm | ⟨before, value, outcome, rfl, hbefore, rfl, rfl⟩
    · exact .inl (calm_append_iff.mpr ⟨hsnapshot.calm, hcalm⟩)
    · refine .inr ⟨first ++ before, value, outcome, rfl, ?_, ?_, rfl⟩
      · exact calm_append_iff.mpr ⟨hsnapshot.calm, hbefore⟩
      · exact (List.append_assoc _ _ _).symm

/-! ## One turn -/

/-- Of exchanges of which only the last one is an attempt to reboot, an attempt is the last one. -/
theorem eq_of_append_attempt {first before after : List Exchange} {last attempt : Exchange}
    (hfirst : ∀ e ∈ first, e.isReboot = false) (hattempt : attempt.isReboot = true)
    (h : first ++ [last] = before ++ attempt :: after) : after = [] ∧ before = first := by
  rcases List.eq_nil_or_concat after with rfl | ⟨others, final, rfl⟩
  · exact ⟨rfl, (List.append_inj' h rfl).1.symm⟩
  · -- An attempt that is not the last exchange is among the first ones.
    have hsplit : first ++ [last] = (before ++ attempt :: others) ++ [final] := by
      rw [h]
      simp
    have hmem : attempt ∈ first := by
      rw [(List.append_inj' hsplit rfl).1]
      simp
    rw [hfirst attempt hmem] at hattempt
    cases hattempt

/-- A turn without a reboot and a demotion is safe. -/
theorem rebootSafe_of_calm {command : Command} {exchanges : List Exchange}
    {result : Except Failure Outcome} (h : Calm exchanges) :
    RebootSafe command exchanges result := by
  obtain ⟨hreboot, hdemotion⟩ := h.countP_eq_zero
  constructor
  case attempted_iff =>
    constructor
    · rintro ⟨e, he, hattempt⟩
      rw [(h e he).1] at hattempt
      cases hattempt
    · rintro ⟨-, e, he, hdemoted⟩
      rw [(h e he).2] at hdemoted
      cases hdemoted
  case atMostOne => exact Nat.le_trans (Nat.le_of_eq hreboot) (Nat.zero_le 1)
  case balanced => rw [hreboot, hdemotion]
  case ordered =>
    rintro before attempt after rfl hattempt
    rw [(h attempt (by simp)).1] at hattempt
    cases hattempt
  case failed =>
    rintro e he cause rfl
    exact absurd (h _ he).1 (by simp [Exchange.isReboot, Request.isReboot])
  case spared => exact fun _ e he => (h e he).1

/-- A turn that hands over behind calm exchanges is safe. -/
theorem rebootSafe_of_handedOver {before : List Exchange} {value : Value}
    {outcome : Except IoError Unit} (h : Calm before) :
    RebootSafe (.perform .giveback) (before ++ handedOver value outcome)
      ((rebooted outcome).map .executed) := by
  obtain ⟨hreboot, hdemotion⟩ := h.countP_eq_zero
  have hattempts : (before ++ handedOver value outcome).countP Exchange.isReboot = 1 := by
    rw [List.countP_append, hreboot]
    rfl
  have hdemotions : (before ++ handedOver value outcome).countP Exchange.isDemotion = 1 := by
    rw [List.countP_append, hdemotion]
    rfl
  constructor
  case attempted_iff =>
    refine iff_of_true (List.countP_pos_iff.mp ?_) ⟨rfl, List.countP_pos_iff.mp ?_⟩
    · rw [hattempts]; exact Nat.one_pos
    · rw [hdemotions]; exact Nat.one_pos
  case atMostOne => exact Nat.le_of_eq hattempts
  case balanced => rw [hattempts, hdemotions]
  case ordered =>
    intro first attempt after hsplit hattempt
    have hlast : (before ++ consulted (Action.warning .giveback) true ++
        [noted givebackEntry, ⟨.call (Action.mutation .giveback), .ok value⟩]) ++
          [⟨.reboot, outcome⟩] = first ++ attempt :: after := by
      rw [← hsplit]
      simp [handedOver]
    have hfirst : ∀ e ∈ before ++ consulted (Action.warning .giveback) true ++
        [noted givebackEntry, ⟨.call (Action.mutation .giveback), .ok value⟩],
        e.isReboot = false := by
      intro e he
      simp only [consulted, List.mem_append, List.mem_cons, List.not_mem_nil, or_false] at he
      rcases he with (he | rfl | rfl) | rfl | rfl
      · exact (h e he).1
      all_goals rfl
    -- The attempt comes last, so what comes before it is known in full.
    obtain ⟨rfl, rfl⟩ := eq_of_append_attempt hfirst hattempt hlast
    refine ⟨rfl, before ++ [⟨.warn (Action.warning .giveback), ()⟩],
      ⟨.confirm confirmationPrompt, true⟩, [noted givebackEntry],
      ⟨.call (Action.mutation .giveback), .ok value⟩, [], ?_, rfl, rfl⟩
    simp [consulted]
  case failed =>
    intro e he cause hcause
    rw [handedOver, consulted] at he
    simp only [List.mem_append, List.mem_cons, List.not_mem_nil, or_false] at he
    rcases he with he | (rfl | rfl) | rfl | rfl | rfl
    · subst hcause
      exact absurd (h _ he).1 (by simp [Exchange.isReboot, Request.isReboot])
    all_goals cases hcause
    rfl
  case spared =>
    intro hresult
    cases outcome <;> simp [rebooted, Except.map] at hresult

/-- One turn is safe, whatever it is told. -/
theorem rebootSafe_dispatch (world : World σ) (command : Command) (options : CallOptions) (s : σ) :
    RebootSafe command ((dispatch command options).run.run world s).exchanges
      ((dispatch command options).run.run world s).result := by
  have hcourse := course_dispatch (Procedure.course_run world (dispatch command options).run s)
  rcases hcourse.calm_or_handedOver with
    hcalm | ⟨before, value, outcome, rfl, hbefore, hex, hresult⟩
  · exact rebootSafe_of_calm hcalm
  · rw [hex, hresult]
    exact rebootSafe_of_handedOver hbefore

/-! ## Whole sessions -/

/-- Every turn of a session is safe, and over the session reboots are attempted as often as the
daemon has demoted this node. -/
theorem turns_rebootSafe (world : World σ) (commands : List (Command × CallOptions)) (s : σ) :
    (∀ turn ∈ turns world commands s,
        RebootSafe turn.command turn.run.exchanges turn.run.result) ∧
      ((turns world commands s).flatMap (·.run.exchanges)).countP Exchange.isReboot =
        ((turns world commands s).flatMap (·.run.exchanges)).countP Exchange.isDemotion := by
  induction commands generalizing s with
  | nil =>
    refine ⟨fun turn hmem => ?_, rfl⟩
    simp only [turns, List.not_mem_nil] at hmem
  | cons head rest ih =>
    obtain ⟨command, options⟩ := head
    have hturn := rebootSafe_dispatch world command options s
    obtain ⟨hsafe, hbalanced⟩ := ih ((dispatch command options).run.run world s).state
    constructor
    · intro turn hmem
      simp only [turns, List.mem_cons] at hmem
      rcases hmem with rfl | hmem
      · exact hturn
      · exact hsafe turn hmem
    · simp only [turns, List.flatMap_cons, List.countP_append]
      rw [hturn.balanced, hbalanced]

end FailoverControl.Control
