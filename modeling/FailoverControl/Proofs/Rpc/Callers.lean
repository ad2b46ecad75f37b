import FailoverControl.Proofs.Rpc.Answered
import FailoverControl.Rpc.Sharing
import Mathlib.Data.List.Induction
import Mathlib.Tactic.Common

/-!
# Steps of callers that share a client

What each step of a shared client does, said once: one rule for each way in which a step may be
taken, with the state that it leads to. Invariants are proved by cases on these rules and carried
along a run by induction on its steps.

The main statements: the rules cover every step (`move_of_next?`), a request never changes once it
has an id (`Move.request?_eq_some`), and at every moment the connection is held by the one caller
that sends or reads, and by nobody else (`Reached.holder_eq_some_iff`). A call that nobody comes
between is one of these runs (`run?_call`).
-/

set_option autoImplicit false

namespace FailoverControl.Rpc

open FailoverControl.Json (Value)

/-! ## Rules -/

/-- Whether a step begins a call. -/
def Step.isBegin : Step → Bool
  | .begin _ _ _ => true
  | _ => false

/-- Whether a caller at this stage has the connection. -/
def Stage.holds : Stage → Bool
  | .holding _ => true
  | .waiting _ => true
  | _ => false

/-- Whether a caller at this stage will not send any more. -/
def Stage.isPastSending : Stage → Bool
  | .waiting _ => true
  | .finished _ _ => true
  | .abandoned _ => true
  | _ => false

namespace Shared

/-- The client once the front of what is unread has been read. -/
def afterReading (shared : Shared) (event : Incoming) (rest : List Incoming) : Shared :=
  { shared with client := { shared.client with
      unread := rest
      link := shared.client.link.afterReading event } }

/-- The state after something has arrived. -/
def withArrival (shared : Shared) (event : Incoming) : Shared :=
  { shared with client := { shared.client with unread := shared.client.unread ++ [event] } }

/-- The state after an id has been taken. -/
def withNextId (shared : Shared) : Shared :=
  { shared with client := { shared.client with nextId := shared.client.nextId + 1 } }

/-- The ways in which a step leads from one state to the next. -/
inductive Move (s : Shared) : Step → Shared → Prop
  | begin {caller : Nat} {method : String} {params : List Value} (hidle : s.stage caller = .idle) :
      Move s (.begin caller method params)
        (s.withNextId.enter caller (.queued ⟨s.client.nextId, method, params⟩))
  | acquire {caller : Nat} {request : Request} (hqueued : s.stage caller = .queued request)
      (hfree : s.holder = none) :
      Move s (.acquire caller) { s.enter caller (.holding request) with holder := some caller }
  | refused {caller : Nat} {request : Request} {refusal : SocketError}
      (hholding : s.stage caller = .holding request) :
      Move s (.send caller) (s.finish caller request (.error (.socket refusal)))
  | sent {caller : Nat} {request : Request} {client : Client Unit}
      (hholding : s.stage caller = .holding request)
      (hsend : s.client.send request.text = .ok client) :
      Move s (.send caller) ({ s with client }.enter caller (.waiting request))
  | decided {caller : Nat} {request : Request} {event : Incoming} {rest : List Incoming}
      {result : Except Failure Value} (hwaiting : s.stage caller = .waiting request)
      (hunread : s.client.unread = event :: rest)
      (hverdict : event.verdict request.id = .decided result) :
      Move s (.read caller) ((s.afterReading event rest).finish caller request result)
  | passedOver {caller : Nat} {request : Request} {event : Incoming} {rest : List Incoming}
      (hwaiting : s.stage caller = .waiting request) (hunread : s.client.unread = event :: rest)
      (hverdict : ∀ result, event.verdict request.id ≠ .decided result) :
      Move s (.read caller) (s.afterReading event rest)
  | unheard {caller : Nat} {request : Request} (hwaiting : s.stage caller = .waiting request) :
      Move s (.unheard caller) (s.finish caller request (.error .closed))
  | abandon {caller : Nat} {request : Request}
      (hunsettled : (s.stage caller).unsettled? = some request) :
      Move s (.abandon caller) ((s.enter caller (.abandoned request)).release caller)
  | arrive {event : Incoming} : Move s (.arrive event) (s.withArrival event)

variable {s s' : Shared} {step : Step}

/-- Every step is taken by a rule. -/
theorem move_of_next? (h : s.next? step = some s') : s.Move step s' := by
  cases step with
  | begin caller method params =>
    simp only [next?] at h
    split at h
    · next hidle =>
      obtain rfl := Option.some.inj h
      exact .begin hidle
    · cases h
  | acquire caller =>
    simp only [next?] at h
    split at h
    · next hqueued hfree =>
      obtain rfl := Option.some.inj h
      exact .acquire hqueued hfree
    · cases h
  | send caller =>
    simp only [next?] at h
    split at h
    · next hholding =>
      split at h
      · next hsend =>
        obtain rfl := Option.some.inj h
        exact .refused hholding
      · next hsend =>
        obtain rfl := Option.some.inj h
        exact .sent hholding hsend
    · cases h
  | read caller =>
    simp only [next?] at h
    split at h
    · next hwaiting _ =>
      unfold readNext at h
      split at h
      · cases h
      · next hunread =>
        simp only at h
        split at h
        · next hverdict =>
          obtain rfl := Option.some.inj h
          exact .decided hwaiting hunread hverdict
        · next hverdict =>
          obtain rfl := Option.some.inj h
          exact .passedOver hwaiting hunread hverdict
    · cases h
  | unheard caller =>
    simp only [next?] at h
    split at h
    · next hwaiting _ =>
      obtain rfl := Option.some.inj h
      exact .unheard hwaiting
    · cases h
  | abandon caller =>
    simp only [next?, Option.map_eq_some_iff] at h
    obtain ⟨request, hunsettled, rfl⟩ := h
    exact .abandon hunsettled
  | arrive event =>
    obtain rfl := Option.some.inj h
    exact .arrive

/-! ## What the rules change -/

variable {caller other : Nat} {request : Request} {stage : Stage} {result : Except Failure Value}
  {event : Incoming} {rest : List Incoming}

/-- Only the caller that enters a stage changes its stage. -/
@[simp]
theorem stage_enter :
    (s.enter caller stage).stage other = if other = caller then stage else s.stage other := rfl

/-- Entering a stage does not pass the connection on. -/
@[simp]
theorem holder_enter : (s.enter caller stage).holder = s.holder := rfl

/-- Entering a stage does not touch the client. -/
@[simp]
theorem client_enter : (s.enter caller stage).client = s.client := rfl

/-- Only the caller that finishes changes its stage. -/
@[simp]
theorem stage_finish : (s.finish caller request result).stage other =
    if other = caller then .finished request result else s.stage other := rfl

/-- Releasing the connection changes no stage. -/
@[simp]
theorem stage_release : (s.release caller).stage = s.stage := by
  unfold release
  split <;> rfl

/-- Releasing the connection does not touch the client. -/
@[simp]
theorem client_release : (s.release caller).client = s.client := by
  unfold release
  split <;> rfl

/-- Only the holder can release the connection. -/
@[simp]
theorem holder_release :
    (s.release caller).holder = if s.holder = some caller then none else s.holder := by
  unfold release
  split <;> rfl

/-- Reading changes no stage. -/
@[simp]
theorem stage_afterReading : (s.afterReading event rest).stage = s.stage := rfl

/-- Taking an id changes no stage. -/
@[simp]
theorem stage_withNextId : s.withNextId.stage = s.stage := rfl

/-- Taking an id does not pass the connection on. -/
@[simp]
theorem holder_withNextId : s.withNextId.holder = s.holder := rfl

/-- What is the same of a stage and of the one that a caller leaves for it is the same of every
caller. -/
theorem enter_congr {β : Type} (f : Stage → β) (h : f stage = f (s.stage caller)) (c : Nat) :
    f (if c = caller then stage else s.stage c) = f (s.stage c) := by
  by_cases hc : c = caller
  · rw [if_pos hc, h, hc]
  · rw [if_neg hc]

/-- A caller at another stage than the one that is entered is another caller. -/
theorem stage_of_enter {caller c : Nat} {stage stage' : Stage} (hstage : stage ≠ stage')
    (hentered : (if c = caller then stage else s.stage c) = stage') :
    c ≠ caller ∧ s.stage c = stage' := by
  split at hentered
  · exact absurd hentered hstage
  · next hne => exact ⟨hne, hentered⟩

/-- A caller that has not settled has its request. -/
theorem request?_of_unsettled? (h : stage.unsettled? = some request) :
    stage.request? = some request := by
  cases stage <;> simp_all [Stage.unsettled?, Stage.request?]

/-- Only the beginning of a call gives a caller a request. -/
theorem Move.request?_eq (h : s.Move step s') (hbegin : step.isBegin = false) (c : Nat) :
    (s'.stage c).request? = (s.stage c).request? := by
  cases h with
  | begin _ => cases hbegin
  | acquire hqueued _ => exact enter_congr Stage.request? (by rw [hqueued]; rfl) c
  | refused hholding => exact enter_congr Stage.request? (by rw [hholding]; rfl) c
  | sent hholding _ => exact enter_congr Stage.request? (by rw [hholding]; rfl) c
  | decided hwaiting _ _ =>
    exact enter_congr Stage.request? (by rw [stage_afterReading, hwaiting]; rfl) c
  | passedOver _ _ _ => rfl
  | unheard hwaiting => exact enter_congr Stage.request? (by rw [hwaiting]; rfl) c
  | abandon hunsettled =>
    rw [stage_release, stage_enter]
    exact enter_congr Stage.request? (by rw [request?_of_unsettled? hunsettled]; rfl) c
  | arrive => rfl

/-- A request never changes once its caller has one. -/
theorem Move.request?_eq_some (h : s.Move step s') {c : Nat}
    (hc : (s.stage c).request? = some request) : (s'.stage c).request? = some request := by
  cases hbegin : step.isBegin with
  | false => rw [h.request?_eq hbegin, hc]
  | true =>
    cases h with
    | @begin caller method params hidle =>
      have hne : c ≠ caller := by
        rintro rfl
        rw [hidle] at hc
        cases hc
      simpa [hne] using hc
    | _ => cases hbegin

/-- Nobody sends twice: a caller that is past sending stays past it. -/
theorem Move.isPastSending (h : s.Move step s') {c : Nat}
    (hc : (s.stage c).isPastSending = true) : (s'.stage c).isPastSending = true := by
  -- Callers enter stages past sending, or they leave a stage that is not.
  have henter {caller : Nat} {stage : Stage} (hstage : stage.isPastSending = true) :
      (if c = caller then stage else s.stage c).isPastSending = true := by
    split
    · exact hstage
    · exact hc
  have hstays {caller : Nat} {stage : Stage} (hstage : (s.stage caller).isPastSending = false) :
      (if c = caller then stage else s.stage c).isPastSending = true := by
    have hne : c ≠ caller := by
      rintro rfl
      rw [hc] at hstage
      cases hstage
    rw [if_neg hne]
    exact hc
  cases h with
  | begin hidle => exact hstays (by rw [hidle]; rfl)
  | acquire hqueued _ => exact hstays (by rw [hqueued]; rfl)
  | refused hholding => exact henter rfl
  | sent hholding _ => exact henter rfl
  | decided hwaiting _ _ => exact henter rfl
  | passedOver _ _ _ => exact hc
  | unheard hwaiting => exact henter rfl
  | abandon hunsettled =>
    rw [stage_release, stage_enter]
    exact henter rfl
  | arrive => exact hc

/-! ## Runs -/

/-- The state that a fresh client comes to by a run of steps. -/
inductive Reached (uri : String) : List Step → Shared → Prop
  | start : Reached uri [] (.start uri)
  | step {steps : List Step} {s s' : Shared} {step : Step} (before : Reached uri steps s)
      (hstep : s.next? step = some s') : Reached uri (steps ++ [step]) s'

variable {uri : String} {steps : List Step}

/-- Steps of two parts are taken one part after the other. -/
theorem run?_append {more : List Step} :
    s.run? (steps ++ more) = some s' ↔ ∃ t, s.run? steps = some t ∧ t.run? more = some s' := by
  rw [run?, List.foldlM_append]
  exact Option.bind_eq_some_iff

/-- The first step is taken before the others. -/
theorem run?_cons : s.run? (step :: steps) = some s' ↔
    ∃ t, s.next? step = some t ∧ t.run? steps = some s' := by
  rw [run?, List.foldlM_cons]
  exact Option.bind_eq_some_iff

/-- A run of one step is that step. -/
theorem run?_singleton : s.run? [step] = s.next? step := by
  rw [run?, List.foldlM_cons]
  simp only [List.foldlM_nil, bind_pure]

/-- What a run comes to is reached. -/
theorem reached_of_run? (h : (start uri).run? steps = some s) : Reached uri steps s := by
  induction steps using List.reverseRecOn generalizing s with
  | nil =>
    obtain rfl := Option.some.inj h
    exact .start
  | append_singleton steps step ih =>
    obtain ⟨before, hbefore, hstep⟩ := run?_append.mp h
    rw [run?_singleton] at hstep
    exact .step (ih hbefore) hstep

/-- What is reached is what a run comes to. -/
theorem run?_of_reached (h : Reached uri steps s) : (start uri).run? steps = some s := by
  induction h with
  | start => rfl
  | step _ hstep ih => exact run?_append.mpr ⟨_, ih, run?_singleton.trans hstep⟩

/-! ## Who holds the connection -/

/-- The connection is held by the callers that send or read, and only by them. -/
theorem Move.holder_eq_some_iff (h : s.Move step s')
    (hs : ∀ c, s.holder = some c ↔ (s.stage c).holds = true) (c : Nat) :
    s'.holder = some c ↔ (s'.stage c).holds = true := by
  -- When the caller that has the connection enters a stage without it, nobody has it any more.
  have hfreed {caller : Nat} {stage : Stage} (hheld : s.holder = some caller)
      (hstage : stage.holds = false) :
      none = some c ↔ (if c = caller then stage else s.stage c).holds = true := by
    refine iff_of_false nofun ?_
    by_cases hc : c = caller
    · rw [if_pos hc, hstage]
      exact Bool.false_ne_true
    · rw [if_neg hc, ← hs c, hheld]
      exact fun heq => hc (Option.some.inj heq).symm
  cases h with
  | begin hidle =>
    rw [stage_enter, enter_congr Stage.holds (by rw [stage_withNextId, hidle]; rfl)]
    exact hs c
  | @acquire caller request hqueued hfree =>
    simp only [stage_enter]
    by_cases hc : c = caller
    · subst hc
      simp [Stage.holds]
    · rw [if_neg hc, ← hs c, hfree]
      refine iff_of_false (fun heq => hc (Option.some.inj heq).symm) nofun
  | refused hholding => exact hfreed ((hs _).mpr (by rw [hholding]; rfl)) rfl
  | sent hholding _ =>
    rw [stage_enter, enter_congr Stage.holds (by rw [hholding]; rfl)]
    exact hs c
  | decided hwaiting _ _ => exact hfreed ((hs _).mpr (by rw [hwaiting]; rfl)) rfl
  | passedOver _ _ _ => exact hs c
  | unheard hwaiting => exact hfreed ((hs _).mpr (by rw [hwaiting]; rfl)) rfl
  | @abandon caller request hunsettled =>
    rw [holder_release, stage_release, stage_enter, holder_enter]
    by_cases hheld : s.holder = some caller
    · rw [if_pos hheld]
      exact hfreed hheld rfl
    · rw [if_neg hheld]
      by_cases hc : c = caller
      · subst hc
        rw [if_pos rfl]
        exact iff_of_false hheld nofun
      · rw [if_neg hc]
        exact hs c
  | arrive => exact hs c

/-- The connection is held by the one caller that sends or reads, and by nobody else. -/
theorem Reached.holder_eq_some_iff (h : Reached uri steps s) (c : Nat) :
    s.holder = some c ↔ (s.stage c).holds = true := by
  induction h generalizing c with
  | start => exact iff_of_false nofun nofun
  | step _ hstep ih => exact (move_of_next? hstep).holder_eq_some_iff ih c

/-- Nobody gets the connection but by acquiring it. -/
theorem Move.holder_eq_some (h : s.Move step s') {c : Nat} (hc : s'.holder = some c) :
    s.holder = some c ∨ step = .acquire c := by
  cases h with
  | @acquire caller request hqueued hfree =>
    obtain rfl := Option.some.inj hc
    exact .inr rfl
  | refused _ => cases hc
  | decided _ _ _ => cases hc
  | unheard _ => cases hc
  | @abandon caller request hunsettled =>
    rw [holder_release] at hc
    split at hc
    · cases hc
    · exact .inl hc
  | _ => exact .inl hc

/-- Who holds the connection after a run, and has not held it before, has got it in between. -/
theorem acquire_of_run? (h : s.run? steps = some s') {c : Nat} (hbefore : s.holder ≠ some c)
    (hc : s'.holder = some c) : .acquire c ∈ steps := by
  induction steps generalizing s with
  | nil =>
    obtain rfl := Option.some.inj h
    exact absurd hc hbefore
  | cons step steps ih =>
    obtain ⟨t, hstep, hrest⟩ := run?_cons.mp h
    by_cases hheld : t.holder = some c
    · rcases (move_of_next? hstep).holder_eq_some hheld with hearlier | rfl
      · exact absurd hearlier hbefore
      · exact List.mem_cons_self
    · exact List.mem_cons_of_mem _ (ih hrest hheld)

/-! ## Abandoned callers -/

/-- A caller that has been abandoned stays so and does not send. -/
theorem Move.abandoned (h : s.Move step s') {c : Nat} (hc : s.stage c = .abandoned request) :
    s'.stage c = .abandoned request ∧ step ≠ .send c := by
  have hother {caller : Nat} (hstage : s.stage caller ≠ .abandoned request) : c ≠ caller := by
    rintro rfl
    exact hstage hc
  cases h with
  | @begin caller method params hidle =>
    have hne : c ≠ caller := hother (by simp [hidle])
    exact ⟨by rw [stage_enter, if_neg hne, stage_withNextId, hc], by simp⟩
  | @acquire caller request' hqueued hfree =>
    have hne : c ≠ caller := hother (by simp [hqueued])
    exact ⟨(if_neg hne).trans hc, by simp⟩
  | @refused caller request' refusal hholding =>
    have hne : c ≠ caller := hother (by simp [hholding])
    exact ⟨by rw [stage_finish, if_neg hne, hc], fun heq => hne (Step.send.inj heq).symm⟩
  | @sent caller request' client hholding hsend =>
    have hne : c ≠ caller := hother (by simp [hholding])
    exact ⟨by rw [stage_enter, if_neg hne, hc], fun heq => hne (Step.send.inj heq).symm⟩
  | @decided caller request' event rest result hwaiting hunread hverdict =>
    have hne : c ≠ caller := hother (by simp [hwaiting])
    exact ⟨by rw [stage_finish, if_neg hne, stage_afterReading, hc], by simp⟩
  | passedOver _ _ _ => exact ⟨hc, by simp⟩
  | @unheard caller request' hwaiting =>
    have hne : c ≠ caller := hother (by simp [hwaiting])
    exact ⟨by rw [stage_finish, if_neg hne, hc], by simp⟩
  | @abandon caller request' hunsettled =>
    have hne : c ≠ caller := by
      refine hother fun heq => ?_
      rw [heq] at hunsettled
      cases hunsettled
    exact ⟨by rw [stage_release, stage_enter, if_neg hne, hc], by simp⟩
  | arrive => exact ⟨hc, by simp⟩

/-- A caller that has been abandoned stays so along a run and does not send in it. -/
theorem abandoned_of_run? (h : s.run? steps = some s') {c : Nat}
    (hc : s.stage c = .abandoned request) :
    s'.stage c = .abandoned request ∧ .send c ∉ steps := by
  induction steps generalizing s with
  | nil =>
    obtain rfl := Option.some.inj h
    exact ⟨hc, List.not_mem_nil⟩
  | cons step steps ih =>
    obtain ⟨t, hstep, hrest⟩ := run?_cons.mp h
    obtain ⟨hstays, hne⟩ := (move_of_next? hstep).abandoned hc
    obtain ⟨hend, hnot⟩ := ih hrest hstays
    exact ⟨hend, List.not_mem_cons_of_ne_of_not_mem hne.symm hnot⟩

/-! ## Ids -/

/-- The ids after `n` calls have begun: they are the numbers up to `n`, each for one caller. -/
structure Numbered (n : Nat) (s : Shared) : Prop where
  nextId : s.client.nextId = .ofNat (n + 1)
  le : ∀ c request, (s.stage c).request? = some request → request.id.toNat ≤ n
  inj : ∀ c c' request request', (s.stage c).request? = some request →
    (s.stage c').request? = some request' → request.id = request'.id → c = c'

/-- Only the beginning of a call takes an id. -/
theorem Move.nextId_eq (h : s.Move step s') (hbegin : step.isBegin = false) :
    s'.client.nextId = s.client.nextId := by
  cases h with
  | begin _ => cases hbegin
  | sent hholding hsend =>
    unfold Client.send at hsend
    split at hsend
    · cases hsend
    · obtain rfl := Except.ok.inj hsend
      unfold Client.deliver
      split <;> rfl
  | abandon _ => rw [client_release, client_enter]
  | _ => rfl

/-- Every step keeps the callers numbered, as long as there are ids left. -/
theorem Move.numbered {n : Nat} (h : s.Move step s') (hs : s.Numbered n)
    (hfew : (if step.isBegin then n + 1 else n) < UInt64.size) :
    s'.Numbered (if step.isBegin then n + 1 else n) := by
  cases hbegin : step.isBegin with
  | false =>
    refine ⟨(h.nextId_eq hbegin).trans hs.nextId, ?_, ?_⟩
    · intro c request hc
      exact hs.le c request (by rwa [← h.request?_eq hbegin])
    · intro c c' request request' hc hc'
      exact hs.inj c c' request request' (by rwa [← h.request?_eq hbegin])
        (by rwa [← h.request?_eq hbegin])
  | true =>
    cases h with
    | @begin caller method params hidle =>
      have hfresh : s.client.nextId.toNat = n + 1 := by
        rw [hs.nextId]
        exact UInt64.toNat_ofNat_of_lt' hfew
      -- Every caller but the new one has the request that it had before.
      have hold : ∀ c request,
          ((s.withNextId.enter caller
            (.queued ⟨s.client.nextId, method, params⟩)).stage c).request? = some request →
          (c = caller ∧ request.id.toNat = n + 1) ∨ (s.stage c).request? = some request := by
        intro c request hc
        rw [stage_enter] at hc
        by_cases hcaller : c = caller
        · rw [if_pos hcaller] at hc
          obtain rfl := Option.some.inj hc
          exact .inl ⟨hcaller, hfresh⟩
        · rw [if_neg hcaller] at hc
          exact .inr hc
      refine ⟨?_, ?_, ?_⟩
      · change s.client.nextId + 1 = .ofNat (n + 1 + 1)
        rw [hs.nextId, UInt64.ofNat_add (n + 1) 1]
        rfl
      · intro c request hc
        rcases hold c request hc with ⟨-, hid⟩ | hc
        · exact Nat.le_of_eq hid
        · exact Nat.le_succ_of_le (hs.le c request hc)
      · intro c c' request request' hc hc' hid
        rcases hold c request hc with ⟨rfl, hnew⟩ | hold₁
        · rcases hold c' request' hc' with ⟨rfl, -⟩ | hc'
          · rfl
          · have hle := hs.le c' request' hc'
            rw [← hid, hnew] at hle
            omega
        · rcases hold c' request' hc' with ⟨rfl, hnew⟩ | hc'
          · have hle := hs.le c request hold₁
            rw [hid, hnew] at hle
            omega
          · exact hs.inj c c' request request' hold₁ hc' hid
    | _ => cases hbegin

/-- The number of calls that begin in a run. -/
def begins (steps : List Step) : Nat := steps.countP Step.isBegin

/-- Further steps begin no fewer calls. -/
theorem begins_le_append {more : List Step} : begins steps ≤ begins (steps ++ more) := by
  rw [begins, begins, List.countP_append]
  exact Nat.le_add_right _ _

/-- Fewer than `2 ^ 64` calls have ids of their own. -/
theorem Reached.numbered (h : Reached uri steps s) (hfew : begins steps < UInt64.size) :
    s.Numbered (begins steps) := by
  induction h with
  | start =>
    refine ⟨rfl, ?_, ?_⟩
    · intro c request hc
      cases hc
    · intro c c' request request' hc
      cases hc
  | @step steps s s' step before hstep ih =>
    have hcount : begins (steps ++ [step]) =
        if step.isBegin then begins steps + 1 else begins steps := by
      rw [begins, List.countP_append, List.countP_singleton, begins]
      split <;> rfl
    rw [hcount] at hfew ⊢
    have hbefore : begins steps < UInt64.size := by
      split at hfew <;> omega
    exact (move_of_next? hstep).numbered (ih hbefore) hfew

/-! ## Calls that nobody comes between -/

/-- What does not decide a call does not end the connection. -/
theorem afterReading_of_verdict_ne (link : Link) {id : UInt64}
    (h : ∀ result, event.verdict id ≠ .decided result) : link.afterReading event = link := by
  cases event with
  | close => exact absurd rfl (h (.error .closed))
  | broken cause later => exact absurd rfl (h (.error (.socket cause)))
  | ended => exact absurd rfl (h (.error .closed))
  | _ => rfl

/-- Where a caller stands once it has read all that it reads for an answer. -/
def afterAnswer (shared : Shared) (caller : Nat) (request : Request) (reading : Reading) : Shared :=
  let read := { shared with client := { shared.client with
    link := reading.link
    unread := reading.unread } }
  match reading.result with
  | some result => read.finish caller request result
  | none => read

/-- What a reading leaves on the connection is what the reading says. -/
theorem client_afterAnswer {reading : Reading} :
    (s.afterAnswer caller request reading).client =
      { s.client with link := reading.link, unread := reading.unread } := by
  unfold afterAnswer
  split <;> rfl

/-- A caller that reads finishes with the result, or goes on waiting when there is none. -/
theorem stage_afterAnswer {reading : Reading} (hwaiting : s.stage caller = .waiting request) :
    (s.afterAnswer caller request reading).stage caller = match reading.result with
      | some result => .finished request result
      | none => .waiting request := by
  unfold afterAnswer
  split
  · rw [stage_finish, if_pos rfl]
  · exact hwaiting

/-- To read what does not decide the call is to pass it over. -/
theorem next?_read_of_verdict_ne (hwaiting : s.stage caller = .waiting request)
    (hheard : s.client.link.isDeaf = false) (hunread : s.client.unread = event :: rest)
    (hverdict : ∀ result, event.verdict request.id ≠ .decided result) :
    s.next? (.read caller) = some (s.afterReading event rest) := by
  simp only [next?, hwaiting, hheard, readNext, hunread]
  rfl

/-- A caller that waits reads, one step after the other, what it reads for its answer at once. -/
theorem run?_reads {unread : List Incoming} (bounded : Bool)
    (hwaiting : s.stage caller = .waiting request) (hheard : s.client.link.isDeaf = false)
    (hunread : s.client.unread = unread) :
    ∃ n, s.run? (List.replicate n (.read caller)) = some (s.afterAnswer caller request
      (readAnswer request.id bounded s.client.link unread)) := by
  induction unread generalizing s with
  | nil =>
    refine ⟨0, ?_⟩
    simp only [readAnswer, afterAnswer, ← hunread]
    rfl
  | cons event rest ih =>
    cases hcase : event.verdict request.id with
    | decided result =>
      have hne : event ≠ .silence := by
        rintro rfl
        cases hcase
      have hsilence : (bounded && event = .silence) = false := by simp [hne]
      refine ⟨1, ?_⟩
      simp only [readAnswer, hsilence, hcase, Bool.false_eq_true, if_false, afterAnswer]
      simp only [List.replicate_one, run?_singleton, next?, hwaiting, hheard, readNext, hunread,
        hcase]
    | _ =>
      have hverdict : ∀ result, event.verdict request.id ≠ .decided result := by simp [hcase]
      have hstep := next?_read_of_verdict_ne hwaiting hheard hunread hverdict
      have hlink := afterReading_of_verdict_ne s.client.link hverdict
      by_cases hsilence : (bounded && event = .silence) = true
      · -- A call that gives up has read the silence.
        refine ⟨1, ?_⟩
        rw [List.replicate_one, run?_singleton, hstep]
        simp only [readAnswer, hsilence, if_true, afterAnswer, afterReading, hlink]
      · have hheard' : (s.client.link.afterReading event).isDeaf = false := hlink.symm ▸ hheard
        obtain ⟨n, hreads⟩ := @ih (s.afterReading event rest) hwaiting hheard' rfl
        obtain ⟨log, hread⟩ := readAnswer_cons s.client.link
          (Bool.not_eq_true _ ▸ hsilence) hverdict rest
        refine ⟨n + 1, run?_cons.mpr ⟨_, hstep, hreads.trans ?_⟩⟩
        rw [hread]
        simp only [afterAnswer, afterReading, hlink]

/-- A caller that waits comes by steps of its own to what it waits for. -/
theorem run?_await (bounded : Bool) (hwaiting : s.stage caller = .waiting request) :
    ∃ waits s', (∀ step ∈ waits, step = .read caller ∨ step = .unheard caller) ∧
      s.run? waits = some s' ∧ s'.client = (s.client.await request.id bounded).2.1 ∧
      s'.stage caller = match (s.client.await request.id bounded).1 with
        | some result => .finished request result
        | none => .waiting request := by
  cases hdeaf : s.client.link.isDeaf with
  | true =>
    have hunheard : s.next? (.unheard caller) =
        some (s.finish caller request (.error .closed)) := by
      simp only [next?, hwaiting, hdeaf]
    refine ⟨[.unheard caller], _, by simp, run?_singleton.trans hunheard, ?_, ?_⟩
    · rw [Client.await_of_deaf hdeaf]
      rfl
    · rw [Client.await_of_deaf hdeaf, stage_finish, if_pos rfl]
  | false =>
    obtain ⟨n, hreads⟩ := run?_reads bounded hwaiting hdeaf rfl
    refine ⟨List.replicate n (.read caller), _,
      fun step hmem => .inl (List.eq_of_mem_replicate hmem), hreads, ?_, ?_⟩
    · rw [Client.await_of_heard hdeaf, client_afterAnswer]
    · rw [Client.await_of_heard hdeaf, stage_afterAnswer hwaiting]

/-- A call that nobody comes between is a run of its caller: it takes its id, gets the connection,
sends and waits. -/
theorem run?_call (hidle : s.stage caller = .idle) (hfree : s.holder = none) (method : String)
    (params : List Value) (bounded : Bool) :
    ∃ waits s', (∀ step ∈ waits, step = .read caller ∨ step = .unheard caller) ∧
      s.run? (.begin caller method params :: .acquire caller :: .send caller :: waits) = some s' ∧
      s'.client = (s.client.call method params bounded).2.1 ∧
      s'.stage caller = match (s.client.call method params bounded).1 with
        | some result => .finished ⟨s.client.nextId, method, params⟩ result
        | none => .waiting ⟨s.client.nextId, method, params⟩ := by
  let request : Request := ⟨s.client.nextId, method, params⟩
  let queued := s.withNextId.enter caller (.queued request)
  let holding := { queued.enter caller (.holding request) with holder := some caller }
  have hbegin : s.next? (.begin caller method params) = some queued := by
    simp only [next?, hidle]
    rfl
  have hacquire : queued.next? (.acquire caller) = some holding := by
    simp only [next?, queued, stage_enter, if_pos, holder_enter, holder_withNextId, hfree]
    rfl
  have hholding : holding.stage caller = .holding request := by
    simp [holding]
  cases hsend : s.client.takeId.2.send request.text with
  | error refusal =>
    have hrefused : holding.next? (.send caller) =
        some (holding.finish caller request (.error (.socket refusal))) := by
      simp only [next?, hholding]
      rw [show holding.client.send request.text = .error refusal from hsend]
    have hcall := Client.call_of_send_error bounded hsend
    refine ⟨[], _, nofun, run?_cons.mpr ⟨_, hbegin, run?_cons.mpr ⟨_, hacquire, run?_cons.mpr
      ⟨_, hrefused, rfl⟩⟩⟩, ?_, ?_⟩
    · rw [hcall]
      rfl
    · rw [hcall, stage_finish, if_pos rfl]
  | ok client =>
    let waiting := { holding with client }.enter caller (.waiting request)
    have hsent : holding.next? (.send caller) = some waiting := by
      simp only [next?, hholding]
      rw [show holding.client.send request.text = .ok client from hsend]
    have hwaiting : waiting.stage caller = .waiting request := by
      simp [waiting]
    have hcall := Client.call_of_send_ok bounded hsend
    obtain ⟨waits, s', hown, hwaits, hclient, hstage⟩ := run?_await bounded hwaiting
    refine ⟨waits, s', hown, run?_cons.mpr ⟨_, hbegin, run?_cons.mpr ⟨_, hacquire, run?_cons.mpr
      ⟨_, hsent, hwaits⟩⟩⟩, ?_, ?_⟩
    · rw [hcall]
      exact hclient
    · rw [hcall]
      exact hstage

end Shared

end FailoverControl.Rpc
