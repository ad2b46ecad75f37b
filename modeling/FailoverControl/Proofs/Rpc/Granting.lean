import FailoverControl.Proofs.Daemon.Reporting
import FailoverControl.Proofs.Json.Written
import FailoverControl.Proofs.Rpc.Unrelated

/-!
# Requests that are granted

A message grants a request when the call for the request succeeds with it. That takes a record with
the id of the request, without a fault and with at most one result; it may be written as an object
or by position, and a fault that is null is none. A result is not needed: a record that has neither
a result nor a fault grants its request with null, just as a null result does.

The main statements: which texts grant a request (`verdict_eq_ok_iff`), and when a call without a
deadline succeeds (`call_eq_ok_iff`). Both are equivalences, so nothing else that a server does is
taken for success.
-/

set_option autoImplicit false

namespace FailoverControl.Rpc

open FailoverControl.Json

variable {id : UInt64} {value : Value}

/-! ## Messages -/

/-- The members of a message that grants request `id` with a value. -/
structure GrantMembers (id : UInt64) (value : Value) (members : List (String × Value)) : Prop where
  id : entries "id" members = [.ofUInt64 id]
  faultless : entries "error" members = [] ∨ entries "error" members = [.null]
  /-- A message without a result grants null. -/
  result : entries "result" members = [] ∧ value = .null ∨
    ∃ tree, entries "result" members = [tree] ∧ value = tree.settled

/-- A message grants request `id` with a value. -/
def Grants (id : UInt64) (value : Value) (text : String) : Prop :=
  ∃ members, Writes ["id", "result", "error"] text members ∧ GrantMembers id value members

/-- A result is a member of that name or, where there is none, null. -/
theorem optionalMember_result_iff {vs : List Value} :
    (∃ result, optionalMember (fun v => some v.settled) vs = some result ∧
        result.getD .null = value) ↔
      vs = [] ∧ value = .null ∨ ∃ tree, vs = [tree] ∧ value = tree.settled := by
  constructor
  · rintro ⟨result, hread, rfl⟩
    cases result with
    | none =>
      rcases optionalMember_eq_some_none_iff.mp hread with rfl | rfl
      · exact .inl ⟨rfl, rfl⟩
      · exact .inr ⟨.null, rfl, rfl⟩
    | some v =>
      obtain ⟨tree, rfl, -, hsettled⟩ := optionalMember_eq_some_some_iff.mp hread
      exact .inr ⟨tree, rfl, (Option.some.inj hsettled).symm⟩
  · rintro (⟨rfl, rfl⟩ | ⟨tree, rfl, rfl⟩)
    · exact ⟨none, rfl, rfl⟩
    · by_cases hnull : tree = .null
      · subst hnull
        exact ⟨none, rfl, rfl⟩
      · exact ⟨some tree.settled, optionalMember_eq_some_some_iff.mpr ⟨tree, rfl, hnull, rfl⟩, rfl⟩

/-- Members grant a request when the response that they write succeeds it. -/
theorem grantMembers_iff {members : List (String × Value)} :
    GrantMembers id value members ↔
      ∃ response, Response.ofMembers members = some response ∧ response.id = some id ∧
        response.outcome = .ok value := by
  constructor
  · rintro ⟨hid, herror, hresult⟩
    obtain ⟨result, hread, hvalue⟩ := optionalMember_result_iff.mpr hresult
    have hidRead : optionalMember Value.uint64? (entries "id" members) = some (some id) :=
      optionalMember_eq_some_some_iff.mpr ⟨_, hid, nofun, uint64?_ofUInt64 id⟩
    have hfaultless : optionalMember Fault.ofTree (entries "error" members) = some none :=
      optionalMember_eq_some_none_iff.mpr herror
    refine ⟨⟨some id, result, none⟩, ?_, rfl, congrArg Except.ok hvalue⟩
    simp only [Response.ofMembers, hidRead, hread, hfaultless, bind, Option.bind, pure]
  · rintro ⟨response, hmembers, hid, houtcome⟩
    obtain ⟨found, hfound, hmembers⟩ := Option.bind_eq_some_iff.mp hmembers
    obtain ⟨result, hresult, hmembers⟩ := Option.bind_eq_some_iff.mp hmembers
    obtain ⟨error, herror, hmembers⟩ := Option.bind_eq_some_iff.mp hmembers
    obtain rfl := Option.some.inj hmembers
    obtain rfl : found = some id := hid
    obtain ⟨tree, hentries, -, hword⟩ := optionalMember_eq_some_some_iff.mp hfound
    obtain rfl := eq_of_uint64? hword
    cases error with
    | some fault => simp [Response.outcome] at houtcome
    | none =>
      refine ⟨hentries, optionalMember_eq_some_none_iff.mp herror, ?_⟩
      exact optionalMember_result_iff.mp ⟨result, hresult, Except.ok.inj houtcome⟩

/-! ## Texts -/

/-- Filling one field of a response leaves the others as they are. -/
theorem Response.spares : Response.shape.fields.Pairwise Field.Spares := by
  simp only [Response.shape, List.pairwise_cons, List.mem_cons, List.not_mem_nil, or_false,
    forall_eq_or_imp, forall_eq, List.Pairwise.nil, and_true, false_imp_iff, implies_true]
  and_intros <;> exact spares_ofSlot fun _ _ => rfl

/-- As long as a response has no fault, its fields have been read from trees. A fault may have been
read from a text that has none, since members that it does not know are passed over. -/
theorem Response.treesWhile_faultless :
    ∀ f ∈ Response.shape.fields, f.TreesWhile fun draft => draft.error.join = none := by
  simp only [Response.shape, List.mem_cons, List.not_mem_nil, or_false, forall_eq_or_imp, forall_eq]
  refine ⟨treesWhile_ofSlot readsTrees_readUInt64.optional fun _ _ h => h,
    treesWhile_ofSlot readsTrees_readValue.optional fun _ _ h => h, ?_⟩
  intro depth cs rest complete draft hgiven hread hfaultless
  obtain ⟨fault, rfl, hfault⟩ := exists_fill hread
  obtain rfl : fault = none := hfaultless
  have hempty : draft.error = none := by simpa [Field.ofSlot] using hgiven
  have hsound : draft.error.join = none := by rw [hempty]; rfl
  exact ⟨hsound, .null, readTree_of_readOptional_none hfault⟩

/-- A response without a fault has been written by members. -/
theorem exists_writes_of_parse {text : String} {response : Response}
    (h : Response.parse text = .ok response) (herror : response.error = none) :
    ∃ members, Writes ["id", "result", "error"] text members := by
  refine exists_writes Response.treesWhile_faultless Response.spares ?_ h ?_
  · simp [Response.shape, Field.ofSlot]
  · intro draft hfinish
    obtain rfl := Except.ok.inj hfinish
    exact herror

/-- A call for request `id` succeeds with the texts that grant the request, and with no other. -/
theorem verdictOnText_eq_ok_iff {text : String} :
    verdictOnText id text = .decided (.ok value) ↔ Grants id value text := by
  have hviews {members : List (String × Value)} (h : Writes ["id", "result", "error"] text members)
      {response : Response} :
      Response.parse text = .ok response ↔ Response.ofMembers members = some response := by
    have hmembers : Response.views.ofMembers members = Response.ofMembers members :=
      congrFun Response.view_eq (.object members)
    rw [← hmembers]
    exact Response.views.parse_of_writes h
  constructor
  · intro h
    unfold verdictOnText at h
    cases hparse : Response.parse text with
    | error e => simp [hparse] at h
    | ok response =>
      simp only [hparse] at h
      split at h
      next hid =>
        have houtcome : response.outcome = .ok value := by
          cases hresult : response.outcome with
          | error fault => simp [hresult, Except.mapError] at h
          | ok v => simpa [hresult, Except.mapError] using h
        have hfaultless : response.error = none := by
          cases herror : response.error with
          | some fault => simp [Response.outcome, herror] at houtcome
          | none => rfl
        obtain ⟨members, hwrites⟩ := exists_writes_of_parse hparse hfaultless
        have hmembers := (hviews hwrites).mp hparse
        exact ⟨members, hwrites, grantMembers_iff.mpr ⟨response, hmembers, hid, houtcome⟩⟩
      · simp at h
  · rintro ⟨members, hwrites, hgrant⟩
    obtain ⟨response, hmembers, hid, houtcome⟩ := grantMembers_iff.mp hgrant
    have hparse := (hviews hwrites).mpr hmembers
    simp only [verdictOnText, hparse, if_pos hid, houtcome, Except.mapError]

/-- An event decides a call with a value exactly when it is a frame that grants it. -/
theorem verdict_eq_ok_iff {event : Incoming} :
    event.verdict id = .decided (.ok value) ↔
      ∃ text, event = .text text ∧ Grants id value text := by
  cases event with
  | text message =>
    simp only [Incoming.verdict, verdictOnText_eq_ok_iff, Incoming.text.injEq]
    constructor
    · exact fun h => ⟨message, rfl, h⟩
    · rintro ⟨_, rfl, h⟩
      exact h
  | _ => simp [Incoming.verdict]

/-! ## Calls -/

/-- Nothing that an arrival says decides the call for request `id`. -/
def Incoming.Passes (id : UInt64) (event : Incoming) : Prop :=
  ∀ result, event.verdict id ≠ .decided result

/-- Of some arrivals, the first one that decides the call for request `id` is a message that grants
the request. -/
def GrantedAmong (id : UInt64) (value : Value) (arrivals : List Incoming) : Prop :=
  ∃ passed text later, arrivals = passed ++ .text text :: later ∧
    (∀ event ∈ passed, event.Passes id) ∧ Grants id value text

/-- A grant does not depend on what passes before it. -/
theorem grantedAmong_cons_of_passes {event : Incoming} (h : event.Passes id)
    {rest : List Incoming} :
    GrantedAmong id value (event :: rest) ↔ GrantedAmong id value rest := by
  constructor
  · rintro ⟨passed, text, later, hsplit, hpassed, hgrants⟩
    cases passed with
    | nil =>
      obtain rfl := (List.cons.inj hsplit).1
      exact absurd (verdictOnText_eq_ok_iff.mpr hgrants) (h (.ok value))
    | cons first passed =>
      obtain ⟨rfl, rfl⟩ := List.cons.inj hsplit
      exact ⟨passed, text, later, rfl, fun event hmem => hpassed event (.tail _ hmem), hgrants⟩
  · rintro ⟨passed, text, later, rfl, hpassed, hgrants⟩
    exact ⟨event :: passed, text, later, rfl, List.forall_mem_cons.mpr ⟨h, hpassed⟩, hgrants⟩

/-- The first event that decides a call is its grant or its refusal. -/
theorem grantedAmong_cons_of_decided {event : Incoming} {result : Except Failure Value}
    (h : event.verdict id = .decided result) {rest : List Incoming} :
    GrantedAmong id value (event :: rest) ↔ result = .ok value := by
  constructor
  · rintro ⟨passed, text, later, hsplit, hpassed, hgrants⟩
    cases passed with
    | nil =>
      obtain rfl := (List.cons.inj hsplit).1
      have hgranted := verdict_eq_ok_iff.mpr ⟨text, rfl, hgrants⟩
      rw [h] at hgranted
      exact Verdict.decided.inj hgranted
    | cons first passed =>
      obtain ⟨rfl, -⟩ := List.cons.inj hsplit
      exact absurd h (hpassed event List.mem_cons_self result)
  · rintro rfl
    obtain ⟨text, rfl, hgrants⟩ := verdict_eq_ok_iff.mp h
    exact ⟨[], text, rest, rfl, fun _ hmem => absurd hmem List.not_mem_nil, hgrants⟩

/-- Reading without a deadline succeeds when the first arrival that decides anything grants the
request. -/
theorem readAnswer_eq_ok_iff (link : Link) (arrivals : List Incoming) :
    (readAnswer id false link arrivals).result = some (.ok value) ↔
      GrantedAmong id value arrivals := by
  induction arrivals with
  | nil => simp [readAnswer, GrantedAmong]
  | cons event rest ih =>
    simp only [readAnswer, Bool.false_and, Bool.false_eq_true, if_false]
    cases hverdict : event.verdict id with
    | decided result => simp [grantedAmong_cons_of_decided hverdict]
    | passedOver =>
      have hpasses : event.Passes id := by simp [Incoming.Passes, hverdict]
      rw [grantedAmong_cons_of_passes hpasses]
      exact ih
    | unrelated got =>
      have hpasses : event.Passes id := by simp [Incoming.Passes, hverdict]
      rw [grantedAmong_cons_of_passes hpasses]
      exact ih

variable {σ : Type}

/-- A call is granted: the request can be sent, and what the client then finds on its connection
grants it. -/
structure Client.Granted (client : Client σ) (method : String) (params : List Value)
    (value : Value) : Prop where
  live : client.link = .live
  answered : GrantedAmong client.nextId value
    (client.deliver (Request.text ⟨client.nextId, method, params⟩)).unread

/-- A call without a deadline succeeds when it is granted. -/
theorem call_eq_ok_iff {client : Client σ} {method : String} {params : List Value} :
    (client.call method params false).1 = some (.ok value) ↔
      client.Granted method params value := by
  rcases client.link.live_or_refusal_or_deaf with hlive | ⟨refusal, hrefused⟩ | hdeaf
  · rw [Client.call_of_live hlive]
    simp only [readAnswer_eq_ok_iff]
    exact ⟨fun h => ⟨hlive, h⟩, fun h => h.answered⟩
  · rw [Client.call_of_refusal hrefused]
    constructor
    · intro h
      cases h
    · rintro ⟨hlive, -⟩
      rw [hlive] at hrefused
      cases hrefused
  · rw [Client.call_of_deaf hdeaf]
    constructor
    · intro h
      cases h
    · rintro ⟨hlive, -⟩
      cases hlive.symm.trans hdeaf

end FailoverControl.Rpc

namespace FailoverControl.Daemon

open FailoverControl.Json (Value)

variable {σ : Type}

/-- An unbounded daemon call succeeds when it is granted. -/
theorem invoke_eq_ok_iff {call : Call} (hunbounded : call.options = none)
    {client : Rpc.Client σ} {value : Value} :
    (∃ invocation, invoke call client = .ok invocation ∧ invocation.outcome = .ok value) ↔
      client.Granted call.method call.args value := by
  rw [← Rpc.call_eq_ok_iff]
  simp only [invoke, hunbounded, invokeWith, bind, Except.bind, pure, Except.pure]
  rcases (client.call call.method call.args false).1 with _ | failure | v
  · simp
  · simp [classify]
  · simp [classify]

end FailoverControl.Daemon
