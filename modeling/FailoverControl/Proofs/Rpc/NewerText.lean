import FailoverControl.Proofs.Json.Growing
import FailoverControl.Rpc.Client
import Mathlib.Data.List.Forall2

/-!
# Daemons that say more

A newer daemon may write more into a response than is known here: into the frame, the fault in it,
the details of the fault and their trace, in any place and in any order. The response is the same
with all that, and so is what a call comes to, whatever else arrives.

The main statements: a response is read from the text of a newer daemon as from the known one
(`NewerText.parse_eq`), and a call comes to the same and leaves the connection in such a state that
the next one does so again (`NewerClient.call`).
-/

set_option autoImplicit false

namespace FailoverControl.Rpc

open FailoverControl.Json

/-! ## What a newer daemon writes -/

/-- A trace with other members, or in another order. -/
def TraceGrown : List Char → List Char → Prop :=
  RecordGrown ["class"] fun _ _ _ => False

/-- Details with other members, in another order, or with such a trace. -/
def DetailsGrown : List Char → List Char → Prop :=
  RecordGrown ["error", "errname", "reason", "trace"]
    fun key v v' => key = "trace" ∧ TraceGrown v v'

/-- A fault with other members, in another order, or with such details. -/
def FaultGrown : List Char → List Char → Prop :=
  RecordGrown ["code", "message", "data"] fun key v v' => key = "data" ∧ DetailsGrown v v'

/-- A frame with other members, in another order, or with such a fault. -/
def FrameGrown : List Char → List Char → Prop :=
  RecordGrown ["id", "result", "error"] fun key v v' => key = "error" ∧ FaultGrown v v'

/-- The text of a response and what a newer daemon writes in its place. -/
inductive NewerText : String → String → Prop
  | frame {before after before' after' v v' : List Char} (hbefore : Blanks before)
      (hafter : Blanks after) (hbefore' : Blanks before') (hafter' : Blanks after')
      (h : FrameGrown v v') :
      NewerText (String.ofList (before ++ (v ++ after))) (String.ofList (before' ++ (v' ++ after')))

/-! ## What its records are read as -/

section Records

variable {v v' : List Char}

/-- The fields of a trace may stand in any order. -/
theorem FaultTrace.orderly_shape : FaultTrace.shape.Orderly where
  regular := by
    simp only [shape, List.forall_mem_singleton]
    exact regular_ofSlot steady_readText.optional fun _ _ => rfl
  apart := List.pairwise_singleton _ _

/-- The fields of the details may stand in any order. -/
theorem FaultData.orderly_shape : FaultData.shape.Orderly where
  regular := by
    simp only [shape, List.mem_cons, List.not_mem_nil, or_false, forall_eq_or_imp, forall_eq]
    exact ⟨regular_ofSlot steady_readInt32.optional fun _ _ => rfl,
      regular_ofSlot steady_readText.optional fun _ _ => rfl,
      regular_ofSlot steady_readText.optional fun _ _ => rfl,
      regular_ofSlot FaultTrace.orderly_shape.steady_read.optional fun _ _ => rfl⟩
  apart := by
    simp only [shape, List.pairwise_cons, List.mem_cons, List.not_mem_nil, or_false,
      forall_eq_or_imp, forall_eq, List.Pairwise.nil, and_true, false_imp_iff, implies_true]
    and_intros <;> exact apart_ofSlot (fun _ _ => rfl) (fun _ _ => rfl) fun _ _ _ => rfl

/-- The fields of a fault may stand in any order. -/
theorem Fault.orderly_shape : Fault.shape.Orderly where
  regular := by
    simp only [shape, List.mem_cons, List.not_mem_nil, or_false, forall_eq_or_imp, forall_eq]
    exact ⟨regular_ofSlot steady_readInt64 fun _ _ => rfl,
      regular_ofSlot steady_readText fun _ _ => rfl,
      regular_ofSlot FaultData.orderly_shape.steady_read.optional fun _ _ => rfl⟩
  apart := by
    simp only [shape, List.pairwise_cons, List.mem_cons, List.not_mem_nil, or_false,
      forall_eq_or_imp, forall_eq, List.Pairwise.nil, and_true, false_imp_iff, implies_true]
    and_intros <;> exact apart_ofSlot (fun _ _ => rfl) (fun _ _ => rfl) fun _ _ _ => rfl

/-- The fields of a response may stand in any order. -/
theorem Response.orderly_shape : Response.shape.Orderly where
  regular := by
    simp only [shape, List.mem_cons, List.not_mem_nil, or_false, forall_eq_or_imp, forall_eq]
    exact ⟨regular_ofSlot steady_readUInt64.optional fun _ _ => rfl,
      regular_ofSlot steady_readValue.optional fun _ _ => rfl,
      regular_ofSlot Fault.orderly_shape.steady_read.optional fun _ _ => rfl⟩
  apart := by
    simp only [shape, List.pairwise_cons, List.mem_cons, List.not_mem_nil, or_false,
      forall_eq_or_imp, forall_eq, List.Pairwise.nil, and_true, false_imp_iff, implies_true]
    and_intros <;> exact apart_ofSlot (fun _ _ => rfl) (fun _ _ => rfl) fun _ _ _ => rfl

/-- A trace that has grown is a value of the grammar. -/
theorem TraceGrown.isJson (h : TraceGrown v v') : IsJson v' :=
  RecordGrown.isJson (fun _ _ _ => False.elim) h

/-- Details that have grown are a value of the grammar. -/
theorem DetailsGrown.isJson (h : DetailsGrown v v') : IsJson v' :=
  RecordGrown.isJson (fun _ _ _ h => h.2.isJson) h

/-- A fault that has grown is a value of the grammar. -/
theorem FaultGrown.isJson (h : FaultGrown v v') : IsJson v' :=
  RecordGrown.isJson (fun _ _ _ h => h.2.isJson) h

/-- A response that has grown is a value of the grammar. -/
theorem FrameGrown.isJson (h : FrameGrown v v') : IsJson v' :=
  RecordGrown.isJson (fun _ _ _ h => h.2.isJson) h

/-- A trace that has grown is read as it was before. -/
theorem TraceGrown.alone_eq (h : TraceGrown v v') (depth : Nat) :
    (readOptional (FaultTrace.shape.read depth)).alone v' =
      (readOptional (FaultTrace.shape.read depth)).alone v :=
  RecordGrown.alone_optional_eq FaultTrace.orderly_shape rfl (fun _ _ _ => False.elim)
    (fun _ _ _ => False.elim) h depth

/-- Details are read alike when their trace has grown. -/
theorem FaultData.unmoved_shape :
    FaultData.shape.Unmoved fun key v v' => key = "trace" ∧ TraceGrown v v' := by
  rintro key v v' ⟨rfl, h⟩
  simp only [shape, List.mem_cons, List.not_mem_nil, or_false, forall_eq_or_imp, forall_eq]
  refine ⟨fun hname => absurd hname (by decide), fun hname => absurd hname (by decide),
    fun hname => absurd hname (by decide), fun _ depth => ?_⟩
  rw [alone_ofSlot, alone_ofSlot, h.alone_eq]

/-- Details that have grown are read as they were before. -/
theorem DetailsGrown.alone_eq (h : DetailsGrown v v') (depth : Nat) :
    (readOptional (FaultData.shape.read depth)).alone v' =
      (readOptional (FaultData.shape.read depth)).alone v :=
  RecordGrown.alone_optional_eq FaultData.orderly_shape rfl FaultData.unmoved_shape
    (fun _ _ _ h => h.2.isJson) h depth

/-- A fault is read alike when its details have grown. -/
theorem Fault.unmoved_shape :
    Fault.shape.Unmoved fun key v v' => key = "data" ∧ DetailsGrown v v' := by
  rintro key v v' ⟨rfl, h⟩
  simp only [shape, List.mem_cons, List.not_mem_nil, or_false, forall_eq_or_imp, forall_eq]
  refine ⟨fun hname => absurd hname (by decide), fun hname => absurd hname (by decide),
    fun _ depth => ?_⟩
  rw [alone_ofSlot, alone_ofSlot, h.alone_eq]

/-- A fault that has grown is read as it was before. -/
theorem FaultGrown.alone_eq (h : FaultGrown v v') (depth : Nat) :
    (readOptional (Fault.shape.read depth)).alone v' =
      (readOptional (Fault.shape.read depth)).alone v :=
  RecordGrown.alone_optional_eq Fault.orderly_shape rfl Fault.unmoved_shape
    (fun _ _ _ h => h.2.isJson) h depth

/-- A response is read alike when its fault has grown. -/
theorem Response.unmoved_shape :
    Response.shape.Unmoved fun key v v' => key = "error" ∧ FaultGrown v v' := by
  rintro key v v' ⟨rfl, h⟩
  simp only [shape, List.mem_cons, List.not_mem_nil, or_false, forall_eq_or_imp, forall_eq]
  refine ⟨fun hname => absurd hname (by decide), fun hname => absurd hname (by decide),
    fun _ depth => ?_⟩
  rw [alone_ofSlot, alone_ofSlot, h.alone_eq]

/-- A response that has grown is read as it was before. -/
theorem FrameGrown.alone_eq (h : FrameGrown v v') (depth : Nat) :
    (Response.shape.read depth).alone v' = (Response.shape.read depth).alone v :=
  RecordGrown.alone_eq Response.orderly_shape rfl Response.unmoved_shape
    (fun _ _ _ h => h.2.isJson) h depth

/-- A response is read from a value with blanks around it as from the value alone. -/
theorem parse_blanks {before after : List Char} (hbefore : Blanks before) (hafter : Blanks after)
    (h : IsJson v) : (Response.parse (String.ofList (before ++ (v ++ after)))).toOption =
      (Response.shape.read maxDepth).alone v := by
  have hends : EndsNumeral after := by
    rw [← List.append_nil after]
    exact endsNumeral_blanks_append hafter endsNumeral_nil
  have hread := Response.orderly_shape.steady_read h maxDepth hbefore hends
  rw [Response.parse, RecordShape.parse, readAll, String.toList_ofList]
  cases hmade : (Response.shape.read maxDepth).alone v with
  | none =>
    rw [hmade] at hread
    cases hfound : Response.shape.read maxDepth (before ++ (v ++ after)) with
    | error e => rfl
    | ok found =>
      rw [hfound] at hread
      cases hread
  | some response =>
    rw [hmade, Option.map_some, toOption_eq_some_iff] at hread
    rw [hread]
    simp only [skipBlank_eq_nil hafter]
    rfl

/-- A response is read from the text of a newer daemon as from the known one. -/
theorem NewerText.parse_eq {text text' : String} (h : NewerText text text') :
    (Response.parse text').toOption = (Response.parse text).toOption := by
  cases h with
  | frame hbefore hafter hbefore' hafter' h =>
    rw [parse_blanks hbefore hafter (RecordGrown.isJson_left h),
      parse_blanks hbefore' hafter' h.isJson, h.alone_eq]

/-- A newer text of a response that is understood is understood as that response. -/
theorem NewerText.parse_eq_ok {text text' : String} {response : Response} (h : NewerText text text')
    (hparse : Response.parse text = .ok response) : Response.parse text' = .ok response := by
  rw [← toOption_eq_some_iff] at hparse ⊢
  exact h.parse_eq.trans hparse

end Records

/-! ## Connections to a newer daemon -/

/-- What arrives, and what arrives in its place from a newer daemon. -/
inductive NewerFrame : Incoming → Incoming → Prop
  | same (event : Incoming) : NewerFrame event event
  | text {text text' : String} {response : Response} (h : NewerText text text')
      (hparse : Response.parse text = .ok response) : NewerFrame (.text text) (.text text')

/-- All of what arrives, and what arrives in its place. -/
abbrev NewerFrames : List Incoming → List Incoming → Prop := List.Forall₂ NewerFrame

namespace NewerFrame

variable {event event' : Incoming}

/-- A newer frame decides what the known one decides. -/
theorem verdict_eq (h : NewerFrame event event') (id : UInt64) :
    event'.verdict id = event.verdict id := by
  cases h with
  | same => rfl
  | text h hparse => simp only [Incoming.verdict, verdictOnText, hparse, h.parse_eq_ok hparse]

/-- A newer frame ends the connection where the known one does. -/
theorem isLast_eq (h : NewerFrame event event') : event'.isLast = event.isLast := by
  cases h <;> rfl

/-- A newer frame is none where the known one is none. -/
theorem eq_silence_iff (h : NewerFrame event event') :
    event' = .silence ↔ event = .silence := by
  cases h with
  | same => rfl
  | text h hparse => exact ⟨nofun, nofun⟩

/-- Reading a newer frame leaves the link as reading the known one does. -/
theorem afterReading_eq (h : NewerFrame event event') (link : Link) :
    link.afterReading event' = link.afterReading event := by
  cases h <;> rfl

end NewerFrame

section Frames

variable {events events' : List Incoming}

/-- A newer daemon ends the connection where the known one does. -/
theorem any_isLast_eq (h : NewerFrames events events') :
    events'.any Incoming.isLast = events.any Incoming.isLast := by
  induction h with
  | nil => rfl
  | cons hevent _ ih => simp only [List.any_cons, hevent.isLast_eq, ih]

/-- What a newer daemon sends up to the end of the connection is newer text for what the known one
sends. -/
theorem newerFrames_upToLast (h : NewerFrames events events') :
    NewerFrames (upToLast events) (upToLast events') := by
  induction h with
  | nil => exact .nil
  | cons hevent _ ih =>
    simp only [upToLast, hevent.isLast_eq]
    split
    · exact .cons hevent .nil
    · exact .cons hevent ih

/-- Waiting for an answer comes to the same and leaves what has not been read. -/
theorem readAnswer_newer (h : NewerFrames events events') (id : UInt64) (bounded : Bool)
    (link : Link) :
    ∃ unread, NewerFrames (readAnswer id bounded link events).unread unread ∧
      readAnswer id bounded link events' =
        { readAnswer id bounded link events with unread } := by
  induction h with
  | nil => exact ⟨[], .nil, rfl⟩
  | @cons event event' rest rest' hevent hrest ih =>
    obtain ⟨unread, hunread, hread⟩ := ih
    simp only [readAnswer, hevent.eq_silence_iff, hevent.verdict_eq, hevent.afterReading_eq]
    split
    · exact ⟨rest', hrest, rfl⟩
    · split
      · exact ⟨rest', hrest, rfl⟩
      · exact ⟨unread, hunread, hread⟩
      · exact ⟨unread, hunread, by rw [hread]⟩

end Frames

section Clients

variable {σ : Type}

/-- The client end of a connection, and that of a connection to a newer daemon. -/
structure NewerClient (client client' : Client σ) : Prop where
  uri : client'.uri = client.uri
  nextId : client'.nextId = client.nextId
  link : client'.link = client.link
  server : client'.server = client.server
  delivered : client'.delivered = client.delivered
  unread : NewerFrames client.unread client'.unread
  reaction : ∀ text state,
    NewerFrames (client.reaction text state).1 (client'.reaction text state).1 ∧
      (client'.reaction text state).2 = (client.reaction text state).2

namespace NewerClient

variable {client client' : Client σ}

/-- A client is its own newer one, with nothing new. -/
theorem refl (client : Client σ) : NewerClient client client where
  uri := rfl
  nextId := rfl
  link := rfl
  server := rfl
  delivered := rfl
  unread := List.forall₂_same.mpr fun event _ => .same event
  reaction _ _ := ⟨List.forall₂_same.mpr fun event _ => .same event, rfl⟩

/-- A newer client takes the same id. -/
theorem takeId (h : NewerClient client client') :
    client'.takeId.1 = client.takeId.1 ∧ NewerClient client.takeId.2 client'.takeId.2 :=
  ⟨h.nextId, { h with nextId := congrArg (· + 1) h.nextId }⟩

/-- Both clients deliver a request alike. -/
theorem deliver (h : NewerClient client client') (text : String) :
    NewerClient (client.deliver text) (client'.deliver text) := by
  obtain ⟨hevents, hserver⟩ := h.reaction text client.server
  unfold Client.deliver
  rw [any_isLast_eq h.unread, h.server]
  split
  · exact h
  · exact { h with
      server := hserver
      delivered := congrArg (· ++ [text]) h.delivered
      unread := List.rel_append h.unread (newerFrames_upToLast hevents) }

/-- Both clients come to the same while they wait, and log the same. -/
theorem await (h : NewerClient client client') (id : UInt64) (bounded : Bool) :
    (client'.await id bounded).1 = (client.await id bounded).1 ∧
      NewerClient (client.await id bounded).2.1 (client'.await id bounded).2.1 ∧
      (client'.await id bounded).2.2 = (client.await id bounded).2.2 := by
  cases hdeaf : client.link.isDeaf with
  | true =>
    have hdeaf' : client'.link.isDeaf = true := by rw [h.link, hdeaf]
    rw [Client.await_of_deaf hdeaf, Client.await_of_deaf hdeaf']
    exact ⟨rfl, h, rfl⟩
  | false =>
    have hdeaf' : client'.link.isDeaf = false := by rw [h.link, hdeaf]
    obtain ⟨unread, hunread, hread⟩ := readAnswer_newer h.unread id bounded client.link
    rw [Client.await_of_heard hdeaf, Client.await_of_heard hdeaf', h.link, hread]
    exact ⟨rfl, { h with link := rfl, unread := hunread }, rfl⟩

/-- A call over a connection to a newer daemon comes to the same, tells the log the same and leaves
the connection ready for the next call to do so again. -/
theorem call (h : NewerClient client client') (method : String) (params : List Json.Value)
    (bounded : Bool) :
    (client'.call method params bounded).1 = (client.call method params bounded).1 ∧
      NewerClient (client.call method params bounded).2.1
        (client'.call method params bounded).2.1 ∧
      (client'.call method params bounded).2.2 = (client.call method params bounded).2.2 := by
  obtain ⟨hid, htaken⟩ := h.takeId
  simp only [Client.call, Client.send, hid, htaken.link]
  cases client.takeId.2.link.refusal? with
  | some refusal => exact ⟨rfl, htaken, rfl⟩
  | none =>
    obtain ⟨hresult, hclient, hlog⟩ :=
      (htaken.deliver (Request.text ⟨client.takeId.1, method, params⟩)).await client.takeId.1 bounded
    exact ⟨hresult, hclient, congrArg (List.cons (Client.sendingEntry _ _)) hlog⟩

end NewerClient

end Clients

end FailoverControl.Rpc
