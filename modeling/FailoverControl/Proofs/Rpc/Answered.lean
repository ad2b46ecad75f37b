import FailoverControl.Daemon.Invocation
import Mathlib.Tactic.Common

/-!
# Calls that are answered

A server answers a request when it sends, after any number of frames that the call passes over, a
response with the id of the request. A call that is answered comes to what the response carries,
whether it is bounded or not, and leaves the connection ready for the next call: the frames behind
the answer wait to be passed over by it.

The main statement: a daemon call over a ready connection comes to the classified reply of the
server and has sent its own request and nothing else (`invoke_of_answered`).
-/

set_option autoImplicit false

namespace FailoverControl.Rpc

open FailoverControl.Json (Value)

/-! ## Frames that are passed over and frames that answer -/

/-- What a call for request `id` passes over: control frames, binary frames and responses with
another id or without one. -/
inductive Incoming.Skippable (id : UInt64) : Incoming → Prop
  | binary : Skippable id .binary
  | ping : Skippable id .ping
  | pong : Skippable id .pong
  | text {message : String} {response : Response} (hparse : Response.parse message = .ok response)
      (hid : response.id ≠ some id) : Skippable id (.text message)

/-- A message that answers request `id` with a result or a fault. A missing result is null. -/
inductive Answers (id : UInt64) : Except Fault Value → String → Prop
  | result {message : String} {response : Response} {value : Value}
      (hparse : Response.parse message = .ok response) (hid : response.id = some id)
      (herror : response.error = none) (hresult : response.result.getD .null = value) :
      Answers id (.ok value) message
  | fault {message : String} {response : Response} {fault : Fault}
      (hparse : Response.parse message = .ok response) (hid : response.id = some id)
      (herror : response.error = some fault) : Answers id (.error fault) message

/-- What a server sends when it answers request `id`. Behind the answer only frames may follow that
the next call passes over. -/
def Answered (id : UInt64) (reply : Except Fault Value) (events : List Incoming) : Prop :=
  ∃ skipped message later, events = skipped ++ .text message :: later ∧
    (∀ event ∈ skipped, event.Skippable id) ∧ Answers id reply message ∧
    ∀ event ∈ later, event.Skippable (id + 1)

variable {id : UInt64}

namespace Incoming.Skippable

variable {event : Incoming}

/-- What can be skipped is an arrival. -/
theorem ne_silence (h : event.Skippable id) : event ≠ .silence := by
  rintro rfl
  cases h

/-- What can be skipped does not end the connection. -/
theorem isLast_eq_false (h : event.Skippable id) : event.isLast = false := by
  cases h <;> rfl

/-- What can be skipped decides nothing. -/
theorem verdict_ne (h : event.Skippable id) (result : Except Failure Value) :
    event.verdict id ≠ .decided result := by
  cases h with
  | binary => simp [verdict]
  | ping => simp [verdict]
  | pong => simp [verdict]
  | text hparse hid => simp [verdict, verdictOnText, hparse, hid]

end Incoming.Skippable

/-- The answer to a request decides its call. -/
theorem Answers.verdict_eq {reply : Except Fault Value} {message : String}
    (h : Answers id reply message) :
    (Incoming.text message).verdict id = .decided (reply.mapError .fault) := by
  cases h with
  | result hparse hid herror hresult =>
    simp only [Incoming.verdict, verdictOnText, hparse, if_pos hid, Response.outcome, herror,
      hresult]
  | fault hparse hid herror =>
    simp only [Incoming.verdict, verdictOnText, hparse, if_pos hid, Response.outcome, herror]

/-! ## Reading -/

/-- Reading goes on behind what does not decide the call, and only the log tells. -/
theorem readAnswer_cons {bounded : Bool} (link : Link) {event : Incoming}
    (hsilence : (bounded && event = .silence) = false)
    (hverdict : ∀ result, event.verdict id ≠ .decided result) (rest : List Incoming) :
    ∃ log, readAnswer id bounded link (event :: rest) =
      { readAnswer id bounded link rest with log } := by
  simp only [readAnswer, hsilence, Bool.false_eq_true, if_false]
  cases hcase : event.verdict id with
  | decided result => exact absurd hcase (hverdict result)
  | passedOver => exact ⟨_, rfl⟩
  | unrelated got => exact ⟨_, rfl⟩

/-- Arrivals that do not decide the call change nothing but the log. -/
theorem readAnswer_passed {bounded : Bool} (link : Link) {passed : List Incoming}
    (hsilence : ∀ event ∈ passed, (bounded && event = .silence) = false)
    (hverdict : ∀ event ∈ passed, ∀ result, event.verdict id ≠ .decided result)
    (rest : List Incoming) :
    ∃ log, readAnswer id bounded link (passed ++ rest) =
      { readAnswer id bounded link rest with log } := by
  induction passed with
  | nil => exact ⟨_, rfl⟩
  | cons event others ih =>
    obtain ⟨hevent, hothers⟩ := List.forall_mem_cons.mp hsilence
    obtain ⟨hevent', hothers'⟩ := List.forall_mem_cons.mp hverdict
    obtain ⟨log, hread⟩ := ih hothers hothers'
    obtain ⟨log', hcons⟩ := readAnswer_cons link hevent hevent' (others ++ rest)
    refine ⟨log', ?_⟩
    rw [List.cons_append, hcons, hread]

/-- What is passed over changes nothing but the log. -/
theorem readAnswer_append {bounded : Bool} {link : Link} {skipped : List Incoming}
    (h : ∀ event ∈ skipped, event.Skippable id) (rest : List Incoming) :
    ∃ log, readAnswer id bounded link (skipped ++ rest) =
      { readAnswer id bounded link rest with log } :=
  readAnswer_passed link (fun event hmem => by simp [(h event hmem).ne_silence])
    (fun event hmem => (h event hmem).verdict_ne) rest

/-- A call comes to the answer to its request and leaves what has arrived behind it. -/
theorem readAnswer_answer {bounded : Bool} {link : Link} {reply : Except Fault Value}
    {message : String} (h : Answers id reply message) (later : List Incoming) :
    readAnswer id bounded link (.text message :: later) =
      ⟨some (reply.mapError .fault), link, later, []⟩ := by
  have hsilence : (bounded && Incoming.text message = .silence) = false := by simp
  simp only [readAnswer, hsilence, h.verdict_eq, Bool.false_eq_true, if_false]
  rfl

/-- Everything really arrives when nothing of it is the end of the connection. -/
theorem upToLast_eq_self {events : List Incoming} (h : ∀ event ∈ events, event.isLast = false) :
    upToLast events = events := by
  induction events with
  | nil => rfl
  | cons event rest ih =>
    obtain ⟨hevent, hrest⟩ := List.forall_mem_cons.mp h
    simp only [upToLast, hevent, Bool.false_eq_true, if_false, ih hrest]

/-- All frames of an answer really arrive. -/
theorem Answered.isLast_eq_false {reply : Except Fault Value} {events : List Incoming}
    (h : Answered id reply events) : ∀ event ∈ events, event.isLast = false := by
  obtain ⟨skipped, message, later, rfl, hskipped, -, hlater⟩ := h
  intro event hmem
  rcases List.mem_append.mp hmem with hmem | hmem
  · exact (hskipped event hmem).isLast_eq_false
  rcases List.mem_cons.mp hmem with rfl | hmem
  · rfl
  · exact (hlater event hmem).isLast_eq_false

/-! ## Calls -/

variable {σ : Type}

/-- A connection that is ready for the next call: what is still unread will be passed over by it. -/
structure Client.Ready (client : Client σ) : Prop where
  live : client.link = .live
  unread : ∀ event ∈ client.unread, event.Skippable client.nextId

/-- The connection after a call that has been answered, with what is still unread. -/
def Client.afterCall (client : Client σ) (method : String) (params : List Value)
    (later : List Incoming) : Client σ :=
  let text := Request.text ⟨client.nextId, method, params⟩
  { client with
    nextId := client.nextId + 1
    unread := later
    server := (client.reaction text client.server).2
    delivered := client.delivered ++ [text] }

/-- A connection stays ready for the next call when what is left can be skipped by it. -/
theorem Client.Ready.afterCall {client : Client σ} (hready : client.Ready) {method : String}
    {params : List Value} {later : List Incoming}
    (hlater : ∀ event ∈ later, event.Skippable (client.nextId + 1)) :
    (client.afterCall method params later).Ready :=
  ⟨hready.live, hlater⟩

/-- A connection whose end is not on its way hands a text over, and what the server sends arrives
behind what is unread. -/
theorem Client.deliver_of_open (client : Client σ) {text : String}
    (hunread : ∀ event ∈ client.unread, event.isLast = false)
    (hsent : ∀ event ∈ (client.reaction text client.server).1, event.isLast = false) :
    client.deliver text =
      { client with
        unread := client.unread ++ (client.reaction text client.server).1
        server := (client.reaction text client.server).2
        delivered := client.delivered ++ [text] } := by
  have hopen : client.unread.any Incoming.isLast = false := by
    rw [List.any_eq_false]
    intro event hmem
    simp [hunread event hmem]
  unfold deliver
  simp only [hopen, Bool.false_eq_true, if_false, upToLast_eq_self hsent]

/-- A call whose request is refused comes to that. -/
theorem Client.call_of_send_error {client : Client σ} {method : String} {params : List Value}
    {refusal : SocketError} (bounded : Bool)
    (h : client.takeId.2.send (Request.text ⟨client.nextId, method, params⟩) = .error refusal) :
    client.call method params bounded = (some (.error (.socket refusal)), client.takeId.2,
      [sendingEntry client.nextId method]) := by
  unfold Client.call
  simp only [Client.takeId] at h ⊢
  rw [h]

/-- A call whose request has been sent waits for the answer. -/
theorem Client.call_of_send_ok {client sent : Client σ} {method : String} {params : List Value}
    (bounded : Bool)
    (h : client.takeId.2.send (Request.text ⟨client.nextId, method, params⟩) = .ok sent) :
    client.call method params bounded =
      let waited := sent.await client.nextId bounded
      (waited.1, waited.2.1, sendingEntry client.nextId method :: waited.2.2) := by
  unfold Client.call
  simp only [Client.takeId] at h ⊢
  rw [h]

/-- A connection is live, refuses requests, or carries them without being read. -/
theorem Link.live_or_refusal_or_deaf (link : Link) :
    link = .live ∨ (∃ refusal, link.refusal? = some refusal) ∨ link = .deaf none := by
  cases link with
  | live => exact .inl rfl
  | closed => exact .inr (.inl ⟨_, rfl⟩)
  | dead => exact .inr (.inl ⟨_, rfl⟩)
  | deaf refusal =>
    cases refusal with
    | none => exact .inr (.inr rfl)
    | some refusal => exact .inr (.inl ⟨refusal, rfl⟩)

/-- A call over a connection that refuses requests leaves all as it is but the id. -/
theorem Client.call_of_refusal {client : Client σ} {refusal : SocketError}
    (hrefused : client.link.refusal? = some refusal) (method : String) (params : List Value)
    (bounded : Bool) :
    client.call method params bounded =
      (some (.error (.socket refusal)), { client with nextId := client.nextId + 1 },
        [sendingEntry client.nextId method]) := by
  refine call_of_send_error bounded ?_
  simp only [send, takeId, hrefused]

/-- An id that is used up changes nothing about what is handed over. -/
theorem Client.deliver_takeId (client : Client σ) (text : String) :
    client.takeId.2.deliver text =
      { client.deliver text with nextId := client.nextId + 1 } := by
  unfold deliver takeId
  cases client.unread.any Incoming.isLast <;> rfl

/-- Handing a text over does not change the state of the connection. -/
theorem Client.link_deliver (client : Client σ) (text : String) :
    (client.deliver text).link = client.link := by
  unfold deliver
  split <;> rfl

/-- A connection that does not refuse a request hands it over under the next id. -/
theorem Client.send_takeId {client : Client σ} (haccepts : client.link.refusal? = none)
    (text : String) :
    client.takeId.2.send text =
      .ok { client.deliver text with nextId := client.nextId + 1 } := by
  rw [← deliver_takeId]
  simp only [send, takeId, haccepts]

/-- A call over a live connection hands its request over and reads what is unread then. -/
theorem Client.call_of_live {client : Client σ} (hlive : client.link = .live) (method : String)
    (params : List Value) (bounded : Bool) :
    client.call method params bounded =
      let sent := client.deliver (Request.text ⟨client.nextId, method, params⟩)
      let reading := readAnswer client.nextId bounded .live sent.unread
      (reading.result,
        { sent with
          nextId := client.nextId + 1
          link := reading.link
          unread := reading.unread },
        sendingEntry client.nextId method :: reading.log) := by
  let sent := { client.deliver (Request.text ⟨client.nextId, method, params⟩) with
    nextId := client.nextId + 1 }
  have hlink : sent.link = .live := (client.link_deliver _).trans hlive
  have hsend : client.takeId.2.send (Request.text ⟨client.nextId, method, params⟩) = .ok sent :=
    send_takeId (by rw [hlive]; rfl) _
  rw [call_of_send_ok bounded hsend, await_of_heard (by rw [hlink]; rfl), hlink]

/-- A call over a connection that is not read any more hands its request over and counts the
connection as closed. -/
theorem Client.call_of_deaf {client : Client σ} (hdeaf : client.link = .deaf none)
    (method : String) (params : List Value) (bounded : Bool) :
    client.call method params bounded =
      (some (.error .closed),
        { client.deliver (Request.text ⟨client.nextId, method, params⟩) with
          nextId := client.nextId + 1 },
        [sendingEntry client.nextId method]) := by
  let sent := { client.deliver (Request.text ⟨client.nextId, method, params⟩) with
    nextId := client.nextId + 1 }
  have hlink : sent.link = .deaf none := (client.link_deliver _).trans hdeaf
  have hsend : client.takeId.2.send (Request.text ⟨client.nextId, method, params⟩) = .ok sent :=
    send_takeId (by rw [hdeaf]; rfl) _
  rw [call_of_send_ok bounded hsend, await_of_deaf (by rw [hlink]; rfl)]

/-- What is sent over a connection reaches the server. -/
def Client.Reaches (client : Client σ) : Prop :=
  client.link.refusal? = none ∧ client.unread.any Incoming.isLast = false

instance (client : Client σ) : Decidable client.Reaches :=
  inferInstanceAs (Decidable (_ ∧ _))

/-- A text that is handed over is received unless the end of the connection is on its way. -/
theorem Client.delivered_deliver {client : Client σ} (haccepts : client.link.refusal? = none)
    (text : String) :
    (client.deliver text).delivered =
      client.delivered ++ if client.Reaches then [text] else [] := by
  by_cases hlast : client.unread.any Incoming.isLast = true
  · simp [deliver, Reaches, hlast]
  · simp [deliver, Reaches, hlast, haccepts]

/-- A call makes the server receive the text of its request, or nothing. -/
theorem Client.delivered_call (client : Client σ) (method : String) (params : List Value)
    (bounded : Bool) :
    (client.call method params bounded).2.1.delivered =
      client.delivered ++
        if client.Reaches then [Request.text ⟨client.nextId, method, params⟩] else [] := by
  rcases client.link.live_or_refusal_or_deaf with hlive | ⟨refusal, hrefused⟩ | hdeaf
  · rw [call_of_live hlive]
    exact delivered_deliver (by rw [hlive]; rfl) _
  · have hnot : ¬ client.Reaches := fun hreaches =>
      Option.some_ne_none refusal (hrefused.symm.trans hreaches.1)
    rw [call_of_refusal hrefused, if_neg hnot, List.append_nil]
  · rw [call_of_deaf hdeaf]
    exact delivered_deliver (by rw [hdeaf]; rfl) _

/-- A call that is answered comes to what the answer carries. -/
theorem Client.call_of_answered {client : Client σ} (hready : client.Ready) {method : String}
    {params : List Value} {reply : Except Fault Value}
    (h : Answered client.nextId reply
      (client.reaction (Request.text ⟨client.nextId, method, params⟩) client.server).1)
    (bounded : Bool) :
    ∃ later log, (∀ event ∈ later, event.Skippable (client.nextId + 1)) ∧
      client.call method params bounded =
        (some (reply.mapError .fault), client.afterCall method params later, log) := by
  have hopen : ∀ event ∈ client.unread, event.isLast = false :=
    fun event hmem => (hready.unread event hmem).isLast_eq_false
  have hsent := client.deliver_of_open hopen h.isLast_eq_false
  obtain ⟨skipped, message, later, hevents, hskipped, hmessage, hlater⟩ := h
  -- What was left unread is passed over together with what the server sends before its answer.
  have hpassed : ∀ event ∈ client.unread ++ skipped, event.Skippable client.nextId := by
    intro event hmem
    rcases List.mem_append.mp hmem with hmem | hmem
    · exact hready.unread event hmem
    · exact hskipped event hmem
  obtain ⟨log, hread⟩ : ∃ log, readAnswer client.nextId bounded .live _ = _ :=
    readAnswer_append hpassed (.text message :: later)
  rw [List.append_assoc, ← hevents, readAnswer_answer hmessage] at hread
  refine ⟨later, sendingEntry client.nextId method :: log, hlater, ?_⟩
  rw [Client.call_of_live hready.live]
  simp only [hsent, hread, Client.afterCall, hready.live]

end FailoverControl.Rpc

namespace FailoverControl.Daemon

open FailoverControl.Json (Value)
open FailoverControl.Rpc

variable {σ : Type}

/-- A call that is decided comes to the class of what it is decided by. -/
theorem invokeWith_of_decided {call : Call} {bounded : Bool} {client client' : Client σ}
    {result : Except Rpc.Failure Value} {log : List Log.Entry}
    (h : client.call call.method call.args bounded = (some result, client', log))
    (undecided : Except Halt (CallOutcome × List Log.Entry)) :
    invokeWith call bounded client undecided =
      .ok ⟨(classify call.method result).1, client', log ++ (classify call.method result).2⟩ := by
  unfold invokeWith
  rw [h]
  rfl

/-- A daemon call over a ready connection, unless its deadline does not fit, comes to the classified
reply of the server. -/
theorem invoke_of_answered {client : Client σ} (hready : client.Ready) {call : Call}
    (hbound : ∀ options, call.options = some options → options.localDeadline?.isSome = true)
    {reply : Except Fault Value}
    (h : Answered client.nextId reply
      (client.reaction (Request.text ⟨client.nextId, call.method, call.args⟩) client.server).1) :
    ∃ later log, (∀ event ∈ later, event.Skippable (client.nextId + 1)) ∧
      invoke call client =
        .ok ⟨reply.mapError CallError.ofFault, client.afterCall call.method call.args later,
          log⟩ := by
  have hclassify : (classify call.method (reply.mapError .fault)).1 =
      reply.mapError CallError.ofFault := by
    cases reply <;> simp only [classify, Except.mapError, CallError.ofFailure]
  cases hoptions : call.options with
  | none =>
    obtain ⟨later, log, hlater, hcall⟩ := Client.call_of_answered hready h false
    refine ⟨later, log ++ (classify call.method (reply.mapError .fault)).2, hlater, ?_⟩
    rw [← hclassify, invoke, hoptions]
    exact invokeWith_of_decided hcall _
  | some options =>
    obtain ⟨deadline, hdeadline⟩ := Option.isSome_iff_exists.mp (hbound options hoptions)
    obtain ⟨later, log, hlater, hcall⟩ := Client.call_of_answered hready h true
    refine ⟨later, log ++ (classify call.method (reply.mapError .fault)).2, hlater, ?_⟩
    rw [← hclassify, invoke, hoptions]
    simp only [hdeadline]
    exact invokeWith_of_decided hcall _

end FailoverControl.Daemon
