import FailoverControl.Proofs.Rpc.Answered

/-!
# What decides a call

A call is decided by the first arrival that closes or breaks the connection or ends it, that is a
text which is no response, or that is a response with the id of the call. What arrives before is
used up and what arrives behind is left for the next call, however the call ends: over one
connection, calls use up consecutive pieces of what arrives. A call over a connection that is closed
or not read any more uses up nothing.

The main statement: `decided_by_first`, for one call and for calls one after the other.
-/

set_option autoImplicit false

namespace FailoverControl.Rpc

open FailoverControl.Json (DecodeError Value)

variable {id : UInt64}

/-! ## Arrivals -/

namespace Incoming

/-- An arrival decides the call for request `id`, and how the call ends. -/
inductive Decides (id : UInt64) : Incoming → Except Failure Value → Prop
  | close : Decides id .close (.error .closed)
  | broken (cause : SocketError) (later : Option SocketError) :
      Decides id (.broken cause later) (.error (.socket cause))
  | ended : Decides id .ended (.error .closed)
  | malformed {message : String} {e : DecodeError} (hparse : Response.parse message = .error e) :
      Decides id (.text message) (.error (.malformed e))
  | answer {message : String} {reply : Except Fault Value} (h : Answers id reply message) :
      Decides id (.text message) (reply.mapError .fault)

/-- An arrival that is used up without deciding the call for request `id`: silence, which is not
waited out, or a frame that is passed over. -/
def Unheeded (id : UInt64) (event : Incoming) : Prop :=
  event = .silence ∨ event.Skippable id

variable {event : Incoming}

/-- What decides a call is its verdict. -/
theorem Decides.verdict_eq {result : Except Failure Value} (h : event.Decides id result) :
    event.verdict id = .decided result := by
  cases h with
  | close => rfl
  | broken cause later => rfl
  | ended => rfl
  | malformed hparse => simp only [verdict, verdictOnText, hparse]
  | answer h => exact h.verdict_eq

/-- What is unheeded decides nothing. -/
theorem Unheeded.verdict_ne (h : event.Unheeded id) (result : Except Failure Value) :
    event.verdict id ≠ .decided result := by
  rcases h with rfl | h
  · exact nofun
  · exact h.verdict_ne result

/-- A frame decides a call or is unheeded by it. -/
theorem decides_or_unheeded_text (id : UInt64) (message : String) :
    (∃ result, (Incoming.text message).Decides id result) ∨
      (Incoming.text message).Unheeded id := by
  cases hparse : Response.parse message with
  | error e => exact .inl ⟨_, .malformed hparse⟩
  | ok response =>
    by_cases hid : response.id = some id
    · cases herror : response.error with
      | some fault => exact .inl ⟨_, .answer (.fault hparse hid herror)⟩
      | none => exact .inl ⟨_, .answer (.result hparse hid herror rfl)⟩
    · exact .inr (.inr (.text hparse hid))

/-- Every arrival either decides a call or goes unheeded by it. -/
theorem decides_or_unheeded (id : UInt64) (event : Incoming) :
    (∃ result, event.Decides id result) ∨ event.Unheeded id := by
  cases event with
  | text message => exact decides_or_unheeded_text id message
  | binary => exact .inr (.inr .binary)
  | ping => exact .inr (.inr .ping)
  | pong => exact .inr (.inr .pong)
  | close => exact .inl ⟨_, .close⟩
  | broken cause later => exact .inl ⟨_, .broken cause later⟩
  | ended => exact .inl ⟨_, .ended⟩
  | silence => exact .inr (.inl rfl)

/-- What is unheeded does not end the connection. -/
theorem Unheeded.isLast_eq_false (h : event.Unheeded id) : event.isLast = false := by
  rcases h with rfl | h
  · rfl
  · exact h.isLast_eq_false

end Incoming

/-- Of some arrivals the last one decides the call for request `id`, and it is the first that
does. -/
def DecidedBy (id : UInt64) (result : Except Failure Value) (consumed : List Incoming) : Prop :=
  ∃ passed event, consumed = passed ++ [event] ∧ (∀ e ∈ passed, e.Unheeded id) ∧
    event.Decides id result

/-- Arrivals begin with those that decide a call, unless all of them go unheeded. -/
theorem exists_first_decision (id : UInt64) (arrivals : List Incoming) :
    (∃ passed event rest result, arrivals = passed ++ event :: rest ∧
        (∀ e ∈ passed, e.Unheeded id) ∧ event.Decides id result) ∨
      ∀ e ∈ arrivals, e.Unheeded id := by
  classical
  have hunheeded (e : Incoming) (h : ¬ ∃ result, e.Decides id result) : e.Unheeded id :=
    (e.decides_or_unheeded id).resolve_left h
  cases hfind : arrivals.find? (fun e => decide (∃ result, e.Decides id result)) with
  | none => exact .inr fun e hmem => hunheeded e (by simpa using List.find?_eq_none.mp hfind e hmem)
  | some event =>
    obtain ⟨hevent, passed, rest, harrivals, hpassed⟩ := List.find?_eq_some_iff_append.mp hfind
    obtain ⟨result, hdecides⟩ := of_decide_eq_true hevent
    exact .inl ⟨passed, event, rest, result, harrivals,
      fun e hmem => hunheeded e (by simpa using hpassed e hmem), hdecides⟩

/-! ## Reading without a deadline -/

/-- What goes unheeded changes nothing but the log. -/
theorem readAnswer_unheeded {passed : List Incoming} (h : ∀ e ∈ passed, e.Unheeded id)
    (link : Link) (rest : List Incoming) :
    ∃ log, readAnswer id false link (passed ++ rest) =
      { readAnswer id false link rest with log } :=
  readAnswer_passed link (fun _ _ => Bool.false_and _) (fun event hmem => (h event hmem).verdict_ne)
    rest

/-- Reading stops at the first arrival that decides the call. -/
theorem readAnswer_decided {passed : List Incoming} {event : Incoming}
    {result : Except Failure Value} (hpassed : ∀ e ∈ passed, e.Unheeded id)
    (hdecides : event.Decides id result) (link : Link) (rest : List Incoming) :
    ∃ log, readAnswer id false link (passed ++ event :: rest) =
      ⟨some result, link.afterReading event, rest, log⟩ := by
  obtain ⟨log, hread⟩ := readAnswer_unheeded hpassed link (event :: rest)
  refine ⟨log, ?_⟩
  rw [hread, readAnswer, Bool.false_and, if_neg Bool.false_ne_true, hdecides.verdict_eq]

/-- When nothing decides the call, everything is used up and reading goes on for ever. -/
theorem readAnswer_undecided {arrivals : List Incoming} (h : ∀ e ∈ arrivals, e.Unheeded id)
    (link : Link) : ∃ log, readAnswer id false link arrivals = ⟨none, link, [], log⟩ := by
  obtain ⟨log, hread⟩ := readAnswer_unheeded h link []
  refine ⟨log, ?_⟩
  rw [List.append_nil] at hread
  rw [hread, readAnswer]

/-- Reading comes to a result and leaves some arrivals exactly when those before them are what
decides the call. -/
theorem readAnswer_eq_iff (link : Link) {arrivals rest : List Incoming}
    {result : Except Failure Value} :
    (readAnswer id false link arrivals).result = some result ∧
        (readAnswer id false link arrivals).unread = rest ↔
      ∃ consumed, arrivals = consumed ++ rest ∧ DecidedBy id result consumed := by
  constructor
  · rintro ⟨hresult, hrest⟩
    rcases exists_first_decision id arrivals with
      ⟨passed, event, later, found, rfl, hpassed, hdecides⟩ | hall
    · obtain ⟨log, hread⟩ := readAnswer_decided hpassed hdecides link later
      rw [hread] at hresult hrest
      obtain rfl := Option.some.inj hresult
      obtain rfl : later = rest := hrest
      exact ⟨passed ++ [event], List.append_cons passed event later, passed, event, rfl, hpassed,
        hdecides⟩
    · obtain ⟨log, hread⟩ := readAnswer_undecided hall link
      rw [hread] at hresult
      cases hresult
  · rintro ⟨_, rfl, passed, event, rfl, hpassed, hdecides⟩
    obtain ⟨log, hread⟩ := readAnswer_decided hpassed hdecides link rest
    rw [← List.append_cons, hread]
    exact ⟨rfl, rfl⟩

/-! ## Calls -/

variable {σ : Type}

namespace Client

/-- What the server puts on the connection when a text is sent over it. -/
def reactionTo (text : String) (client : Client σ) : List Incoming :=
  if client.Reaches then upToLast (client.reaction text client.server).1 else []

/-- The reaction to a request stands behind what is unread. -/
theorem unread_deliver {client : Client σ} (haccepts : client.link.refusal? = none)
    (text : String) :
    (client.deliver text).unread = client.unread ++ client.reactionTo text := by
  by_cases hlast : client.unread.any Incoming.isLast = true
  · simp [deliver, reactionTo, Reaches, hlast]
  · simp [deliver, reactionTo, Reaches, haccepts, hlast]

/-- Calls without a deadline, one after the other: what they come to, what the server puts on the
connection while they are made, and the connection behind them. A call that waits for ever is the
last one. -/
inductive Calls : Client σ → List (Option (Except Failure Value)) → List Incoming → Client σ → Prop
  | done {client : Client σ} : Calls client [] [] client
  | waiting {client next : Client σ} {method : String} {params : List Value} {log : List Log.Entry}
      (hcall : client.call method params false = (none, next, log)) :
      Calls client [none] (client.reactionTo (Request.text ⟨client.nextId, method, params⟩)) next
  | decided {client next last : Client σ} {method : String} {params : List Value}
      {log : List Log.Entry} {result : Except Failure Value}
      {results : List (Option (Except Failure Value))} {arrived : List Incoming}
      (hcall : client.call method params false = (some result, next, log))
      (hrest : Calls next results arrived last) :
      Calls client (some result :: results)
        (client.reactionTo (Request.text ⟨client.nextId, method, params⟩) ++ arrived) last

/-- Nothing comes of a request that the connection refuses. -/
theorem reactionTo_of_refusal {client : Client σ} {refusal : SocketError}
    (hrefused : client.link.refusal? = some refusal) (text : String) :
    client.reactionTo text = [] :=
  if_neg fun hreaches => Option.some_ne_none refusal (hrefused.symm.trans hreaches.1)

end Client

/-! ## Calls one after the other -/

/-- What calls that are numbered from `id` on come to, over a connection in the given state, with
the arrivals that each of them consumes. -/
inductive Conversation :
    Link → UInt64 → List (Option (Except Failure Value)) → List (List Incoming) → Prop
  | done {link : Link} {id : UInt64} : Conversation link id [] []
  | decided {id : UInt64} {passed : List Incoming} {event : Incoming}
      {result : Except Failure Value} {results : List (Option (Except Failure Value))}
      {segments : List (List Incoming)} (hpassed : ∀ e ∈ passed, e.Unheeded id)
      (hdecides : event.Decides id result)
      (hrest : Conversation (Link.live.afterReading event) (id + 1) results segments) :
      Conversation .live id (some result :: results) ((passed ++ [event]) :: segments)
  | refused {link : Link} {id : UInt64} {refusal : SocketError}
      {results : List (Option (Except Failure Value))} {segments : List (List Incoming)}
      (hrefused : link.refusal? = some refusal)
      (hrest : Conversation link (id + 1) results segments) :
      Conversation link id (some (.error (.socket refusal)) :: results) ([] :: segments)
  | unheard {id : UInt64} {results : List (Option (Except Failure Value))}
      {segments : List (List Incoming)}
      (hrest : Conversation (.deaf none) (id + 1) results segments) :
      Conversation (.deaf none) id (some (.error .closed) :: results) ([] :: segments)
  | waits {id : UInt64} {events : List Incoming} (hpassed : ∀ e ∈ events, e.Unheeded id) :
      Conversation .live id [none] [events]

/-- Either something that arrives decides a call over a live connection, or all of it goes unheeded
and the call waits for ever. -/
theorem Client.call_cases {client : Client σ} (hlive : client.link = .live) (method : String)
    (params : List Value) :
    let call := client.call method params false
    let arrivals :=
      client.unread ++ client.reactionTo (Request.text ⟨client.nextId, method, params⟩)
    (∃ passed event result, arrivals = passed ++ event :: call.2.1.unread ∧
        (∀ e ∈ passed, e.Unheeded client.nextId) ∧ event.Decides client.nextId result ∧
        call.1 = some result ∧ call.2.1.link = Link.live.afterReading event ∧
        call.2.1.nextId = client.nextId + 1) ∨
      (∀ e ∈ arrivals, e.Unheeded client.nextId) ∧ call.1 = none ∧ call.2.1.unread = [] := by
  intro call arrivals
  have haccepts : client.link.refusal? = none := by rw [hlive]; rfl
  have hcall : call = _ := Client.call_of_live hlive method params false
  simp only [Client.unread_deliver haccepts] at hcall
  rcases exists_first_decision client.nextId arrivals with
    ⟨passed, event, rest, result, harrivals, hpassed, hdecides⟩ | hall
  · obtain ⟨log, hread⟩ := readAnswer_decided hpassed hdecides .live rest
    rw [← harrivals] at hread
    rw [hcall, hread]
    exact .inl ⟨passed, event, result, harrivals, hpassed, hdecides, rfl, rfl, rfl⟩
  · obtain ⟨log, hread⟩ := readAnswer_undecided hall .live
    rw [hcall, hread]
    exact .inr ⟨hall, rfl, rfl⟩

/-- A call that comes to a result consumes a piece of what arrives, and the calls behind it go on
with the rest. -/
theorem Client.segment_of_call {client next : Client σ} {method : String} {params : List Value}
    {log : List Log.Entry} {result : Except Failure Value}
    (hcall : client.call method params false = (some result, next, log)) :
    ∃ segment, segment ++ next.unread =
        client.unread ++ client.reactionTo (Request.text ⟨client.nextId, method, params⟩) ∧
      ∀ results segments, Conversation next.link next.nextId results segments →
        Conversation client.link client.nextId (some result :: results) (segment :: segments) := by
  rcases client.link.live_or_refusal_or_deaf with hlive | ⟨refusal, hrefused⟩ | hdeaf
  · rcases Client.call_cases hlive method params with
      ⟨passed, event, _, harrivals, hpassed, hdecides, hresult, hlink, hid⟩ | ⟨-, hresult, -⟩
    · rw [hcall] at harrivals hresult hlink hid
      obtain rfl := Option.some.inj hresult
      refine ⟨passed ++ [event], ?_, fun results segments hrest => ?_⟩
      · rw [harrivals, List.append_assoc, List.singleton_append]
      · rw [hid, hlink] at hrest
        rw [hlive]
        exact .decided hpassed hdecides hrest
    · rw [hcall] at hresult
      cases hresult
  · rw [Client.call_of_refusal hrefused, Prod.mk.injEq, Prod.mk.injEq, Option.some.injEq] at hcall
    obtain ⟨rfl, rfl, -⟩ := hcall
    refine ⟨[], ?_, fun results segments hrest => .refused hrefused hrest⟩
    rw [Client.reactionTo_of_refusal hrefused, List.append_nil, List.nil_append]
  · rw [Client.call_of_deaf hdeaf, Prod.mk.injEq, Prod.mk.injEq, Option.some.injEq] at hcall
    obtain ⟨rfl, rfl, -⟩ := hcall
    refine ⟨[], Client.unread_deliver (by rw [hdeaf]; rfl) _, fun results segments hrest => ?_⟩
    rw [show (Client.deliver _ client).link = .deaf none from
      (client.link_deliver _).trans hdeaf] at hrest
    rw [hdeaf]
    exact .unheard hrest

/-- A call that waits for ever consumes all that arrives over a live connection. -/
theorem Client.waits_of_call {client next : Client σ} {method : String} {params : List Value}
    {log : List Log.Entry} (hcall : client.call method params false = (none, next, log)) :
    Conversation client.link client.nextId [none]
        [client.unread ++ client.reactionTo (Request.text ⟨client.nextId, method, params⟩)] ∧
      next.unread = [] := by
  rcases client.link.live_or_refusal_or_deaf with hlive | ⟨refusal, hrefused⟩ | hdeaf
  · rcases Client.call_cases hlive method params with
      ⟨_, _, _, -, -, -, hresult, -⟩ | ⟨hall, -, hunread⟩
    · rw [hcall] at hresult
      cases hresult
    · rw [hcall] at hunread
      rw [hlive]
      exact ⟨.waits hall, hunread⟩
  · rw [Client.call_of_refusal hrefused] at hcall
    cases hcall
  · rw [Client.call_of_deaf hdeaf] at hcall
    cases hcall

/-- Calls consume consecutive pieces of what arrives, and leave the rest unread. -/
theorem conversation_of_calls {client last : Client σ}
    {results : List (Option (Except Failure Value))} {arrived : List Incoming}
    (h : client.Calls results arrived last) :
    ∃ segments, Conversation client.link client.nextId results segments ∧
      segments.flatten ++ last.unread = client.unread ++ arrived := by
  induction h with
  | done => exact ⟨[], .done, (List.append_nil _).symm⟩
  | waiting hcall =>
    obtain ⟨hwaits, hunread⟩ := Client.waits_of_call hcall
    refine ⟨_, hwaits, ?_⟩
    rw [hunread, List.append_nil, List.flatten_singleton]
  | decided hcall _ ih =>
    obtain ⟨segment, hsegment, hgoesOn⟩ := Client.segment_of_call hcall
    obtain ⟨segments, hsegments, hflatten⟩ := ih
    refine ⟨segment :: segments, hgoesOn _ _ hsegments, ?_⟩
    rw [List.flatten_cons, List.append_assoc, hflatten, ← List.append_assoc, hsegment,
      List.append_assoc]

/-- A call whose request can be sent is decided by the first arrival that decides anything: it comes
to a result and leaves some arrivals exactly when those before them end in the first decision, and
it comes to some result when the end of the connection is among them. Calls one after the other
consume consecutive pieces of what arrives. -/
theorem decided_by_first (client : Client σ) :
    (client.link = .live → ∀ (method : String) (params : List Value),
      let call := client.call method params false
      let arrivals :=
        client.unread ++ client.reactionTo (Request.text ⟨client.nextId, method, params⟩)
      (∀ result rest, call.1 = some result ∧ call.2.1.unread = rest ↔
          ∃ consumed, arrivals = consumed ++ rest ∧ DecidedBy client.nextId result consumed) ∧
        (.ended ∈ arrivals → ∃ result, call.1 = some result)) ∧
      ∀ results arrived last, client.Calls results arrived last →
        ∃ segments, Conversation client.link client.nextId results segments ∧
          segments.flatten ++ last.unread = client.unread ++ arrived := by
  refine ⟨fun hlive method params => ⟨fun result rest => ?_, fun hended => ?_⟩,
    fun _ _ _ => conversation_of_calls⟩
  · have haccepts : client.link.refusal? = none := by rw [hlive]; rfl
    simp only [Client.call_of_live hlive, Client.unread_deliver haccepts]
    exact readAnswer_eq_iff .live
  · rcases Client.call_cases hlive method params with
      ⟨_, _, result, -, -, -, hresult, -⟩ | ⟨hall, -⟩
    · exact ⟨result, hresult⟩
    · exact absurd (hall .ended hended).isLast_eq_false nofun

/-! ## Three calls over a connection that ends -/

/-- A connection with the answers to two calls and its end still unread. -/
def endingClient : Client Unit where
  uri := "ws://127.0.0.1:6000"
  nextId := 1
  link := .live
  unread := [.binary,
    .text "\x7b\"id\":1,\"error\":\x7b\"code\":1,\"message\":\"no\"\x7d\x7d", .ping,
    .text "\x7b\"id\":1,\"result\":7\x7d", .text "\x7b\"id\":2,\"result\":true\x7d",
    .ended]
  reaction := fun _ s => ([], s)
  server := ()
  delivered := []

/-- What three calls over the connection come to. -/
def endingResults : List (Option (Except Failure Value)) :=
  [some (.error (.fault ⟨1, "no", none⟩)), some (.ok (.bool true)), some (.error .closed)]

/-- The calls over the ending connection come to these results and leave nothing unread. -/
theorem calls_endingClient : ∃ last, endingClient.Calls endingResults [] last ∧ last.unread = [] :=
  ⟨_, @Client.Calls.decided _ _ _ _ "m" [] _ _ _ _ rfl
    (@Client.Calls.decided _ _ _ _ "m" [] _ _ _ _ rfl
      (@Client.Calls.decided _ _ _ _ "m" [] _ _ _ _ rfl .done)), rfl⟩

/-- The fault leaves what is behind it to the second call, which passes over the late answer, and
the third call finds the end of the connection. -/
theorem decided_by_first_ending :
    ∃ segments, Conversation .live 1 endingResults segments ∧
      segments.flatten = endingClient.unread := by
  obtain ⟨last, hcalls, hunread⟩ := calls_endingClient
  obtain ⟨segments, hsegments, hflatten⟩ :=
    (decided_by_first endingClient).2 endingResults [] last hcalls
  rw [hunread, List.append_nil, List.append_nil] at hflatten
  exact ⟨segments, hsegments, hflatten⟩

end FailoverControl.Rpc
