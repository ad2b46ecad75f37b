import FailoverControl.Proofs.Rpc.Answered
import FailoverControl.Proofs.Rpc.Callers
import FailoverControl.Proofs.Rpc.RequestText

/-!
# Every answer goes to its own caller

Several callers share a client, in any order of their steps, and any of them may be abandoned while
it waits. The server is honest: it sends a response with an id only once the request with that id
has reached it, and only one response for each id. Whatever carries no id may arrive at any time.

Then no two callers have the same id, a caller comes only to what the response with its own id
carries, nobody else reads the answer of a caller that has not settled, and an abandoned caller
leaves the connection free, so that whoever reads its late answer has got the connection after it
and goes on waiting.

The main statement: all of this holds of every run of fewer than `2 ^ 64` calls (`correlated`). It
rests on one observation, that a response with an id has arrived only if the caller of that id has
sent (`Reached.sent_of_arrived`).
-/

set_option autoImplicit false

namespace FailoverControl.Rpc

open FailoverControl.Json (Value)

/-! ## Ids of what arrives -/

/-- The id that an arrival carries when it is a response with an id. -/
def Incoming.id? : Incoming → Option UInt64
  | .text message =>
    match Response.parse message with
    | .ok response => response.id
    | .error _ => none
  | _ => none

/-- A response with an id is some text that reads as such a response. -/
theorem Incoming.exists_of_id? {event : Incoming} {id : UInt64} (h : event.id? = some id) :
    ∃ message response, event = .text message ∧ Response.parse message = .ok response ∧
      response.id = some id := by
  cases event with
  | text message =>
    simp only [id?] at h
    cases hparse : Response.parse message with
    | error e => simp [hparse] at h
    | ok response => exact ⟨message, response, rfl, hparse, by simpa [hparse] using h⟩
  | _ => cases h

/-- A response decides the call of its id. -/
theorem Incoming.verdict_of_id? {event : Incoming} {id : UInt64} (h : event.id? = some id) :
    ∃ result, event.verdict id = .decided result := by
  obtain ⟨message, response, rfl, hparse, hid⟩ := exists_of_id? h
  refine ⟨response.outcome.mapError .fault, ?_⟩
  simp only [verdict, verdictOnText, hparse, if_pos hid]

/-- A response with another id is unrelated. -/
theorem Incoming.verdict_of_id?_ne {event : Incoming} {id other : UInt64}
    (h : event.id? = some id) (hne : id ≠ other) : event.verdict other = .unrelated (some id) := by
  obtain ⟨message, response, rfl, hparse, hid⟩ := exists_of_id? h
  have hother : ¬ response.id = some other := by
    rw [hid]
    exact fun heq => hne (Option.some.inj heq)
  simp only [verdict, verdictOnText, hparse, if_neg hother]
  rw [hid]

/-- What decides a call with a reply is a response with the id of the call that carries the
reply. -/
theorem Incoming.answers_of_verdict {event : Incoming} {id : UInt64} {reply : Except Fault Value}
    (h : event.verdict id = .decided (reply.mapError .fault)) :
    ∃ message, event = .text message ∧ Answers id reply message := by
  cases event with
  | text message =>
    refine ⟨message, rfl, ?_⟩
    simp only [verdict, verdictOnText] at h
    cases hparse : Response.parse message with
    | error e => cases reply <;> simp [hparse, Except.mapError] at h
    | ok response =>
      simp only [hparse] at h
      split at h
      · next hid =>
        have houtcome := Verdict.decided.inj h
        cases herror : response.error with
        | some fault =>
          cases reply <;> simp only [Response.outcome, herror, Except.mapError, reduceCtorEq,
            Except.error.injEq, Failure.fault.injEq] at houtcome
          exact houtcome ▸ .fault hparse hid herror
        | none =>
          cases reply <;> simp only [Response.outcome, herror, Except.mapError, reduceCtorEq,
            Except.ok.injEq] at houtcome
          exact .result hparse hid herror houtcome
      · cases h
  | _ => cases reply <;> cases h

/-- The answer to a request has the id of the request. -/
theorem Answers.id?_eq {id : UInt64} {reply : Except Fault Value} {message : String}
    (h : Answers id reply message) : (Incoming.text message).id? = some id := by
  cases h with
  | result hparse hid _ _ => simp only [Incoming.id?, hparse, hid]
  | fault hparse hid _ => simp only [Incoming.id?, hparse, hid]

namespace Shared

variable {s s' : Shared} {step : Step} {uri : String} {steps : List Step} {request : Request}

/-! ## Messages under way -/

/-- A client whose server acts on its own. -/
def Silent (s : Shared) : Prop := ∀ text u, s.client.reaction text u = ([], u)

/-- To send takes nothing from what is unread and adds at most the text to what the server has
received. -/
theorem Silent.send {text : String} {client : Client Unit} (hsilent : s.Silent)
    (h : s.client.send text = .ok client) :
    client.unread = s.client.unread ∧ client.reaction = s.client.reaction ∧
      ∀ other ∈ client.delivered, other ∈ s.client.delivered ∨ other = text := by
  unfold Client.send at h
  split at h
  · cases h
  · obtain rfl := Except.ok.inj h
    unfold Client.deliver
    split
    · exact ⟨rfl, rfl, fun other hother => .inl hother⟩
    · refine ⟨?_, rfl, ?_⟩
      · simp only [hsilent text, upToLast, List.append_nil]
      · intro other hother
        simpa using hother

/-- After every step the server still acts on its own. -/
theorem Move.silent (h : s.Move step s') (hs : s.Silent) : s'.Silent := by
  cases h with
  | sent hholding hsend =>
    intro text u
    rw [client_enter, (hs.send hsend).2.1]
    exact hs text u
  | abandon _ =>
    intro text u
    rw [client_release, client_enter]
    exact hs text u
  | _ => exact hs

/-- The server of a shared client acts on its own in every state that is reached. -/
theorem Reached.silent (h : Reached uri steps s) : s.Silent := by
  induction h with
  | start => exact fun _ _ => rfl
  | step _ hstep ih => exact (move_of_next? hstep).silent ih

/-- A step adds to what is unread only what arrives by it. -/
theorem Move.mem_unread (h : s.Move step s') (hs : s.Silent) {event : Incoming}
    (hevent : event ∈ s'.client.unread) : event ∈ s.client.unread ∨ step = .arrive event := by
  cases h with
  | sent hholding hsend =>
    rw [client_enter, (hs.send hsend).1] at hevent
    exact .inl hevent
  | decided _ hunread _ =>
    rw [hunread]
    exact .inl (List.mem_cons_of_mem _ hevent)
  | passedOver _ hunread _ =>
    rw [hunread]
    exact .inl (List.mem_cons_of_mem _ hevent)
  | abandon _ =>
    rw [client_release, client_enter] at hevent
    exact .inl hevent
  | arrive =>
    rcases List.mem_append.mp hevent with hevent | hevent
    · exact .inl hevent
    · rw [List.mem_singleton.mp hevent]
      exact .inr rfl
  | _ => exact .inl hevent

/-- What is unread has arrived. -/
theorem Reached.arrived_of_mem_unread (h : Reached uri steps s) {event : Incoming}
    (hevent : event ∈ s.client.unread) : .arrive event ∈ steps := by
  induction h with
  | start => cases hevent
  | step before hstep ih =>
    rcases (move_of_next? hstep).mem_unread before.silent hevent with hevent | rfl
    · exact List.mem_append_left _ (ih hevent)
    · exact List.mem_append_right _ List.mem_cons_self

/-- A step delivers only the request of the caller that sends by it. -/
theorem Move.mem_delivered (h : s.Move step s') (hs : s.Silent) {text : String}
    (htext : text ∈ s'.client.delivered) : text ∈ s.client.delivered ∨
      ∃ caller request, step = .send caller ∧ (s.stage caller).request? = some request ∧
        request.text = text := by
  cases h with
  | @sent caller request client hholding hsend =>
    rcases (hs.send hsend).2.2 text htext with htext | rfl
    · exact .inl htext
    · exact .inr ⟨caller, request, rfl, by rw [hholding]; rfl, rfl⟩
  | abandon _ =>
    rw [client_release, client_enter] at htext
    exact .inl htext
  | _ => exact .inl htext

/-- What the server has received is the request of a caller that has sent. -/
theorem Reached.sent_of_mem_delivered (h : Reached uri steps s) {text : String}
    (htext : text ∈ s.client.delivered) :
    ∃ caller request, (s.stage caller).request? = some request ∧ request.text = text ∧
      .send caller ∈ steps := by
  induction h with
  | start => cases htext
  | step before hstep ih =>
    have hmove := move_of_next? hstep
    rcases hmove.mem_delivered before.silent htext with
      htext | ⟨caller, request, rfl, hrequest, heq⟩
    · obtain ⟨caller, request, hrequest, heq, hsent⟩ := ih htext
      exact ⟨caller, request, hmove.request?_eq_some hrequest, heq, List.mem_append_left _ hsent⟩
    · exact ⟨caller, request, hmove.request?_eq_some hrequest, heq,
        List.mem_append_right _ List.mem_cons_self⟩

/-- A caller that has sent is past sending for good. -/
theorem Reached.isPastSending (h : Reached uri steps s) {caller : Nat}
    (hsent : .send caller ∈ steps) : (s.stage caller).isPastSending = true := by
  induction h with
  | start => cases hsent
  | step before hstep ih =>
    have hmove := move_of_next? hstep
    rcases List.mem_append.mp hsent with hsent | hsent
    · exact hmove.isPastSending (ih hsent)
    · obtain rfl := List.mem_singleton.mp hsent
      cases hmove with
      | refused _ => simp [Stage.isPastSending]
      | sent _ _ => simp [Stage.isPastSending]

/-! ## Honest servers -/

/-- The request with an id has reached the server. -/
def Delivered (s : Shared) (id : UInt64) : Prop :=
  ∃ request : Request, request.id = id ∧ request.text ∈ s.client.delivered

/-- A run in which every response with an id arrives once its request has reached the server, and
no other response with that id has arrived before. -/
def Honest (uri : String) (steps : List Step) : Prop :=
  ∀ before event after id, steps = before ++ .arrive event :: after → event.id? = some id →
    (∃ s, (start uri).run? before = some s ∧ s.Delivered id) ∧
      ∀ earlier, .arrive earlier ∈ before → earlier.id? ≠ some id

/-- An honest server has been honest all along. -/
theorem Honest.of_append {more : List Step} (h : Honest uri (steps ++ more)) :
    Honest uri steps := by
  rintro before event after id rfl hid
  exact h before event (after ++ more) id (by simp) hid

/-- A run stays honest when nothing with an id arrives any more. -/
theorem Honest.append {more : List Step} (h : Honest uri steps)
    (hmore : ∀ event, .arrive event ∈ more → event.id? = none) : Honest uri (steps ++ more) := by
  intro before event after id heq hid
  rcases List.append_eq_append_iff.mp heq with ⟨between, rfl, hrest⟩ | ⟨between, hbefore, hrest⟩
  · -- The response would be among the steps that come after.
    have hmem : .arrive event ∈ more := by
      rw [hrest]
      exact List.mem_append_right _ List.mem_cons_self
    rw [hmore event hmem] at hid
    cases hid
  · cases between with
    | nil =>
      have hmem : .arrive event ∈ more := by
        rw [← List.nil_append more, ← hrest]
        exact List.mem_cons_self
      rw [hmore event hmem] at hid
      cases hid
    | cons first between =>
      obtain ⟨rfl, -⟩ := List.cons.inj hrest
      exact h before event between id hbefore hid

/-- A run stays honest when the first response to a request arrives that has reached the server. -/
theorem Honest.answer (h : Honest uri steps) (hrun : (start uri).run? steps = some s)
    {event : Incoming} {id : UInt64} (hid : event.id? = some id) (hdelivered : s.Delivered id)
    (hfirst : ∀ earlier, .arrive earlier ∈ steps → earlier.id? ≠ some id) :
    Honest uri (steps ++ [.arrive event]) := by
  intro before event' after id' heq hid'
  rcases List.append_eq_append_iff.mp heq with ⟨between, rfl, hrest⟩ | ⟨between, hbefore, hrest⟩
  · cases between with
    | nil =>
      obtain ⟨hevent, -⟩ := List.cons.inj hrest
      obtain rfl := Step.arrive.inj hevent
      obtain rfl : id = id' := Option.some.inj (hid.symm.trans hid')
      simp only [List.append_nil]
      exact ⟨⟨s, hrun, hdelivered⟩, hfirst⟩
    | cons first between => simp at hrest
  · cases between with
    | nil =>
      obtain ⟨hevent, -⟩ := List.cons.inj hrest
      obtain rfl := Step.arrive.inj hevent
      obtain rfl : id = id' := Option.some.inj (hid.symm.trans hid')
      obtain rfl : steps = before := by simpa using hbefore
      exact ⟨⟨s, hrun, hdelivered⟩, hfirst⟩
    | cons first between =>
      obtain ⟨rfl, -⟩ := List.cons.inj hrest
      exact h before event' between id' hbefore hid'

/-- Two responses with the same id are the same. -/
theorem Honest.eq_of_id?_eq (h : Honest uri steps) {event event' : Incoming} {id : UInt64}
    (hevent : .arrive event ∈ steps) (hevent' : .arrive event' ∈ steps)
    (hid : event.id? = some id) (hid' : event'.id? = some id) : event = event' := by
  obtain ⟨before, after, rfl⟩ := List.append_of_mem hevent
  rcases List.mem_append.mp hevent' with hmem | hmem
  · exact absurd hid' ((h before event after id rfl hid).2 event' hmem)
  rcases List.mem_cons.mp hmem with heq | hmem
  · exact (Step.arrive.inj heq).symm
  · obtain ⟨between, rest, rfl⟩ := List.append_of_mem hmem
    have hlater := (h (before ++ .arrive event :: between) event' rest id (by simp) hid').2
    exact absurd hid (hlater event (by simp))

/-- A response with an id has arrived only if the caller of that id has sent. -/
theorem Reached.sent_of_arrived (h : Reached uri steps s) (hhonest : Honest uri steps)
    {event : Incoming} {id : UInt64} (hevent : .arrive event ∈ steps) (hid : event.id? = some id) :
    ∃ caller request, (s.stage caller).request? = some request ∧ request.id = id ∧
      .send caller ∈ steps := by
  induction h with
  | start => cases hevent
  | @step steps s s' step before hstep ih =>
    have hmove := move_of_next? hstep
    rcases List.mem_append.mp hevent with hevent | hevent
    · obtain ⟨caller, request, hrequest, heq, hsent⟩ := ih hhonest.of_append hevent
      exact ⟨caller, request, hmove.request?_eq_some hrequest, heq, List.mem_append_left _ hsent⟩
    · obtain rfl := List.mem_singleton.mp hevent
      obtain ⟨⟨s₀, hrun, wanted, rfl, htext⟩, -⟩ := hhonest steps event [] id rfl hid
      obtain rfl : s = s₀ := Option.some.inj ((run?_of_reached before).symm.trans hrun)
      -- The server knows the request by its text, and the text tells the id.
      obtain ⟨caller, request, hrequest, heq, hsent⟩ := before.sent_of_mem_delivered htext
      exact ⟨caller, request, hmove.request?_eq_some hrequest, id_eq_of_text_eq heq,
        List.mem_append_left _ hsent⟩

/-- The caller of a response that has arrived has sent, and no other caller has its id. -/
theorem Reached.sent_of_own_arrived (h : Reached uri steps s) (hhonest : Honest uri steps)
    (hfew : begins steps < UInt64.size) {event : Incoming} {caller : Nat}
    (hevent : .arrive event ∈ steps) (hrequest : (s.stage caller).request? = some request)
    (hid : event.id? = some request.id) : .send caller ∈ steps := by
  obtain ⟨other, request', hrequest', heq, hsent⟩ := h.sent_of_arrived hhonest hevent hid
  rwa [← (h.numbered hfew).inj other caller request' request hrequest' hrequest heq]

/-! ## Answers of callers that wait -/

/-- A caller that waits has waited before or has just sent, and while it waited nobody has read a
response with its id. -/
theorem Move.waiting (h : s.Move step s') (hs : s.Silent)
    (hholder : ∀ c, s.holder = some c ↔ (s.stage c).holds = true) {caller : Nat}
    (hwaiting : s'.stage caller = .waiting request) :
    (step = .send caller ∧ s.stage caller = .holding request) ∨
      s.stage caller = .waiting request ∧ ∀ event ∈ s.client.unread,
        event.id? = some request.id → event ∈ s'.client.unread := by
  -- Two callers that wait are one, because both hold the connection.
  have hsame {c : Nat} {r : Request} (hc : s.stage c = .waiting r)
      (hcaller : s.stage caller = .waiting request) : caller = c := by
    have hheld := (hholder c).mpr (by rw [hc]; rfl)
    have hheld' := (hholder caller).mpr (by rw [hcaller]; rfl)
    exact Option.some.inj (hheld'.symm.trans hheld)
  cases h with
  | begin _ =>
    rw [stage_enter] at hwaiting
    obtain ⟨-, hbefore⟩ := stage_of_enter (by simp) hwaiting
    exact .inr ⟨hbefore, fun event hevent _ => hevent⟩
  | acquire _ _ =>
    obtain ⟨-, hbefore⟩ := stage_of_enter (by simp) hwaiting
    exact .inr ⟨hbefore, fun event hevent _ => hevent⟩
  | refused _ =>
    obtain ⟨-, hbefore⟩ := stage_of_enter (by simp) hwaiting
    exact .inr ⟨hbefore, fun event hevent _ => hevent⟩
  | @sent c r client hholding hsend =>
    rw [stage_enter] at hwaiting
    by_cases hc : caller = c
    · rw [if_pos hc] at hwaiting
      obtain rfl := Stage.waiting.inj hwaiting
      exact .inl ⟨by rw [hc], by rw [hc, hholding]⟩
    · rw [if_neg hc] at hwaiting
      refine .inr ⟨hwaiting, fun event hevent _ => ?_⟩
      rw [client_enter, (hs.send hsend).1]
      exact hevent
  | decided hreading _ _ =>
    obtain ⟨hne, hbefore⟩ := stage_of_enter (by simp) hwaiting
    exact absurd (hsame hreading hbefore) hne
  | passedOver hreading hunread hverdict =>
    obtain rfl := hsame hreading hwaiting
    obtain rfl := Stage.waiting.inj (hreading.symm.trans hwaiting)
    refine .inr ⟨hwaiting, fun event hevent hid => ?_⟩
    rw [hunread] at hevent
    rcases List.mem_cons.mp hevent with rfl | hevent
    · obtain ⟨result, hdecided⟩ := Incoming.verdict_of_id? hid
      exact absurd hdecided (hverdict result)
    · exact hevent
  | unheard hreading =>
    obtain ⟨hne, hbefore⟩ := stage_of_enter (by simp) hwaiting
    exact absurd (hsame hreading hbefore) hne
  | abandon _ =>
    rw [stage_release, stage_enter] at hwaiting
    obtain ⟨-, hbefore⟩ := stage_of_enter (by simp) hwaiting
    refine .inr ⟨hbefore, fun event hevent _ => ?_⟩
    rw [client_release]
    exact hevent
  | arrive => exact .inr ⟨hwaiting, fun event hevent _ => List.mem_append_left _ hevent⟩

/-- A response with the id of a caller that waits has not been read by anybody. -/
theorem Reached.mem_unread_of_waiting (h : Reached uri steps s) (hhonest : Honest uri steps)
    (hfew : begins steps < UInt64.size) {caller : Nat}
    (hwaiting : s.stage caller = .waiting request)
    {event : Incoming} (hevent : .arrive event ∈ steps) (hid : event.id? = some request.id) :
    event ∈ s.client.unread := by
  induction h with
  | start => cases hevent
  | @step steps s s' step before hstep ih =>
    have hmove := move_of_next? hstep
    have hfew' : begins steps < UInt64.size := Nat.lt_of_le_of_lt begins_le_append hfew
    rcases hmove.waiting before.silent before.holder_eq_some_iff hwaiting with
      ⟨rfl, hholding⟩ | ⟨hbefore, hkept⟩
    · -- A caller that has not sent before has no response that has arrived.
      have hearlier : .arrive event ∈ steps := by simpa using hevent
      have hsent := before.sent_of_own_arrived hhonest.of_append hfew' hearlier
        (by rw [hholding]; rfl) hid
      have hpast := before.isPastSending hsent
      rw [hholding] at hpast
      cases hpast
    · rcases List.mem_append.mp hevent with hearlier | hlast
      · exact hkept event (ih hhonest.of_append hfew' hbefore hearlier) hid
      · obtain rfl := List.mem_singleton.mp hlast
        cases hmove
        exact List.mem_append_right _ List.mem_cons_self

/-! ## What callers come to -/

/-- A caller that has finished had finished before, could not send, found that the connection is not
read any more, or has read what decides its call. -/
theorem Move.finished (h : s.Move step s') {caller : Nat} {result : Except Failure Value}
    (hfinished : s'.stage caller = .finished request result) :
    s.stage caller = .finished request result ∨
      (result = .error .closed ∨ ∃ refusal, result = .error (.socket refusal)) ∨
      ∃ event ∈ s.client.unread, event.verdict request.id = .decided result := by
  cases h with
  | begin _ =>
    rw [stage_enter] at hfinished
    exact .inl (stage_of_enter (by simp) hfinished).2
  | acquire _ _ => exact .inl (stage_of_enter (by simp) hfinished).2
  | @refused c r refusal hholding =>
    rw [stage_finish] at hfinished
    split at hfinished
    · obtain ⟨rfl, rfl⟩ := Stage.finished.inj hfinished
      exact .inr (.inl (.inr ⟨refusal, rfl⟩))
    · exact .inl hfinished
  | sent _ _ =>
    rw [stage_enter] at hfinished
    exact .inl (stage_of_enter (by simp) hfinished).2
  | @decided c r event rest result' hwaiting hunread hverdict =>
    rw [stage_finish] at hfinished
    split at hfinished
    · obtain ⟨rfl, rfl⟩ := Stage.finished.inj hfinished
      refine .inr (.inr ⟨event, ?_, hverdict⟩)
      rw [hunread]
      exact List.mem_cons_self
    · exact .inl hfinished
  | passedOver _ _ _ => exact .inl hfinished
  | unheard _ =>
    rw [stage_finish] at hfinished
    split at hfinished
    · obtain ⟨rfl, rfl⟩ := Stage.finished.inj hfinished
      exact .inr (.inl (.inl rfl))
    · exact .inl hfinished
  | abandon _ =>
    rw [stage_release, stage_enter] at hfinished
    exact .inl (stage_of_enter (by simp) hfinished).2
  | arrive => exact .inl hfinished

/-- A caller that comes to a reply has read it from a response with its own id. -/
theorem Reached.answers_of_finished (h : Reached uri steps s) {caller : Nat}
    {reply : Except Fault Value}
    (hfinished : s.stage caller = .finished request (reply.mapError .fault)) :
    ∃ message, .arrive (.text message) ∈ steps ∧ Answers request.id reply message := by
  induction h with
  | start => cases hfinished
  | step before hstep ih =>
    rcases (move_of_next? hstep).finished hfinished with
      hearlier | (hclosed | ⟨refusal, hrefused⟩) | ⟨event, hevent, hverdict⟩
    · obtain ⟨message, harrived, hanswers⟩ := ih hearlier
      exact ⟨message, List.mem_append_left _ harrived, hanswers⟩
    · cases reply <;> cases hclosed
    · cases reply <;> cases hrefused
    · obtain ⟨message, rfl, hanswers⟩ := Incoming.answers_of_verdict hverdict
      exact ⟨message, List.mem_append_left _ (before.arrived_of_mem_unread hevent), hanswers⟩

/-! ## Who reads what -/

/-- A caller that is past sending and has not settled waits. -/
theorem waiting_of_unsettled? {stage : Stage} (hpast : stage.isPastSending = true)
    (hunsettled : stage.unsettled? = some request) : stage = .waiting request := by
  cases stage with
  | waiting own =>
    obtain rfl := Option.some.inj hunsettled
    rfl
  | queued _ => cases hpast
  | holding _ => cases hpast
  | idle => cases hpast
  | finished _ _ => cases hunsettled
  | abandoned _ => cases hunsettled

/-- A caller that has not settled holds the connection once its answer has arrived. -/
theorem Reached.holder_of_own_arrived (h : Reached uri steps s) (hhonest : Honest uri steps)
    (hfew : begins steps < UInt64.size) {event : Incoming} {caller : Nat}
    (hevent : .arrive event ∈ steps) (hunsettled : (s.stage caller).unsettled? = some request)
    (hid : event.id? = some request.id) : s.holder = some caller := by
  have hrequest := request?_of_unsettled? hunsettled
  have hpast := h.isPastSending (h.sent_of_own_arrived hhonest hfew hevent hrequest hid)
  have hwaiting := waiting_of_unsettled? hpast hunsettled
  exact (h.holder_eq_some_iff caller).mpr (by rw [hwaiting]; rfl)

/-- Only the holder of the connection reads. -/
theorem Reached.holder_of_read (h : Reached uri steps s) {reader : Nat}
    (hread : s.Move (.read reader) s') : s.holder = some reader := by
  refine (h.holder_eq_some_iff reader).mpr ?_
  cases hread with
  | decided hwaiting _ _ =>
    rw [hwaiting]
    rfl
  | passedOver hwaiting _ _ =>
    rw [hwaiting]
    rfl

/-- Who reads a response with the id of another caller goes on waiting. -/
theorem Move.waiting_of_read {reader : Nat} (h : s.Move (.read reader) s') {event : Incoming}
    {id : UInt64} (hfront : s.client.unread.head? = some event) (hid : event.id? = some id)
    (hother : ∀ own, (s.stage reader).request? = some own → own.id ≠ id) :
    ∃ own, s.stage reader = .waiting own ∧ s'.stage reader = .waiting own := by
  cases h with
  | @decided _ own event' rest result hwaiting hunread hverdict =>
    rw [hunread] at hfront
    obtain rfl := Option.some.inj hfront
    have hne : own.id ≠ id := hother own (by rw [hwaiting]; rfl)
    rw [Incoming.verdict_of_id?_ne hid hne.symm] at hverdict
    cases hverdict
  | @passedOver _ own event' rest hwaiting _ _ => exact ⟨own, hwaiting, hwaiting⟩

/-- A caller that is abandoned had not settled, and nobody else loses the connection by it. -/
theorem Move.of_abandon {abandoned : Nat} (h : s.Move (.abandon abandoned) s') :
    ∃ request, (s.stage abandoned).unsettled? = some request ∧
      s'.stage abandoned = .abandoned request ∧
      s'.holder = if s.holder = some abandoned then none else s.holder := by
  cases h with
  | @abandon _ request hunsettled =>
    exact ⟨request, hunsettled, by rw [stage_release, stage_enter, if_pos rfl], holder_release⟩

/-- Who reads a late answer has got the connection since its caller was abandoned, and goes on
waiting. -/
theorem late_read {before middle : List Step} {abandoned reader : Nat} {s₁ s₂ s₃ s₄ : Shared}
    {event : Incoming} (hhonest : Honest uri (before ++ .abandon abandoned :: middle))
    (hfew : begins (before ++ .abandon abandoned :: middle) < UInt64.size)
    (hbefore : (start uri).run? before = some s₁)
    (habandon : s₁.next? (.abandon abandoned) = some s₂)
    (hmiddle : (start uri).run? (before ++ .abandon abandoned :: middle) = some s₃)
    (hread : s₃.next? (.read reader) = some s₄)
    (hrequest : (s₁.stage abandoned).request? = some request)
    (hfront : s₃.client.unread.head? = some event) (hid : event.id? = some request.id) :
    reader ≠ abandoned ∧ .acquire reader ∈ middle ∧
      ∃ own, s₃.stage reader = .waiting own ∧ s₄.stage reader = .waiting own := by
  have hreached := reached_of_run? hmiddle
  have hsince : s₂.run? middle = some s₃ := by
    obtain ⟨t, ht, hrest⟩ := run?_append.mp hmiddle
    obtain rfl : s₁ = t := Option.some.inj (hbefore.symm.trans ht)
    obtain ⟨t', ht', hrest⟩ := run?_cons.mp hrest
    obtain rfl : s₂ = t' := Option.some.inj (habandon.symm.trans ht')
    exact hrest
  obtain ⟨request', hunsettled, hleft, hholder⟩ := (move_of_next? habandon).of_abandon
  obtain rfl : request = request' :=
    Option.some.inj (hrequest.symm.trans (request?_of_unsettled? hunsettled))
  obtain ⟨hstays, hnosend⟩ := abandoned_of_run? hsince hleft
  have hrequest₃ : (s₃.stage abandoned).request? = some request := by
    rw [hstays]
    rfl
  have hmove := move_of_next? hread
  have hreader := hreached.holder_of_read hmove
  have hne : reader ≠ abandoned := by
    rintro rfl
    have hholds := (hreached.holder_eq_some_iff reader).mp hreader
    rw [hstays] at hholds
    cases hholds
  -- The request was sent before its caller was abandoned, so the caller had the connection then.
  have hsent : .send abandoned ∈ before := by
    have harrived := hreached.arrived_of_mem_unread (List.mem_of_mem_head? hfront)
    have hsent := hreached.sent_of_own_arrived hhonest hfew harrived hrequest₃ hid
    simpa [hnosend] using hsent
  have hwaiting := waiting_of_unsettled? ((reached_of_run? hbefore).isPastSending hsent) hunsettled
  have hheld : s₁.holder = some abandoned :=
    ((reached_of_run? hbefore).holder_eq_some_iff abandoned).mpr (by rw [hwaiting]; rfl)
  rw [if_pos hheld] at hholder
  refine ⟨hne, acquire_of_run? hsince (by simp [hholder]) hreader, ?_⟩
  refine hmove.waiting_of_read hfront hid ?_
  intro own hown heq
  exact hne ((hreached.numbered hfew).inj reader abandoned own request hown hrequest₃ heq)

/-! ## The correlation of requests and answers -/

/-- A step of a run: what comes before and after it, and the states that it leads from and to. -/
structure Taken (uri : String) (steps before : List Step) (step : Step) (after : List Step)
    (s s' : Shared) : Prop where
  eq : steps = before ++ step :: after
  run : (start uri).run? before = some s
  next : s.next? step = some s'

/-- What holds of the requests and answers of a run that comes to a state. -/
structure Correlated (uri : String) (steps : List Step) (s : Shared) : Prop where
  /-- Different callers have different ids. -/
  distinct : ∀ c c' request request', (s.stage c).request? = some request →
    (s.stage c').request? = some request' → c ≠ c' → request.id ≠ request'.id
  /-- A caller comes only to the reply that the response with its own id carries. -/
  payload : ∀ c request (reply : Except Fault Value),
    s.stage c = .finished request (reply.mapError .fault) →
      ∃ message, .arrive (.text message) ∈ steps ∧ Answers request.id reply message ∧
        ∀ event, .arrive event ∈ steps → event.id? = some request.id → event = .text message
  /-- The answer of a caller that has not settled is read by nobody else. -/
  own : ∀ before after reader s₁ s₂ event, Taken uri steps before (.read reader) after s₁ s₂ →
    s₁.client.unread.head? = some event → ∀ c request, (s₁.stage c).unsettled? = some request →
      event.id? = some request.id → c = reader
  /-- The answer of a caller that waits is not lost. -/
  kept : ∀ c request event, s.stage c = .waiting request → .arrive event ∈ steps →
    event.id? = some request.id → event ∈ s.client.unread
  /-- A caller that is abandoned leaves the connection free, and takes it from nobody else. -/
  freed : ∀ before after abandoned s₁ s₂,
    Taken uri steps before (.abandon abandoned) after s₁ s₂ →
      s₂.holder = if s₁.holder = some abandoned then none else s₁.holder
  /-- A late answer is read only by a caller that has got the connection since, and that goes on
  waiting. -/
  late : ∀ before middle after abandoned reader s₁ s₂ s₃ s₄ request event,
    Taken uri steps before (.abandon abandoned) (middle ++ .read reader :: after) s₁ s₂ →
    Taken uri steps (before ++ .abandon abandoned :: middle) (.read reader) after s₃ s₄ →
    (s₁.stage abandoned).request? = some request → s₃.client.unread.head? = some event →
    event.id? = some request.id →
      reader ≠ abandoned ∧ .acquire reader ∈ middle ∧
        ∃ own, s₃.stage reader = .waiting own ∧ s₄.stage reader = .waiting own

/-- In every run of fewer than `2 ^ 64` calls with an honest server, requests and answers
correlate. -/
theorem correlated (hrun : (start uri).run? steps = some s) (hfew : begins steps < UInt64.size)
    (hhonest : Honest uri steps) : Correlated uri steps s := by
  have hreached := reached_of_run? hrun
  have hnumbered := hreached.numbered hfew
  refine ⟨?distinct, ?payload, ?own, ?kept, ?freed, ?late⟩
  case distinct =>
    intro c c' request request' hc hc' hne heq
    exact hne (hnumbered.inj c c' request request' hc hc' heq)
  case payload =>
    intro c request reply hfinished
    obtain ⟨message, harrived, hanswers⟩ := hreached.answers_of_finished hfinished
    refine ⟨message, harrived, hanswers, ?_⟩
    intro event hevent hid
    exact hhonest.eq_of_id?_eq hevent harrived hid hanswers.id?_eq
  case own =>
    rintro before after reader s₁ s₂ event ⟨rfl, hbefore, hread⟩ hfront c request hunsettled hid
    have hreached₁ := reached_of_run? hbefore
    have harrived := hreached₁.arrived_of_mem_unread (List.mem_of_mem_head? hfront)
    have hheld := hreached₁.holder_of_own_arrived hhonest.of_append
      (Nat.lt_of_le_of_lt begins_le_append hfew) harrived hunsettled hid
    have hreader := hreached₁.holder_of_read (move_of_next? hread)
    exact Option.some.inj (hheld.symm.trans hreader)
  case kept =>
    intro c request event hwaiting hevent hid
    exact hreached.mem_unread_of_waiting hhonest hfew hwaiting hevent hid
  case freed =>
    rintro before after abandoned s₁ s₂ ⟨rfl, hbefore, habandon⟩
    obtain ⟨-, -, -, hholder⟩ := (move_of_next? habandon).of_abandon
    exact hholder
  case late =>
    rintro before middle after abandoned reader s₁ s₂ s₃ s₄ request event
      ⟨-, hbefore, habandon⟩ ⟨rfl, hmiddle, hread⟩ hrequest hfront hid
    exact late_read hhonest.of_append (Nat.lt_of_le_of_lt begins_le_append hfew) hbefore habandon
      hmiddle hread hrequest hfront hid

/-- A call is abandoned after it has been sent. Its answer is late and is read in the next call,
behind a notification and in front of the answer of that call. -/
def lateRun : List Step :=
  [.begin 0 "xo.getAll" [], .begin 1 "hactl.state" [], .acquire 0, .send 0, .abandon 0, .acquire 1,
    .arrive (.text "\x7b\"result\":false\x7d")] ++
  [.arrive (.text "\x7b\"id\":1,\"result\":true\x7d")] ++ [.send 1] ++
  [.arrive (.text "\x7b\"id\":2,\"result\":7\x7d")] ++ [.read 1, .read 1, .read 1]

/-- The server of the run with a late answer is honest. -/
theorem honest_lateRun : Honest "ws://127.0.0.1:6000" lateRun := by
  have hnotice : (Incoming.text "\x7b\"result\":false\x7d").id? = none := rfl
  have hlate : (Incoming.text "\x7b\"id\":1,\"result\":true\x7d").id? = some 1 := rfl
  have hown : (Incoming.text "\x7b\"id\":2,\"result\":7\x7d").id? = some 2 := rfl
  have hstart : Honest "ws://127.0.0.1:6000" [] := by
    intro before event after id heq
    simp at heq
  refine .append (.answer (.append (.answer (.append hstart ?notice) rfl hlate ?first ?fresh)
    ?quiet) rfl hown ?second ?fresh') ?reads
  case first => exact ⟨⟨1, "xo.getAll", []⟩, rfl, List.mem_cons_self⟩
  case second => exact ⟨⟨2, "hactl.state", []⟩, rfl, List.mem_cons_of_mem _ List.mem_cons_self⟩
  all_goals simp [hnotice, hlate]

/-- The second call comes to its own answer. -/
theorem correlated_lateRun : ∃ s, (start "ws://127.0.0.1:6000").run? lateRun = some s ∧
    begins lateRun < UInt64.size ∧ Honest "ws://127.0.0.1:6000" lateRun ∧
    s.stage 1 = .finished ⟨2, "hactl.state", []⟩ (.ok (.integer ⟨7, by decide, by decide⟩)) ∧
    Correlated "ws://127.0.0.1:6000" lateRun s := by
  have hfew : begins lateRun < UInt64.size := by decide
  exact ⟨_, rfl, hfew, honest_lateRun, rfl, correlated rfl hfew honest_lateRun⟩

end Shared

end FailoverControl.Rpc
