import FailoverControl.Proofs.Json.Wording
import FailoverControl.Rpc.Network

/-!
# How failures of the connection are worded

A failure of the connection is worded on one line, except that it repeats texts from outside as they
are: an explanation of the daemon, a text of the operating system or of the transport, and the
address that could not be reached in time.

The main statements: `Failure.isLine_message_iff` and `Client.legible_call`.
-/

set_option autoImplicit false

namespace FailoverControl

open FailoverControl.Text (IsLine isLine_append_iff isLine_empty isLine_ofList)

/-! ## Spans of time -/

/-- A fraction of a duration is made of numeric characters. -/
theorem Duration.isNumeric_of_mem_fractionText {fraction places : Nat} {c : Char}
    (h : c ∈ fractionText fraction places) : Decimal.isNumeric c = true := by
  unfold fractionText at h
  split at h
  · cases h
  · rcases List.mem_cons.mp h with rfl | hmem
    · rfl
    · have hpadded := (List.dropWhile_sublist _).mem (List.mem_reverse.mp hmem)
      rcases List.mem_append.mp (List.mem_reverse.mp hpadded) with hzero | hdigit
      · rw [List.eq_of_mem_replicate hzero]
        rfl
      · exact Decimal.isNumeric_of_mem_digits hdigit

/-- A duration is worded on one line. -/
theorem Duration.isLine_text (d : Duration) : IsLine d.text := by
  have hspan (whole fraction places : Nat) {unit : String} (hunit : IsLine unit) :
      IsLine (Decimal.text whole ++ String.ofList (fractionText fraction places) ++ unit) := by
    rw [isLine_append_iff, isLine_append_iff]
    exact ⟨⟨Text.isLine_text whole, isLine_ofList
      (Text.not_mem_of_isNumeric fun _ => isNumeric_of_mem_fractionText)⟩, hunit⟩
  have hs : IsLine "s" := isLine_ofList (by decide)
  have hms : IsLine "ms" := isLine_ofList (by decide)
  have hus : IsLine "µs" := isLine_ofList (by decide)
  have hns : IsLine "ns" := isLine_ofList (by decide)
  unfold Duration.text
  by_cases hseconds : 0 < d.seconds
  · rw [if_pos hseconds]
    exact hspan _ _ _ hs
  rw [if_neg hseconds]
  by_cases hmillis : 1000000 ≤ d.nanos
  · rw [if_pos hmillis]
    exact hspan _ _ _ hms
  rw [if_neg hmillis]
  by_cases hmicros : 1000 ≤ d.nanos
  · rw [if_pos hmicros]
    exact hspan _ _ _ hus
  · rw [if_neg hmicros]
    exact hspan _ _ _ hns

namespace Host

/-! ## Failures of the operating system -/

/-- The text of its own that a failure has, if it has one. -/
def IoError.supplied : IoError → String
  | .os _ => ""
  | .custom text => text

/-- Every listed text of the system is one line. -/
theorem isLine_of_mem_osTexts : ∀ entry ∈ osTexts, IsLine entry.2 := by
  unfold osTexts
  repeat refine List.forall_mem_cons.mpr ⟨isLine_ofList (by decide), ?_⟩
  exact fun _ h => absurd h List.not_mem_nil

/-- What the system says of an error code is one line, also of one that is not listed. -/
theorem isLine_osText (code : Int) : IsLine (osText code) := by
  unfold osText
  cases hlookup : osTexts.lookup code with
  | none => exact isLine_append_iff.mpr ⟨isLine_ofList (by decide), Text.isLine_signedText code⟩
  | some text =>
    obtain ⟨first, rest, heq, -⟩ := List.lookup_eq_some_iff.mp hlookup
    have hmem : (code, text) ∈ osTexts := heq ▸ List.mem_append_right _ List.mem_cons_self
    exact isLine_of_mem_osTexts _ hmem

/-- An error of the system is worded on one line exactly when what it brings along is. -/
theorem IoError.isLine_message_iff {e : IoError} : IsLine e.message ↔ IsLine e.supplied := by
  cases e with
  | os code =>
    have hmessage : IsLine (osText code ++ " (os error " ++ Decimal.signedText code ++ ")") := by
      rw [isLine_append_iff, isLine_append_iff, isLine_append_iff]
      exact ⟨⟨⟨isLine_osText code, isLine_ofList (by decide)⟩, Text.isLine_signedText code⟩,
        isLine_ofList (by decide)⟩
    exact iff_of_true hmessage isLine_empty
  | custom text => exact Iff.rfl

end Host

namespace Rpc

open FailoverControl.Json

/-! ## Failures of the transport -/

/-- The text from outside that a failure of the websocket repeats. -/
def SocketError.supplied : SocketError → String
  | .io cause => cause.supplied
  | .protocol (.malformedHttp detail) => detail
  | .protocol (.other text) => text
  | .httpStatus status => status
  | .other text _ => text
  | _ => ""

/-- An error of the socket is worded on one line exactly when what it brings along is. -/
theorem SocketError.isLine_message_iff {e : SocketError} :
    IsLine e.message ↔ IsLine e.supplied := by
  have hio : IsLine "IO error: " := isLine_ofList (by decide)
  have hprotocol : IsLine "WebSocket protocol error: " := isLine_ofList (by decide)
  have haddress : IsLine "HTTP format error: " := isLine_ofList (by decide)
  have hendpoint : IsLine "URL error: " := isLine_ofList (by decide)
  have hstatus : IsLine "HTTP error: " := isLine_ofList (by decide)
  have hdetail : IsLine "httparse error: " := isLine_ofList (by decide)
  cases e with
  | io cause => exact hio.append_iff.trans cause.isLine_message_iff
  | protocol cause =>
    refine hprotocol.append_iff.trans ?_
    cases cause with
    | malformedHttp detail => exact hdetail.append_iff
    | other text => exact Iff.rfl
    | _ => exact iff_of_true (isLine_ofList (by decide)) isLine_empty
  | alreadyClosed => exact iff_of_true (isLine_ofList (by decide)) isLine_empty
  | address cause =>
    refine haddress.append_iff.trans ?_
    cases cause <;> exact iff_of_true (isLine_ofList (by decide)) isLine_empty
  | endpoint cause =>
    refine hendpoint.append_iff.trans ?_
    cases cause <;> exact iff_of_true (isLine_ofList (by decide)) isLine_empty
  | httpStatus status => exact hstatus.append_iff
  | other text causes => exact Iff.rfl

/-! ## Responses -/

/-- A trace mentions names of one line only. -/
theorem FaultTrace.mentions_shape : FaultTrace.shape.Mentions where
  name := isLine_ofList (by decide)
  fields := List.forall_mem_singleton.mpr <| Field.mentions_ofSlot (isLine_ofList (by decide))
    fun _ _ => plain_readOptional fun _ => plain_readText
  finish _ := plain_ok _

/-- Details mention names of one line only. -/
theorem FaultData.mentions_shape : FaultData.shape.Mentions where
  name := isLine_ofList (by decide)
  fields f hf := by
    simp only [FaultData.shape, List.mem_cons, List.not_mem_nil, or_false] at hf
    rcases hf with rfl | rfl | rfl | rfl
    · exact Field.mentions_ofSlot (isLine_ofList (by decide)) fun _ _ =>
        plain_readOptional fun _ => plain_readInt32
    · exact Field.mentions_ofSlot (isLine_ofList (by decide)) fun _ _ =>
        plain_readOptional fun _ => plain_readText
    · exact Field.mentions_ofSlot (isLine_ofList (by decide)) fun _ _ =>
        plain_readOptional fun _ => plain_readText
    · exact Field.mentions_ofSlot (isLine_ofList (by decide)) fun depth _ =>
        plain_readOptional fun _ => FaultTrace.mentions_shape.read depth
  finish _ := plain_ok _

/-- A fault mentions names of one line only. -/
theorem Fault.mentions_shape : Fault.shape.Mentions where
  name := isLine_ofList (by decide)
  fields f hf := by
    simp only [Fault.shape, List.mem_cons, List.not_mem_nil, or_false] at hf
    rcases hf with rfl | rfl | rfl
    · exact Field.mentions_ofSlot (isLine_ofList (by decide)) fun _ _ => plain_readInt64
    · exact Field.mentions_ofSlot (isLine_ofList (by decide)) fun _ _ => plain_readText
    · exact Field.mentions_ofSlot (isLine_ofList (by decide)) fun depth _ =>
        plain_readOptional fun _ => FaultData.mentions_shape.read depth
  finish draft := by
    obtain ⟨code, message, data⟩ := draft
    cases code with
    | none => exact plain_error (isLine_ofList (by decide))
    | some code =>
      cases message with
      | none => exact plain_error (isLine_ofList (by decide))
      | some message => exact plain_ok _

/-- A response mentions names of one line only. -/
theorem Response.mentions_shape : Response.shape.Mentions where
  name := isLine_ofList (by decide)
  fields f hf := by
    simp only [Response.shape, List.mem_cons, List.not_mem_nil, or_false] at hf
    rcases hf with rfl | rfl | rfl
    · exact Field.mentions_ofSlot (isLine_ofList (by decide)) fun _ _ =>
        plain_readOptional fun _ => plain_readUInt64
    · exact Field.mentions_ofSlot (isLine_ofList (by decide)) fun depth _ =>
        plain_readOptional fun _ => plain_readValue depth
    · exact Field.mentions_ofSlot (isLine_ofList (by decide)) fun depth _ =>
        plain_readOptional fun _ => Fault.mentions_shape.read depth
  finish _ := plain_ok _

/-- A text that is no response is refused in one line. -/
theorem Response.plain_parse (text : String) : Plain (Response.parse text) :=
  Response.mentions_shape.parse text

/-! ## Failures of calls -/

/-- The text from outside that a failure repeats. -/
def Failure.supplied : Failure → String
  | .connectTimeout uri _ => uri
  | .socket cause => cause.supplied
  | .fault f => f.reason
  | _ => ""

/-- Whether a message that is malformed is refused in one line. -/
def Failure.Legible (failure : Failure) : Prop :=
  ∀ cause, failure = .malformed cause → IsLine cause.mentions

/-- A failure is worded on one line when the text from outside that it repeats is one line. -/
theorem Failure.isLine_message_iff {failure : Failure} (h : failure.Legible) :
    IsLine failure.message ↔ IsLine failure.supplied := by
  cases failure with
  | connectTimeout uri timeout =>
    have hmessage : IsLine ("connecting to " ++ uri ++ " timed out after " ++ timeout.text) ↔
        IsLine uri := by
      rw [isLine_append_iff, isLine_append_iff, isLine_append_iff]
      exact ⟨fun hline => hline.1.1.2, fun huri => ⟨⟨⟨isLine_ofList (by decide), huri⟩,
        isLine_ofList (by decide)⟩, timeout.isLine_text⟩⟩
    exact hmessage
  | socket cause => exact cause.isLine_message_iff
  | malformed cause =>
    have hmessage : IsLine ("malformed message: " ++ cause.message) :=
      isLine_append_iff.mpr ⟨isLine_ofList (by decide), isLine_message cause (h cause rfl)⟩
    exact iff_of_true hmessage isLine_empty
  | closed => exact iff_of_true (isLine_ofList (by decide)) isLine_empty
  | fault f => exact Iff.rfl

/-- Whatever fails a call by arriving is legible. -/
theorem legible_verdict {id : UInt64} {event : Incoming} {failure : Failure}
    (h : event.verdict id = .decided (.error failure)) : failure.Legible := by
  cases event with
  | text message =>
    simp only [Incoming.verdict, verdictOnText] at h
    cases hparse : Response.parse message with
    | error cause =>
      simp only [hparse] at h
      cases h
      rintro _ ⟨⟩
      exact Response.plain_parse message cause hparse
    | ok response =>
      simp only [hparse] at h
      split at h
      · cases houtcome : response.outcome with
        | ok value =>
          rw [houtcome] at h
          cases h
        | error fault =>
          rw [houtcome] at h
          cases h
          exact nofun
      · cases h
  | close =>
    cases h
    exact nofun
  | broken cause later =>
    cases h
    exact nofun
  | ended =>
    cases h
    exact nofun
  | _ => cases h

/-- What decides a call is the verdict on something that has arrived. -/
theorem exists_verdict_of_readAnswer {id : UInt64} {bounded : Bool} {link : Link}
    {events : List Incoming} {result : Except Failure Value}
    (h : (readAnswer id bounded link events).result = some result) :
    ∃ event ∈ events, event.verdict id = .decided result := by
  fun_induction readAnswer id bounded link events with
  | case1 => cases h
  | case2 event rest hsilence => cases h
  | case3 event rest hsilence decision hverdict =>
    obtain rfl := Option.some.inj h
    exact ⟨event, List.mem_cons_self, hverdict⟩
  | case4 event rest hsilence hverdict ih =>
    obtain ⟨later, hmem, hlater⟩ := ih h
    exact ⟨later, List.mem_cons_of_mem _ hmem, hlater⟩
  | case5 event rest hsilence got hverdict reading ih =>
    obtain ⟨later, hmem, hlater⟩ := ih h
    exact ⟨later, List.mem_cons_of_mem _ hmem, hlater⟩

/-- Whether something decides a call or the connection counts as closed, no wait ends with a message
that is refused in more than one line. -/
theorem Client.legible_await {σ : Type} {client : Client σ} {id : UInt64} {bounded : Bool}
    {failure : Failure} (h : (client.await id bounded).1 = some (.error failure)) :
    failure.Legible := by
  unfold Client.await at h
  split at h
  · obtain rfl := Except.error.inj (Option.some.inj h)
    exact nofun
  · obtain ⟨event, -, hverdict⟩ := exists_verdict_of_readAnswer h
    exact legible_verdict hverdict

/-- No call fails with a message that is refused in more than one line. -/
theorem Client.legible_call {σ : Type} {client : Client σ} {method : String} {params : List Value}
    {bounded : Bool} {failure : Failure}
    (h : (client.call method params bounded).1 = some (.error failure)) : failure.Legible := by
  simp only [Client.call] at h
  split at h
  · obtain rfl := Except.error.inj (Option.some.inj h)
    exact nofun
  · exact legible_await h

/-- Connecting fails before any message is read. -/
theorem legible_connect {σ : Type} {network : Network σ} {uri : String} {timeout : Duration}
    {failure : Failure} (h : connect network uri timeout = .error failure) : failure.Legible := by
  rintro cause rfl
  rcases connect_cases network uri timeout with
    ⟨server, hconnected⟩ | htimeout | ⟨cause', hfailed⟩
  · rw [hconnected] at h
    cases h
  · rw [htimeout] at h
    cases h
  · rw [hfailed] at h
    cases h

end Rpc

end FailoverControl
