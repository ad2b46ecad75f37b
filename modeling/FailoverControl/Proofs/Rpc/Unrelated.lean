import FailoverControl.Proofs.Rpc.Answered
import FailoverControl.Proofs.Rpc.Decoding

/-!
# Frames that do not matter to a call

A frame does not matter to a pending call when taking it out of what arrives never changes what the
call comes to. A message is read as a response before its id is looked at, so a message that is
meant for nobody, or for a call that has been given up, matters nevertheless when some member of it
cannot be read: the call then ends with that.

The main statement: among the JSON objects whose id is not the id of the call, those do not matter
which write a response, and no others (`immaterial_iff`). Not all of them do
(`not_immaterial_textId`).
-/

set_option autoImplicit false

namespace FailoverControl.Rpc

open FailoverControl.Json

/-! ## Taking a frame out -/

/-- Taking an arrival out, wherever it stands, never changes what the call for request `id` comes
to. -/
def Immaterial (id : UInt64) (event : Incoming) : Prop :=
  ∀ {σ : Type} (client : Client σ) (bounded : Bool) (before after : List Incoming),
    ({ client with unread := before ++ event :: after }.await id bounded).1 =
      ({ client with unread := before ++ after }.await id bounded).1

variable {id : UInt64}

/-- What is passed over does not matter. -/
theorem Incoming.Skippable.immaterial {event : Incoming} (h : event.Skippable id) :
    Immaterial id event := by
  intro σ client bounded before after
  cases hdeaf : client.link.isDeaf with
  | true => simp only [Client.await, hdeaf, if_true]
  | false =>
    simp only [Client.await, hdeaf, Bool.false_eq_true, if_false]
    induction before with
    | nil =>
      have hsilence : (bounded && event = .silence) = false := by simp [h.ne_silence]
      obtain ⟨log, hread⟩ := readAnswer_cons client.link hsilence h.verdict_ne after
      simp only [List.nil_append, hread]
    | cons first before ih =>
      simp only [List.cons_append, readAnswer]
      split
      · rfl
      · split
        · rfl
        · exact ih
        · exact ih

/-- In front of the end of the connection, a message that is no response and one that answers the
call are told from nothing. -/
theorem exists_parse_of_immaterial {text : String} (h : Immaterial id (.text text)) :
    ∃ response, Response.parse text = .ok response ∧ response.id ≠ some id := by
  let client : Client Unit := ⟨"", id, .live, [], fun _ state => ([], state), (), []⟩
  have hend : (readAnswer id false .live [.text text, .close]).result = some (.error .closed) :=
    h client false [] [.close]
  simp only [readAnswer, Bool.false_and, Bool.false_eq_true, if_false, Incoming.verdict,
    verdictOnText] at hend
  cases hparse : Response.parse text with
  | error e => simp [hparse] at hend
  | ok response =>
    refine ⟨response, rfl, fun hid => ?_⟩
    simp only [hparse, if_pos hid] at hend
    cases houtcome : response.outcome <;> simp [houtcome, Except.mapError] at hend

/-- A frame is immaterial when it decodes and does not have the id of the call. -/
theorem immaterial_text_iff {text : String} :
    Immaterial id (.text text) ↔
      ∃ response, Response.parse text = .ok response ∧ response.id ≠ some id :=
  ⟨exists_parse_of_immaterial, fun ⟨_, hparse, hid⟩ =>
    (Incoming.Skippable.text hparse hid).immaterial⟩

/-! ## Which objects write a response -/

/-- No two members have a name, and the one that has it is null or can be read. -/
def Legible {α : Type} (view : Value → Option α) (vs : List Value) : Prop :=
  vs = [] ∨ ∃ v, vs = [v] ∧ (v = .null ∨ (view v).isSome = true)

/-- An optional member is accepted exactly when it is legible. -/
theorem isSome_optionalMember_iff {α : Type} (view : Value → Option α) (vs : List Value) :
    (optionalMember view vs).isSome = true ↔ Legible view vs := by
  rcases vs with _ | ⟨v, _ | ⟨w, vs⟩⟩
  · simp [optionalMember, soleMember, Legible]
  · cases v <;> simp [optionalMember, soleMember, Legible, Value.optionally]
  · simp [optionalMember, soleMember, Legible]

/-- An unsigned word is read from the integer it is, and from nothing else. -/
theorem eq_of_uint64? {v : Value} {n : UInt64} (h : v.uint64? = some n) : v = .ofUInt64 n := by
  cases v with
  | integer i =>
    obtain ⟨value, hlower, hupper⟩ := i
    simp only [Value.uint64?, Value.integerIn?] at h
    split at h
    next hbounds =>
      obtain rfl := Option.some.inj h
      have hvalue : ((UInt64.ofNat value.toNat).toNat : Int) = value := by
        rw [UInt64.toNat_ofNat']
        omega
      simp only [Value.ofUInt64, Integer.ofUInt64, hvalue]
    · simp at h
  | _ => simp [Value.uint64?, Value.integerIn?] at h

/-- Members make a response when id and fault are legible and there is no second result. -/
theorem ofMembers_isSome_iff {members : List (String × Value)} :
    (Response.ofMembers members).isSome = true ↔
      Legible Value.uint64? (entries "id" members) ∧ (entries "result" members).length ≤ 1 ∧
        Legible Fault.ofTree (entries "error" members) := by
  have hresult (vs : List Value) :
      (optionalMember (fun v => some v.settled) vs).isSome = true ↔ vs.length ≤ 1 := by
    rcases vs with _ | ⟨v, _ | ⟨w, vs⟩⟩
    · simp [optionalMember, soleMember]
    · cases v <;> simp [optionalMember, soleMember, Value.optionally]
    · simp [optionalMember, soleMember]
  rw [← isSome_optionalMember_iff, ← isSome_optionalMember_iff, ← hresult]
  unfold Response.ofMembers
  cases optionalMember Value.uint64? (entries "id" members) <;>
    cases optionalMember (fun v => some v.settled) (entries "result" members) <;>
    cases optionalMember Fault.ofTree (entries "error" members) <;> simp

/-- An object whose id is not the one of a call writes no response to that call. -/
theorem ofMembers_id_ne {members : List (String × Value)} {response : Response}
    (hid : ∀ v ∈ entries "id" members, v ≠ .ofUInt64 id)
    (h : Response.ofMembers members = some response) : response.id ≠ some id := by
  rintro hresponse
  obtain ⟨found, hfound, h⟩ := Option.bind_eq_some_iff.mp h
  obtain ⟨result, -, h⟩ := Option.bind_eq_some_iff.mp h
  obtain ⟨error, -, h⟩ := Option.bind_eq_some_iff.mp h
  obtain rfl := Option.some.inj h
  subst hresponse
  obtain ⟨v, hv, -, hview⟩ := optionalMember_eq_some_some_iff.mp hfound
  exact hid v (hv ▸ List.mem_singleton_self v) (eq_of_uint64? hview)

/-! ## The law -/

/-- A JSON object whose id is not the id of a call does not matter to the call exactly when it has
no two members of one name that a response has, its id, if it is not null, is an unsigned word, and
its error, if it is not null, is a fault. -/
theorem immaterial_iff {text : String} {members : List (String × Value)}
    (htree : parseTree text = .ok (.object members))
    (hid : ∀ v ∈ entries "id" members, v ≠ .ofUInt64 id) :
    Immaterial id (.text text) ↔
      Legible Value.uint64? (entries "id" members) ∧ (entries "result" members).length ≤ 1 ∧
        Legible Fault.ofTree (entries "error" members) := by
  have hparse : (Response.parse text).toOption = Response.ofMembers members :=
    parse_eq_ofTree htree
  rw [immaterial_text_iff, ← ofMembers_isSome_iff]
  constructor
  · rintro ⟨response, hresponse, -⟩
    rw [← hparse, hresponse]
    rfl
  · intro hsome
    obtain ⟨response, hresponse⟩ := Option.isSome_iff_exists.mp hsome
    refine ⟨response, ?_, ofMembers_id_ne hid hresponse⟩
    rw [hresponse] at hparse
    cases hread : Response.parse text <;> simp_all

/-- The members of a late answer whose fault explains itself by the value `data`. -/
def lateFault (data : Value) : List (String × Value) :=
  [("id", .ofUInt64 7), ("error", .object [("code", .ofUInt64 1), ("message", .string "late"),
    ("data", data)])]

/-- The late fault has one id. -/
theorem entries_id_lateFault (data : Value) : entries "id" (lateFault data) = [.ofUInt64 7] := by
  simp [lateFault, entries]

/-- A late answer to a call that has been given up is passed over when the details of its fault can
be read. -/
theorem immaterial_lateFault :
    parseTree ("\x7b\"id\":7,\"error\":" ++
        "\x7b\"code\":1,\"message\":\"late\",\"data\":\x7b\"errname\":\"EBUSY\"\x7d\x7d\x7d") =
      .ok (.object (lateFault (.object [("errname", .string "EBUSY")]))) ∧
    Immaterial 8 (.text ("\x7b\"id\":7,\"error\":" ++
        "\x7b\"code\":1,\"message\":\"late\",\"data\":\x7b\"errname\":\"EBUSY\"\x7d\x7d\x7d")) := by
  have hid : ∀ v ∈ entries "id" (lateFault (.object [("errname", .string "EBUSY")])),
      v ≠ .ofUInt64 8 := by
    simp [entries_id_lateFault, Value.ofUInt64, Integer.ofUInt64]
  refine ⟨rfl, (immaterial_iff rfl hid).mpr ⟨?_, ?_, ?_⟩⟩
  · exact .inr ⟨.ofUInt64 7, rfl, .inr rfl⟩
  · exact Nat.zero_le 1
  · exact .inr ⟨_, rfl, .inr rfl⟩

/-- A notification with a textual id and a late answer whose fault explains itself by a text are
JSON objects with other ids, and either of them ends a call nevertheless. -/
theorem not_immaterial_of_otherId :
    (parseTree "\x7b\"id\":\"job-7\",\"result\":true\x7d" =
        .ok (.object [("id", .string "job-7"), ("result", .bool true)]) ∧
      ¬ Immaterial 1 (.text "\x7b\"id\":\"job-7\",\"result\":true\x7d")) ∧
    (parseTree ("\x7b\"id\":7,\"error\":" ++
          "\x7b\"code\":1,\"message\":\"late\",\"data\":\"gone\"\x7d\x7d") =
        .ok (.object (lateFault (.string "gone"))) ∧
      ¬ Immaterial 1 (.text ("\x7b\"id\":7,\"error\":" ++
          "\x7b\"code\":1,\"message\":\"late\",\"data\":\"gone\"\x7d\x7d"))) := by
  refine ⟨⟨rfl, fun h => ?_⟩, ⟨rfl, fun h => ?_⟩⟩
  · obtain ⟨response, hparse, -⟩ := immaterial_text_iff.mp h
    cases hparse
  · obtain ⟨response, hparse, -⟩ := immaterial_text_iff.mp h
    cases hparse

end FailoverControl.Rpc
