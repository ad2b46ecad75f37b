import FailoverControl.Proofs.Json.Steady
import Mathlib.Data.List.Pairwise

/-!
# Records as texts

What a record is read from, said of the text itself: every field is completed by what its reader
makes of the one member of its name, and all other members are passed over, of whatever form their
values are. So members that are no fields may be put in anywhere, and the order of the members does
not count.

The main statements: the reader of a record reads every value in the same way wherever it stands
(`RecordShape.steady_read`), and what it makes of an object (`RecordShape.alone_objectText`).
-/

set_option autoImplicit false

namespace FailoverControl.Json

/-- A reader reads every value of the grammar in the same way wherever it stands. -/
def SteadyReader {α : Type} (reader : Nat → Reader α) : Prop :=
  ∀ ⦃v : List Char⦄, IsJson v → ∀ depth, (reader depth).Steady v

namespace RecordShape

variable {δ ρ : Type} (shape : RecordShape δ ρ) (depth : Nat)

/-! ## The object form -/

/-- A draft after one member, given by its text. -/
def step (m : Member) (draft : δ) : Option δ :=
  m.key?.bind fun key =>
    match shape.field? key with
    | none => some draft
    | some f =>
      if f.given draft then none
      else ((f.read depth).alone m.value.core).map fun complete => complete draft

/-- A draft after members, given by their texts. -/
def steps : List Member → δ → Option δ
  | [], draft => some draft
  | m :: members, draft => (shape.step depth m draft).bind (steps members)

variable {shape depth} {before rest blank : List Char}

/-- A member of a record is read as one step. -/
theorem readMember_text {m : Member} {key : String} (hkey : m.key? = some key)
    (hjson : IsJson m.value.core) (hfields : ∀ f ∈ shape.fields, SteadyReader f.read)
    (pieces : List (List Char)) (rest : List Char) (draft : δ) :
    (shape.readMember depth key draft
        (m.gap ++ ':' :: (m.value.text ++ piecesFrom '\x7d' false pieces rest))).toOption =
      (shape.step depth m draft).map fun draft =>
        (draft, m.value.after ++ piecesFrom '\x7d' false pieces rest) := by
  unfold readMember step
  rw [hkey, Option.bind_some]
  cases hfind : shape.field? key with
  | none =>
    have hskip : skipValue (m.value.text ++ piecesFrom '\x7d' false pieces rest) =
        .ok (m.value.after ++ piecesFrom '\x7d' false pieces rest) := by
      rw [Padded.text_append]
      exact skipValue_of_isJson hjson m.value.blank_before
        (m.value.endsNumeral (.inr rfl) pieces rest)
    simp only [skipColon_gap, hskip, bind, Except.bind]
    rfl
  | some f =>
    have hf : f ∈ shape.fields := List.mem_of_find?_eq_some hfind
    have hread := m.value.read_text (hfields f hf hjson depth) (.inr rfl) pieces rest
    cases hgiven : f.given draft with
    | true =>
      simp only [hgiven, if_true]
      rfl
    | false =>
      simp only [hgiven, Bool.false_eq_true, if_false, toOption_bind, skipColon_gap, toOption_ok,
        Option.bind_some, hread]
      cases (f.read depth).alone m.value.core <;> rfl

variable (depth) in
/-- The members of a record are read step by step. -/
theorem readMembers_text {members : List Member} (hjson : ∀ m ∈ members, IsJson m.value.core)
    (hfields : ∀ f ∈ shape.fields, SteadyReader f.read) (first : Bool) (hblank : Blanks blank)
    {count : Nat} (hcount : members.length < count) (rest : List Char) (draft : δ) :
    ((shape.readMembers depth count first draft
        (blank ++ piecesFrom '\x7d' first (members.map Member.text) rest)).toOption.bind fun read =>
      (endOfObject read.2).toOption.map fun cs => (read.1, cs)) =
      (shape.steps depth members draft).map fun draft => (draft, rest) := by
  induction members generalizing first blank count draft with
  | nil =>
    obtain ⟨count, rfl⟩ : ∃ k, count = k + 1 := ⟨count - 1, by omega⟩
    simp [readMembers, nextKey?_close hblank, endOfObject_close hblank, steps, pure, Except.pure]
  | cons m members ih =>
    obtain ⟨count, rfl⟩ : ∃ k, count = k + 1 := ⟨count - 1, by omega⟩
    obtain ⟨hm, hmembers⟩ := List.forall_mem_cons.mp hjson
    have hnext := nextKey?_piecesFrom m hblank first (members.map Member.text) rest
    simp only [List.map_cons, readMembers, toOption_bind, hnext, steps]
    cases hkey : m.key? with
    | none => simp [step, hkey]
    | some key =>
      simp only [Option.map_some, Option.bind_some, toOption_bind, readMember_text hkey hm hfields]
      cases hstep : shape.step depth m draft with
      | none => rfl
      | some draft =>
        exact ih hmembers false m.value.blank_after (Nat.lt_of_succ_lt_succ hcount) draft

/-- What an object is read as. -/
theorem read_objectText {lead : List Char} {members : List Member} (hlead : Blanks lead)
    (hjson : ∀ m ∈ members, IsJson m.value.core)
    (hfields : ∀ f ∈ shape.fields, SteadyReader f.read) (hbefore : Blanks before)
    (rest : List Char) :
    (shape.read (depth + 1) (before ++ (objectText lead members ++ rest))).toOption =
      ((shape.steps depth members shape.empty).bind fun draft =>
        (shape.finish draft).toOption).map fun record => (record, rest) := by
  have hlength := length_le_piecesFrom '\x7d' true (members.map Member.text) rest
  rw [List.length_map] at hlength
  have hcount : members.length <
      (lead ++ piecesFrom '\x7d' true (members.map Member.text) rest).length + 1 := by
    rw [List.length_append]
    omega
  have hmembers := Views.finish_before_end shape
    (readMembers_text depth hjson hfields true hlead hcount rest shape.empty)
  simp only [RecordShape.read, skipBlank_objectText hbefore]
  simpa using hmembers

/-! ## The positional form -/

variable (depth) in
/-- A draft after the items of the positional form, given by their texts. -/
def positions : List (Field δ) → List Padded → δ → Option δ
  | [], [], draft => some draft
  | [], _ :: _, _ => none
  | f :: fields, [], draft => if f.optional then positions fields [] draft else none
  | f :: fields, i :: items, draft =>
    ((f.read depth).alone i.core).bind fun complete => positions fields items (complete draft)

variable (shape depth) in
/-- The items of a record by position are read one field after the other. -/
theorem readPositions_text {fields : List (Field δ)} (hfields : ∀ f ∈ fields, SteadyReader f.read)
    {items : List Padded} (hjson : ∀ i ∈ items, IsJson i.core) (index : Nat)
    (hblank : Blanks blank) (rest : List Char) (draft : δ) :
    ((shape.readPositions depth fields index draft
        (blank ++ piecesFrom ']' (index == 0) (items.map Padded.text) rest)).toOption.bind fun read =>
      (endOfArray read.2).toOption.map fun cs => (read.1, cs)) =
      (positions depth fields items draft).map fun draft => (draft, rest) := by
  induction fields generalizing items index blank draft with
  | nil =>
    simp only [readPositions, toOption_ok, Option.bind_some]
    cases items with
    | nil => simp [endOfArray_close hblank, positions]
    | cons i items =>
      have hnext := nextItem?_piecesFrom (hjson i List.mem_cons_self) hblank (index == 0)
        (items.map Padded.text) rest
      simp [Views.endOfArray_of_nextItem? hnext, positions]
  | cons f fields ih =>
    obtain ⟨hf, hothers⟩ := List.forall_mem_cons.mp hfields
    cases items with
    | nil =>
      simp only [List.map_nil, readPositions, nextItem?_close hblank, bind, Except.bind, positions]
      cases f.optional with
      | true => exact ih hothers hjson index hblank draft
      | false => rfl
    | cons i items =>
      obtain ⟨hi, hitems⟩ := List.forall_mem_cons.mp hjson
      have hread := i.read_core (hf hi depth) (.inl rfl) (items.map Padded.text) rest
      simp only [List.map_cons, readPositions, nextItem?_piecesFrom hi hblank, toOption_bind,
        toOption_ok, Option.bind_some, hread, positions]
      cases (f.read depth).alone i.core with
      | none => rfl
      | some complete => exact ih hothers hitems (index + 1) i.blank_after (complete draft)

/-- What an array is read as. -/
theorem read_arrayText {lead : List Char} {items : List Padded} (hlead : Blanks lead)
    (hjson : ∀ i ∈ items, IsJson i.core) (hfields : ∀ f ∈ shape.fields, SteadyReader f.read)
    (hbefore : Blanks before) (rest : List Char) :
    (shape.read (depth + 1) (before ++ (arrayText lead items ++ rest))).toOption =
      ((positions depth shape.fields items shape.empty).bind fun draft =>
        (shape.finish draft).toOption).map fun record => (record, rest) := by
  have hitems := Views.finish_before_end shape
    (readPositions_text shape depth hfields hjson 0 hlead rest shape.empty)
  simp only [RecordShape.read, skipBlank_arrayText hbefore]
  simpa using hitems

/-! ## Both forms -/

/-- A record is written by an object or an array only. -/
theorem read_of_front {c : Char} {inner cs : List Char} (hfront : skipBlank cs = c :: inner)
    (harray : c ≠ '[') (hobject : c ≠ '\x7b') : (shape.read depth cs).toOption = none := by
  unfold RecordShape.read
  rw [hfront]
  split
  · rfl
  next heq => exact absurd (List.cons.inj heq).1 harray
  next heq => exact absurd (List.cons.inj heq).1 hobject
  · exact toOption_refuseValue _ _

/-- Nothing is read at no depth. -/
theorem read_zero (cs : List Char) : (shape.read 0 cs).toOption = none := by
  unfold RecordShape.read
  split
  · rfl
  · rfl
  · rfl
  · exact toOption_refuseValue _ _

/-- The reader of a record reads every value in the same way wherever it stands. -/
theorem steady_read (hfields : ∀ f ∈ shape.fields, SteadyReader f.read) :
    SteadyReader shape.read := by
  intro v h depth
  have hscalar {c : Char} {inner : List Char} (hc : isSeparator c = false) (harray : c ≠ '[')
      (hobject : c ≠ '\x7b') : (shape.read depth).Steady (c :: inner) := by
    apply Reader.steady_of_made none
    intro before rest hbefore hrest
    have hfront := skipBlank_blanks_append hbefore hc (inner ++ rest)
    exact read_of_front hfront harray hobject
  cases depth with
  | zero =>
    apply Reader.steady_of_made none
    intro before rest hbefore hrest
    exact read_zero _
  | succ depth =>
    cases h with
    | word h => rcases h with rfl | rfl | rfl <;> exact hscalar rfl (by decide) (by decide)
    | numeral h =>
      obtain ⟨c, inner, rfl, hblank, hne⟩ := h.exists_front
      exact hscalar hblank (hne '[' (by decide) rfl) (hne '\x7b' (by decide) rfl)
    | string h => exact hscalar rfl (by decide) (by decide)
    | array hlead hjson =>
      apply Reader.steady_of_made
      intro before rest hbefore hrest
      exact read_arrayText hlead hjson hfields hbefore rest
    | object hlead hjson =>
      apply Reader.steady_of_made
      intro before rest hbefore hrest
      exact read_objectText hlead hjson hfields hbefore rest

/-- An object alone is read as the steps of its members. -/
theorem alone_objectText {lead : List Char} {members : List Member} (hlead : Blanks lead)
    (hjson : ∀ m ∈ members, IsJson m.value.core)
    (hfields : ∀ f ∈ shape.fields, SteadyReader f.read) :
    (shape.read (depth + 1)).alone (objectText lead members) =
      (shape.steps depth members shape.empty).bind fun draft => (shape.finish draft).toOption :=
  Reader.alone_of_made fun _ rest hbefore _ => read_objectText hlead hjson hfields hbefore rest

/-- An array alone is read as the positions of its items. -/
theorem alone_arrayText {lead : List Char} {items : List Padded} (hlead : Blanks lead)
    (hjson : ∀ i ∈ items, IsJson i.core) (hfields : ∀ f ∈ shape.fields, SteadyReader f.read) :
    (shape.read (depth + 1)).alone (arrayText lead items) =
      (positions depth shape.fields items shape.empty).bind fun draft =>
        (shape.finish draft).toOption :=
  Reader.alone_of_made fun _ rest hbefore _ => read_arrayText hlead hjson hfields hbefore rest

end RecordShape

/-! ## Steady fields -/

/-- Texts are read in the same way everywhere. -/
theorem steady_readText : SteadyReader fun _ => readText :=
  fun _ h depth => steady_of_follows readsTrees_readText follows_readText h depth

/-- Values are read in the same way everywhere. -/
theorem steady_readValue : SteadyReader readValue :=
  fun _ h depth => steady_of_follows readsTrees_readValue follows_readValue h depth

/-- Bounded integers are read in the same way everywhere. -/
theorem steady_readIntegerIn (lower upper : Int) (expected : String) :
    SteadyReader fun _ => readIntegerIn lower upper expected :=
  fun _ h depth =>
    steady_of_follows (readsTrees_readIntegerIn lower upper expected)
      (follows_readIntegerIn lower upper expected) h depth

section Fields

variable {α δ : Type} {reader : Nat → Reader α}

/-- What is made of a steady reading is steady. -/
theorem SteadyReader.map (h : SteadyReader reader) {β : Type} (f : α → β) :
    SteadyReader fun depth cs => (reader depth cs).map fun (a, cs) => (f a, cs) := by
  intro v hv depth
  apply Reader.steady_of_made (((reader depth).alone v).map f)
  intro before rest hbefore hrest
  rw [toOption_map, h hv depth hbefore hrest, Option.map_map, Option.map_map]
  rfl

/-- Signed numbers of 32 bits are read in the same way everywhere. -/
theorem steady_readInt32 : SteadyReader fun _ => readInt32 :=
  (steady_readIntegerIn _ _ "i32").map Int32.ofInt

/-- Signed numbers of 64 bits are read in the same way everywhere. -/
theorem steady_readInt64 : SteadyReader fun _ => readInt64 :=
  (steady_readIntegerIn _ _ "i64").map Int64.ofInt

/-- Unsigned numbers of 64 bits are read in the same way everywhere. -/
theorem steady_readUInt64 : SteadyReader fun _ => readUInt64 :=
  (steady_readIntegerIn _ _ "u64").map fun n => UInt64.ofNat n.toNat

/-- A field reads its value as steadily as the reader that it is given. -/
theorem SteadyReader.ofSlot (h : SteadyReader reader) (name : String) (optional : Bool)
    (slot : δ → Option α) (fill : α → δ → δ) :
    SteadyReader (Field.ofSlot name optional reader slot fill).read :=
  h.map fill

/-- What is made of a reading alone is made of what is read alone. -/
theorem Reader.alone_map (reader : Reader α) {β : Type} (f : α → β) (v : List Char) :
    Reader.alone (fun cs => (reader cs).map fun (a, cs) => (f a, cs)) v =
      (reader.alone v).map f := by
  simp only [Reader.alone, toOption_map, Option.map_map]
  rfl

/-- A field fills its slot with what its value alone is read as. -/
theorem alone_ofSlot (name : String) (optional : Bool) (slot : δ → Option α) (fill : α → δ → δ)
    (depth : Nat) (v : List Char) :
    ((Field.ofSlot name optional reader slot fill).read depth).alone v =
      ((reader depth).alone v).map fill :=
  Reader.alone_map (reader depth) fill v

/-- Only the word for nothing begins like it. -/
theorem IsJson.eq_null {inner : List Char} (h : IsJson ('n' :: inner)) :
    inner = ['u', 'l', 'l'] := by
  generalize hv : 'n' :: inner = v at h
  cases h with
  | word h =>
    rcases h with rfl | rfl | rfl
    · exact (List.cons.inj hv).2
    · cases hv
    · cases hv
  | numeral h =>
    obtain ⟨c, cs, rfl, -, hne⟩ := h.exists_front
    exact absurd (List.cons.inj hv).1.symm (hne 'n' (by decide) rfl)
  | string h => cases hv
  | array hlead h => cases hv
  | object hlead h => cases hv

/-- What begins like no word for nothing is something. -/
theorem Reader.alone_optional (reader : Reader α) {c : Char} {inner : List Char}
    (hc : isSeparator c = false) (hn : c ≠ 'n') :
    (readOptional reader).alone (c :: inner) = (reader.alone (c :: inner)).map some := by
  have hfront : skipBlank (c :: inner) = c :: inner := skipBlank_blanks_append blanks_nil hc inner
  rw [Reader.alone, readOptional, hfront]
  split
  next heq => exact absurd (List.cons.inj heq).1 hn
  · exact Reader.alone_map reader some (c :: inner)

/-- A value that may be null is read in the same way everywhere. -/
theorem SteadyReader.optional (h : SteadyReader reader) :
    SteadyReader fun depth => readOptional (reader depth) := by
  intro v hv depth
  obtain ⟨c, inner, rfl, hblank, -⟩ := hv.exists_front
  by_cases hc : c = 'n'
  · subst hc
    obtain rfl := hv.eq_null
    apply Reader.steady_of_made (some none)
    intro before rest hbefore hrest
    have hfront : skipBlank (before ++ (['n', 'u', 'l', 'l'] ++ rest)) =
        'n' :: (['u', 'l', 'l'] ++ rest) := skipBlank_blanks_append hbefore rfl _
    show (readOptional (reader depth) (before ++ (['n', 'u', 'l', 'l'] ++ rest))).toOption = _
    rw [readOptional, hfront]
    rfl
  · apply Reader.steady_of_made (((reader depth).alone (c :: inner)).map some)
    intro before rest hbefore hrest
    have hfront : skipBlank (before ++ (c :: inner ++ rest)) = c :: inner ++ rest :=
      skipBlank_blanks_append hbefore hblank _
    have hread := h hv depth blanks_nil hrest
    rw [List.nil_append] at hread
    show (readOptional (reader depth) (before ++ (c :: inner ++ rest))).toOption = _
    rw [readOptional, hfront]
    split
    next heq => exact absurd (List.cons.inj heq).1 hc
    · rw [toOption_map, hread, Option.map_map, Option.map_map]
      rfl

end Fields

end FailoverControl.Json
