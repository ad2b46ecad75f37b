import FailoverControl.Json.Record
import FailoverControl.Proofs.Json.Passing

/-!
# Readers of what is expected, on trees

A view says what a tree stands for where one kind of value is expected. A reader follows a view when
it reads from every text that has a tree what the view makes of the tree, and refuses the text where
the view makes nothing of it; so what a record is read from can be said of its members alone.

The main statements are those on readers of strings, bounded integers, optional things and values
(`follows_readText`, `follows_readIntegerIn`, `Follows.optional`, `follows_readValue`).
-/

set_option autoImplicit false

namespace FailoverControl.Json

/-! ## What does not say why -/

section Outcomes

variable {ε α β : Type}

/-- A result that is changed is there when the result was. -/
@[simp]
theorem toOption_map (x : Except ε α) (f : α → β) : (x.map f).toOption = x.toOption.map f := by
  cases x <;> rfl

/-- A result that is changed is there when the result was. -/
@[simp]
theorem toOption_fmap (x : Except ε α) (f : α → β) : (f <$> x).toOption = x.toOption.map f := by
  cases x <;> rfl

/-- What follows a result is there when both are. -/
@[simp]
theorem toOption_bind (x : Except ε α) (f : α → Except ε β) :
    (x >>= f).toOption = x.toOption.bind fun a => (f a).toOption := by
  cases x <;> rfl

/-- A result is there. -/
@[simp]
theorem toOption_ok (a : α) : (Except.ok a : Except ε α).toOption = some a :=
  rfl

/-- A refusal is no result. -/
@[simp]
theorem toOption_error (e : ε) : (Except.error e : Except ε α).toOption = none :=
  rfl

end Outcomes

/-! ## Views -/

namespace Value

/-- The integer between two bounds that a tree is. -/
def integerIn? (lower upper : Int) : Value → Option Int
  | .integer n => if lower ≤ n.value ∧ n.value ≤ upper then some n.value else none
  | _ => none

/-- What a tree stands for, or nothing when it is null. -/
def optionally {α : Type} (view : Value → Option α) : Value → Option (Option α)
  | .null => some none
  | v => (view v).map some

/-- The tree as a signed word. -/
def int64? (v : Value) : Option Int64 :=
  (v.integerIn? (-9223372036854775808) 9223372036854775807).map Int64.ofInt

/-- The tree as a signed half word. -/
def int32? (v : Value) : Option Int32 :=
  (v.integerIn? (-2147483648) 2147483647).map Int32.ofInt

/-- The tree as an unsigned word. -/
def uint64? (v : Value) : Option UInt64 :=
  (v.integerIn? 0 18446744073709551615).map fun n => .ofNat n.toNat

end Value

/-- A reader reads from a text with a tree what the view makes of the tree, and nothing else. -/
def Follows {α : Type} (reader : Nat → Reader α) (view : Value → Option α) : Prop :=
  ∀ (depth : Nat) (cs rest : List Char) (tree : Value), readTree depth cs = .ok (tree, rest) →
    (reader depth cs).toOption = (view tree).map fun a => (a, rest)

section Readers

variable {α β : Type} {reader : Nat → Reader α} {view : Value → Option α}

/-- What is made of a reading follows what is made of its view. -/
theorem Follows.map (h : Follows reader view) (f : α → β) :
    Follows (fun depth cs => (reader depth cs).map fun (a, cs) => (f a, cs))
      fun v => (view v).map f := by
  intro depth cs rest tree htree
  simp only [toOption_map, h _ _ _ _ htree, Option.map_map]
  rfl

/-- A whole text with a tree is read as what the view makes of the tree. -/
theorem Follows.readAll (h : Follows reader view) {text : String} {tree : Value}
    (htree : parseTree text = .ok tree) :
    (Json.readAll (reader maxDepth) text).toOption = view tree := by
  unfold parseTree Json.readAll at htree
  split at htree
  · simp at htree
  next found rest hread =>
    split at htree
    next hend =>
      cases htree
      have hreader := h _ _ _ _ hread
      unfold Json.readAll
      cases hparse : reader maxDepth text.toList with
      | error e =>
        rw [hparse] at hreader
        exact (Option.map_eq_none_iff.mp hreader.symm).symm
      | ok found =>
        rw [hparse] at hreader
        obtain ⟨a, hview, rfl⟩ := Option.map_eq_some_iff.mp hreader.symm
        simp only [hend, toOption_ok, hview]
    · simp at htree

/-- Another kind of value is refused, whatever the value is. -/
theorem toOption_refuseValue (expected : String) (cs : List Char) :
    (refuseValue expected cs : Except DecodeError α).toOption = none := by
  unfold refuseValue
  split
  · rfl
  · rfl
  · split <;> rfl

end Readers

/-! ## What a tree begins with -/

/-- The characters that a value of a kind may begin with. -/
def Value.OpensWith (c : Char) : Value → Prop
  | .null => c = 'n'
  | .bool true => c = 't'
  | .bool false => c = 'f'
  | .integer _ => c = '-' ∨ c.isDigit = true
  | .float _ => c = '-' ∨ c.isDigit = true
  | .string _ => c = '"'
  | .array _ => c = '['
  | .object _ => c = '\x7b'

/-- Numerals open with a sign or a digit. -/
theorem opensWith_toValue {c : Char} {n : Numeral} (h : c = '-' ∨ c.isDigit = true) :
    n.toValue.OpensWith c := by
  cases n <;> exact h

section Fronts

variable {depth : Nat} {cs inner rest : List Char} {c : Char} {tree : Value}

/-- The first character of a tree tells its kind. -/
theorem TreeRead.opensWith (h : TreeRead depth cs tree rest) (hfront : skipBlank cs = c :: inner) :
    tree.OpensWith c := by
  cases h with
  | array hcons hitems => exact (List.cons.inj (hfront.symm.trans hcons)).1
  | object hcons hmembers => exact (List.cons.inj (hfront.symm.trans hcons)).1
  | scalar harray hobject hscalar =>
    rw [hfront] at hscalar
    cases hscalar with
    | negative hread => exact opensWith_toValue (.inl rfl)
    | positive hdigit hread => exact opensWith_toValue (.inr hdigit)
    | _ => rfl

/-- A tree has a first character. -/
theorem TreeRead.exists_front (h : TreeRead depth cs tree rest) :
    ∃ c inner, skipBlank cs = c :: inner := by
  cases h with
  | array hcons hitems => exact ⟨_, _, hcons⟩
  | object hcons hmembers => exact ⟨_, _, hcons⟩
  | scalar harray hobject hscalar =>
    generalize skipBlank cs = front at hscalar
    cases hscalar <;> exact ⟨_, _, rfl⟩

/-- A tree that does not begin with a bracket or a brace is a scalar. -/
theorem TreeRead.readScalar (h : TreeRead depth cs tree rest) (hfront : skipBlank cs = c :: inner)
    (harray : c ≠ '[') (hobject : c ≠ '\x7b') :
    FailoverControl.Json.readScalar (c :: inner) = .ok (tree, rest) := by
  cases h with
  | array hcons hitems => exact absurd (List.cons.inj (hfront.symm.trans hcons)).1 harray
  | object hcons hmembers => exact absurd (List.cons.inj (hfront.symm.trans hcons)).1 hobject
  | scalar _ _ hscalar =>
    rw [hfront] at hscalar
    exact readScalar_of_scalarRead hscalar

end Fronts

/-! ## Readers of one kind -/

section Readers

variable {α : Type} {reader : Nat → Reader α} {view : Value → Option α}

/-- Texts are read from strings. -/
theorem follows_readText : Follows (fun _ => readText) Value.string? := by
  intro depth cs rest tree htree
  have hread := treeRead_of_readTree htree
  obtain ⟨c, inner, hfront⟩ := hread.exists_front
  have hopens := hread.opensWith hfront
  by_cases hquote : c = '"'
  · subst hquote
    have hscalar := hread.readScalar hfront (by decide) (by decide)
    obtain ⟨s, rfl, hstring⟩ := exists_of_map_eq_ok hscalar
    simp [readText, hfront, hstring, Value.string?]
  · have hrefused : (readText cs).toOption = none := by
      simp only [readText, hfront]
      split
      · rfl
      next heq => exact absurd (List.cons.inj heq).1 hquote
      · exact toOption_refuseValue _ _
    have hview : tree.string? = none := by
      cases tree <;> first | rfl | exact absurd hopens hquote
    rw [hrefused, hview]
    rfl

/-- A bounded integer is read where the tree is an integer within the bounds. -/
theorem follows_readIntegerIn (lower upper : Int) (expected : String) :
    Follows (fun _ => readIntegerIn lower upper expected) (Value.integerIn? lower upper) := by
  intro depth cs rest tree htree
  have hread := treeRead_of_readTree htree
  obtain ⟨c, inner, hfront⟩ := hread.exists_front
  have hopens := hread.opensWith hfront
  by_cases hnumeral : c = '-' ∨ c.isDigit = true
  · have harray : c ≠ '[' := by rintro rfl; simp at hnumeral
    have hobject : c ≠ '\x7b' := by rintro rfl; simp at hnumeral
    have hscalar := hread.readScalar hfront harray hobject
    simp only [readIntegerIn, hfront, if_pos hnumeral, hscalar]
    cases tree with
    | integer n =>
      simp only [Value.integerIn?]
      split <;> rfl
    | _ => rfl
  · have hrefused : (readIntegerIn lower upper expected cs).toOption = none := by
      simp only [readIntegerIn, hfront, if_neg hnumeral]
      exact toOption_refuseValue _ _
    have hview : tree.integerIn? lower upper = none := by
      cases tree with
      | integer n => exact absurd hopens hnumeral
      | _ => rfl
    rw [hrefused, hview]
    rfl

/-- Signed numbers of 64 bits are read from integers in their range. -/
theorem follows_readInt64 : Follows (fun _ => readInt64) Value.int64? :=
  (follows_readIntegerIn _ _ "i64").map Int64.ofInt

/-- Signed numbers of 32 bits are read from integers in their range. -/
theorem follows_readInt32 : Follows (fun _ => readInt32) Value.int32? :=
  (follows_readIntegerIn _ _ "i32").map Int32.ofInt

/-- Unsigned numbers of 64 bits are read from integers in their range. -/
theorem follows_readUInt64 : Follows (fun _ => readUInt64) Value.uint64? :=
  (follows_readIntegerIn _ _ "u64").map fun n => UInt64.ofNat n.toNat

/-- Nothing is read where the tree is null. -/
theorem Follows.optional (h : Follows reader view) :
    Follows (fun depth => readOptional (reader depth)) (Value.optionally view) := by
  intro depth cs rest tree htree
  have hread := treeRead_of_readTree htree
  obtain ⟨c, inner, hfront⟩ := hread.exists_front
  have hopens := hread.opensWith hfront
  by_cases hnull : c = 'n'
  · subst hnull
    have hscalar := scalarRead_of_readScalar (hread.readScalar hfront (by decide) (by decide))
    cases hscalar with
    | null hword => simp [readOptional, hfront, hword, Except.map, Value.optionally]
    | positive hdigit hword => simp at hdigit
  · have hsome : readOptional (reader depth) cs =
        (reader depth (c :: inner)).map fun (a, cs) => (some a, cs) := by
      simp only [readOptional, hfront]
      split
      next heq => exact absurd (List.cons.inj heq).1 hnull
      · rfl
    have hview : tree.optionally view = (view tree).map some := by
      cases tree with
      | null => exact absurd hopens hnull
      | _ => rfl
    have htree' : readTree depth (c :: inner) = .ok (tree, rest) := by
      rw [← hfront, readTree_skipBlank, htree]
    simp only [hsome, hview, toOption_map, h _ _ _ _ htree', Option.map_map]
    rfl

/-- Values are read from trees, with the last of equal members. -/
theorem follows_readValue : Follows readValue fun v => some v.settled := by
  intro depth cs rest tree htree
  simp only [readValue_eq_settled, Reader.mapped, htree]
  rfl

end Readers

end FailoverControl.Json
