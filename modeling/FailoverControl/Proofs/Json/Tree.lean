import FailoverControl.Json.Parser
import Mathlib.Data.List.DropRight
import Mathlib.Tactic.Common

/-!
# The members of an object as the text has them

A value keeps one member a key, so what a reader of records meets in a text cannot be seen in it.
`readTree` reads the same texts as `readValue` and keeps every member of an object where it stands
in the text, repeated keys included; `Value.settled` is what remains of such a tree when of two
members with the same key the later one stays.

The main statement: a text is read to a value exactly when it is read to a tree, and the value is
the settled tree (`readValue_eq_settled`).
-/

set_option autoImplicit false

namespace FailoverControl.Json

/-! ## Blanks -/

/-- Blanks are skipped all at once. -/
@[simp]
theorem skipBlank_skipBlank (cs : List Char) : skipBlank (skipBlank cs) = skipBlank cs :=
  List.dropWhile_idempotent isSeparator cs

/-- Skipping blanks does not lengthen the text. -/
theorem length_skipBlank_le (cs : List Char) : (skipBlank cs).length ≤ cs.length :=
  (List.dropWhile_suffix _).length_le

/-- What stands behind the first character after blanks is shorter. -/
theorem length_behind_lt {c : Char} {cs inner : List Char} (h : skipBlank cs = c :: inner) :
    inner.length < cs.length := by
  have hblank := length_skipBlank_le cs
  rwa [h] at hblank

/-! ## Trees -/

/-- A value with at most `depth` arrays and objects inside one another, whose objects keep their
members in the order of the text. -/
def readTree : (depth : Nat) → Reader Value
  | 0, cs =>
    match skipBlank cs with
    | '[' :: _ => .error .tooDeep
    | '\x7b' :: _ => .error .tooDeep
    | cs => readScalar cs
  | depth + 1, cs =>
    match skipBlank cs with
    | '[' :: rest => (readArray (readTree depth) rest).map fun (items, cs) => (.array items, cs)
    | '\x7b' :: rest =>
      (readObject (readTree depth) rest).map fun (members, cs) => (.object members, cs)
    | cs => readScalar cs

/-- Blanks in front of a tree do not count. -/
theorem readTree_skipBlank (depth : Nat) (cs : List Char) :
    readTree depth (skipBlank cs) = readTree depth cs := by
  cases depth <;> simp only [readTree, skipBlank_skipBlank]

/-- What is neither an array nor an object is read as a scalar. -/
theorem readTree_of_scalar (depth : Nat) {cs : List Char}
    (harray : ∀ inner, skipBlank cs ≠ '[' :: inner)
    (hobject : ∀ inner, skipBlank cs ≠ '\x7b' :: inner) :
    readTree depth cs = readScalar (skipBlank cs) := by
  cases depth with
  | zero =>
    unfold readTree
    split
    next inner hfront => exact absurd hfront (harray inner)
    next inner hfront => exact absurd hfront (hobject inner)
    · rfl
  | succ depth =>
    unfold readTree
    split
    next inner hfront => exact absurd hfront (harray inner)
    next inner hfront => exact absurd hfront (hobject inner)
    · rfl

mutual

/-- A tree as a value: of two members with the same key the later one stays. -/
def Value.settled : Value → Value
  | .null => .null
  | .bool b => .bool b
  | .integer n => .integer n
  | .float x => .float x
  | .string s => .string s
  | .array items => .array (settledItems items)
  | .object members => .ofMembers (settledMembers members)

/-- The items of an array as values. -/
def settledItems : List Value → List Value
  | [] => []
  | v :: rest => v.settled :: settledItems rest

/-- The members of an object with their trees as values. -/
def settledMembers : List (String × Value) → List (String × Value)
  | [] => []
  | (key, v) :: rest => (key, v.settled) :: settledMembers rest

end

/-- The items of an array are settled one by one. -/
theorem settledItems_eq_map (items : List Value) :
    settledItems items = items.map Value.settled := by
  induction items with
  | nil => rfl
  | cons v rest ih => rw [settledItems, ih, List.map_cons]

/-- The members of an object are settled one by one. -/
theorem settledMembers_eq_map (members : List (String × Value)) :
    settledMembers members = members.map (Prod.map id Value.settled) := by
  induction members with
  | nil => rfl
  | cons m rest ih => rw [settledMembers, ih, List.map_cons, Prod.map, id]

/-- The tree of a whole text. -/
def parseTree (text : String) : Except DecodeError Value :=
  readAll (readTree maxDepth) text

/-! ## What has been read -/

section Read

variable {α β : Type}

/-- What is made of something that has been read leaves the rest of the text as it is. -/
theorem exists_of_map_eq_ok {read : Except DecodeError (α × List Char)} {make : α → β} {b : β}
    {rest : List Char} (h : (read.map fun (a, cs) => (make a, cs)) = .ok (b, rest)) :
    ∃ a, b = make a ∧ read = .ok (a, rest) := by
  cases read with
  | error e => simp [Except.map] at h
  | ok found =>
    obtain ⟨rfl, rfl⟩ := Prod.mk.inj (Except.ok.inj h)
    exact ⟨found.1, rfl, rfl⟩

/-- The items of an array have been read one by one, and its closing bracket is behind them. -/
inductive ItemsRead (item : Reader α) : Bool → List Char → List α → List Char → Prop
  | done {first : Bool} {cs rest : List Char} (hnext : nextItem? first cs = .ok none)
      (hend : endOfArray cs = .ok rest) : ItemsRead item first cs [] rest
  | more {first : Bool} {cs front after rest : List Char} {a : α} {items : List α}
      (hnext : nextItem? first cs = .ok (some front)) (hitem : item front = .ok (a, after))
      (hitems : ItemsRead item false after items rest) : ItemsRead item first cs (a :: items) rest

/-- The members of an object have been read one by one, and its closing brace is behind them. -/
inductive MembersRead (item : Reader α) : Bool → List Char → List (String × α) → List Char → Prop
  | done {first : Bool} {cs rest : List Char} (hnext : nextKey? first cs = .ok none)
      (hend : endOfObject cs = .ok rest) : MembersRead item first cs [] rest
  | more {first : Bool} {cs behind front after rest : List Char} {key : String} {a : α}
      {members : List (String × α)} (hnext : nextKey? first cs = .ok (some (key, behind)))
      (hcolon : skipColon behind = .ok front) (hitem : item front = .ok (a, after))
      (hmembers : MembersRead item false after members rest) :
      MembersRead item first cs ((key, a) :: members) rest

variable {item : Reader α}

/-- Items that are read up to the end of their array stand in it. -/
theorem itemsRead_of_readItems {count : Nat} {first : Bool} {cs after rest : List Char}
    {items : List α} (h : readItems item count first cs = .ok (items, after))
    (hend : endOfArray after = .ok rest) : ItemsRead item first cs items rest := by
  induction count generalizing first cs items with
  | zero => simp [readItems] at h
  | succ count ih =>
    simp only [readItems, bind, Except.bind] at h
    rcases hnext : nextItem? first cs with e | _ | front
    · simp [hnext] at h
    · obtain ⟨rfl, rfl⟩ : items = [] ∧ after = cs := by
        simpa [hnext, pure, Except.pure, eq_comm] using h
      exact .done hnext hend
    rcases hitem : item front with e | ⟨a, behind⟩
    · simp [hnext, hitem] at h
    rcases hread : readItems item count false behind with e | ⟨others, left⟩
    · simp [hnext, hitem, hread] at h
    obtain ⟨rfl, rfl⟩ : items = a :: others ∧ after = left := by
      simpa [hnext, hitem, hread, pure, Except.pure, eq_comm] using h
    exact .more hnext hitem (ih hread)

/-- Members that are read up to the end of their object stand in it. -/
theorem membersRead_of_readMembers {count : Nat} {first : Bool} {cs after rest : List Char}
    {members : List (String × α)} (h : readMembers item count first cs = .ok (members, after))
    (hend : endOfObject after = .ok rest) : MembersRead item first cs members rest := by
  induction count generalizing first cs members with
  | zero => simp [readMembers] at h
  | succ count ih =>
    simp only [readMembers, bind, Except.bind] at h
    rcases hnext : nextKey? first cs with e | _ | ⟨key, behind⟩
    · simp [hnext] at h
    · obtain ⟨rfl, rfl⟩ : members = [] ∧ after = cs := by
        simpa [hnext, pure, Except.pure, eq_comm] using h
      exact .done hnext hend
    rcases hcolon : skipColon behind with e | front
    · simp [hnext, hcolon] at h
    rcases hitem : item front with e | ⟨a, behind⟩
    · simp [hnext, hcolon, hitem] at h
    rcases hread : readMembers item count false behind with e | ⟨others, left⟩
    · simp [hnext, hcolon, hitem, hread] at h
    obtain ⟨rfl, rfl⟩ : members = (key, a) :: others ∧ after = left := by
      simpa [hnext, hcolon, hitem, hread, pure, Except.pure, eq_comm] using h
    exact .more hnext hcolon hitem (ih hread)

/-- The items of an array that is read stand in it. -/
theorem itemsRead_of_readArray {cs rest : List Char} {items : List α}
    (h : readArray item cs = .ok (items, rest)) : ItemsRead item true cs items rest := by
  simp only [readArray, bind, Except.bind] at h
  rcases hread : readItems item (cs.length + 1) true cs with e | ⟨others, after⟩
  · simp [hread] at h
  rcases hend : endOfArray after with e | left
  · simp [hread, hend] at h
  obtain ⟨rfl, rfl⟩ : items = others ∧ rest = left := by
    simpa [hread, hend, pure, Except.pure, eq_comm] using h
  exact itemsRead_of_readItems hread hend

/-- The members of an object that is read stand in it. -/
theorem membersRead_of_readObject {cs rest : List Char} {members : List (String × α)}
    (h : readObject item cs = .ok (members, rest)) : MembersRead item true cs members rest := by
  simp only [readObject, bind, Except.bind] at h
  rcases hread : readMembers item (cs.length + 1) true cs with e | ⟨others, after⟩
  · simp [hread] at h
  rcases hend : endOfObject after with e | left
  · simp [hread, hend] at h
  obtain ⟨rfl, rfl⟩ : members = others ∧ rest = left := by
    simpa [hread, hend, pure, Except.pure, eq_comm] using h
  exact membersRead_of_readMembers hread hend

end Read

/-- A word, a string or a numeral that has been read. -/
inductive ScalarRead : List Char → Value → List Char → Prop
  | null {word rest : List Char} (hread : skipWord ['u', 'l', 'l'] word = .ok rest) :
      ScalarRead ('n' :: word) .null rest
  | true {word rest : List Char} (hread : skipWord ['r', 'u', 'e'] word = .ok rest) :
      ScalarRead ('t' :: word) (.bool true) rest
  | false {word rest : List Char} (hread : skipWord ['a', 'l', 's', 'e'] word = .ok rest) :
      ScalarRead ('f' :: word) (.bool false) rest
  | string {inner rest : List Char} {s : String} (hread : readString inner = .ok (s, rest)) :
      ScalarRead ('"' :: inner) (.string s) rest
  | negative {digits rest : List Char} {n : Numeral}
      (hread : readNumeral true digits = .ok (n, rest)) : ScalarRead ('-' :: digits) n.toValue rest
  | positive {c : Char} {digits rest : List Char} {n : Numeral} (hdigit : c.isDigit = true)
      (hread : readNumeral false (c :: digits) = .ok (n, rest)) :
      ScalarRead (c :: digits) n.toValue rest

/-- A scalar that is read stands in front of the text. -/
theorem scalarRead_of_readScalar {cs rest : List Char} {v : Value}
    (h : readScalar cs = .ok (v, rest)) : ScalarRead cs v rest := by
  have hword {word cs : List Char} {w : Value}
      (h : ((skipWord word cs).map fun cs => (w, cs)) = .ok (v, rest)) :
      v = w ∧ skipWord word cs = .ok rest := by
    cases hskip : skipWord word cs with
    | error e => simp [hskip, Except.map] at h
    | ok left =>
      rw [hskip] at h
      obtain ⟨rfl, rfl⟩ := Prod.mk.inj (Except.ok.inj h)
      exact ⟨rfl, rfl⟩
  unfold readScalar at h
  split at h
  · simp at h
  · obtain ⟨rfl, hread⟩ := hword h
    exact .null hread
  · obtain ⟨rfl, hread⟩ := hword h
    exact .true hread
  · obtain ⟨rfl, hread⟩ := hword h
    exact .false hread
  · obtain ⟨s, rfl, hread⟩ := exists_of_map_eq_ok h
    exact .string hread
  · obtain ⟨n, rfl, hread⟩ := exists_of_map_eq_ok h
    exact .negative hread
  · split at h
    next hdigit =>
      obtain ⟨n, rfl, hread⟩ := exists_of_map_eq_ok h
      exact .positive hdigit hread
    · simp at h

/-- A tree that has been read: an array, an object or a scalar. -/
inductive TreeRead : Nat → List Char → Value → List Char → Prop
  | array {depth : Nat} {cs inner rest : List Char} {items : List Value}
      (hfront : skipBlank cs = '[' :: inner)
      (hitems : ItemsRead (readTree depth) true inner items rest) :
      TreeRead (depth + 1) cs (.array items) rest
  | object {depth : Nat} {cs inner rest : List Char} {members : List (String × Value)}
      (hfront : skipBlank cs = '\x7b' :: inner)
      (hmembers : MembersRead (readTree depth) true inner members rest) :
      TreeRead (depth + 1) cs (.object members) rest
  | scalar {depth : Nat} {cs rest : List Char} {v : Value}
      (harray : ∀ inner, skipBlank cs ≠ '[' :: inner)
      (hobject : ∀ inner, skipBlank cs ≠ '\x7b' :: inner)
      (hread : ScalarRead (skipBlank cs) v rest) : TreeRead depth cs v rest

/-- A tree that is read stands in front of the text. -/
theorem treeRead_of_readTree {depth : Nat} {cs rest : List Char} {tree : Value}
    (h : readTree depth cs = .ok (tree, rest)) : TreeRead depth cs tree rest := by
  cases depth with
  | zero =>
    unfold readTree at h
    split at h
    · simp at h
    · simp at h
    next harray hobject => exact .scalar harray hobject (scalarRead_of_readScalar h)
  | succ depth =>
    unfold readTree at h
    split at h
    next inner hfront =>
      obtain ⟨items, rfl, hread⟩ := exists_of_map_eq_ok h
      exact .array hfront (itemsRead_of_readArray hread)
    next inner hfront =>
      obtain ⟨members, rfl, hread⟩ := exists_of_map_eq_ok h
      exact .object hfront (membersRead_of_readObject hread)
    next harray hobject => exact .scalar harray hobject (scalarRead_of_readScalar h)

/-! ## Reading a part of what was read -/

section Mapped

variable {α β : Type}

/-- A reader that makes something of what another reader read. -/
def Reader.mapped (f : α → β) (reader : Reader α) : Reader β := fun cs =>
  (reader cs).map (Prod.map f id)

variable (f : α → β) (item : Reader α)

/-- Items may be changed while they are read or afterwards. -/
theorem readItems_mapped (count : Nat) (first : Bool) (cs : List Char) :
    readItems (item.mapped f) count first cs =
      (readItems item count first).mapped (List.map f) cs := by
  induction count generalizing first cs with
  | zero => rfl
  | succ count ih =>
    simp only [readItems, Reader.mapped]
    rcases nextItem? first cs with e | _ | cs
    · rfl
    · rfl
    · rcases hitem : item cs with e | ⟨a, cs⟩
      · simp [bind, Except.bind, hitem, Except.map]
      · have hrest := ih false cs
        cases hread : readItems item count false cs <;>
          simp [bind, Except.bind, Reader.mapped, hitem, Except.map, hrest, hread, pure,
            Except.pure]

/-- Values of members may be changed while they are read or afterwards. -/
theorem readMembers_mapped (count : Nat) (first : Bool) (cs : List Char) :
    readMembers (item.mapped f) count first cs =
      (readMembers item count first).mapped (List.map (Prod.map id f)) cs := by
  induction count generalizing first cs with
  | zero => rfl
  | succ count ih =>
    simp only [readMembers, Reader.mapped]
    rcases nextKey? first cs with e | _ | ⟨key, cs⟩
    · rfl
    · rfl
    · rcases hcolon : skipColon cs with e | cs
      · simp [bind, Except.bind, Except.map, hcolon]
      rcases hitem : item cs with e | ⟨a, cs⟩
      · simp [bind, Except.bind, hcolon, hitem, Except.map]
      · have hrest := ih false cs
        cases hread : readMembers item count false cs <;>
          simp [bind, Except.bind, Reader.mapped, hcolon, hitem, Except.map, hrest, hread, pure,
            Except.pure]

/-- An array may be changed item by item while it is read or afterwards. -/
theorem readArray_mapped (cs : List Char) :
    readArray (item.mapped f) cs = (readArray item).mapped (List.map f) cs := by
  simp only [readArray, Reader.mapped, readItems_mapped]
  rcases readItems item (cs.length + 1) true cs with e | ⟨items, cs⟩
  · rfl
  · cases hend : endOfArray cs <;> simp [Except.map, bind, Except.bind, pure, Except.pure, hend]

/-- An object may be changed value by value while it is read or afterwards. -/
theorem readObject_mapped (cs : List Char) :
    readObject (item.mapped f) cs = (readObject item).mapped (List.map (Prod.map id f)) cs := by
  simp only [readObject, Reader.mapped, readMembers_mapped]
  rcases readMembers item (cs.length + 1) true cs with e | ⟨members, cs⟩
  · rfl
  · cases hend : endOfObject cs <;> simp [Except.map, bind, Except.bind, pure, Except.pure, hend]

end Mapped

/-! ## Values as settled trees -/

/-- Numerals are settled. -/
theorem settled_toValue (n : Numeral) : n.toValue.settled = n.toValue := by
  cases n <;> rfl

/-- A scalar has no members to settle. -/
theorem readScalar_mapped (cs : List Char) :
    Reader.mapped Value.settled readScalar cs = readScalar cs := by
  unfold Reader.mapped readScalar
  split
  · rfl
  · cases skipWord ['u', 'l', 'l'] _ <;> rfl
  · cases skipWord ['r', 'u', 'e'] _ <;> rfl
  · cases skipWord ['a', 'l', 's', 'e'] _ <;> rfl
  · cases readString _ <;> rfl
  · cases readNumeral true _ with
    | error e => rfl
    | ok read => simp [Except.map, settled_toValue]
  · split
    · cases readNumeral false _ with
      | error e => rfl
      | ok read => simp [Except.map, settled_toValue]
    · rfl

/-- A text is read to a value exactly when it is read to a tree, and the value is that tree with
the later of two members with the same key. -/
theorem readValue_eq_settled (depth : Nat) (cs : List Char) :
    readValue depth cs = (readTree depth).mapped Value.settled cs := by
  have hscalar (depth : Nat) {cs : List Char} (harray : ∀ inner, skipBlank cs ≠ '[' :: inner)
      (hobject : ∀ inner, skipBlank cs ≠ '\x7b' :: inner) :
      readScalar (skipBlank cs) = (readTree depth).mapped Value.settled cs := by
    rw [Reader.mapped, readTree_of_scalar depth harray hobject]
    exact (readScalar_mapped _).symm
  induction depth generalizing cs with
  | zero =>
    unfold readValue
    split
    next inner hfront => simp only [Reader.mapped, readTree, hfront, Except.map]
    next inner hfront => simp only [Reader.mapped, readTree, hfront, Except.map]
    next harray hobject => exact hscalar 0 harray hobject
  | succ depth ih =>
    have hitem : readValue depth = (readTree depth).mapped Value.settled := funext ih
    unfold readValue
    split
    next inner hfront =>
      simp only [hitem, readArray_mapped, Reader.mapped, readTree, hfront]
      cases readArray (readTree depth) inner <;>
        simp [Except.map, Value.settled, settledItems_eq_map]
    next inner hfront =>
      simp only [hitem, readObject_mapped, Reader.mapped, readTree, hfront]
      cases readObject (readTree depth) inner <;>
        simp [Except.map, Value.settled, settledMembers_eq_map]
    next harray hobject => exact hscalar (depth + 1) harray hobject

/-- A whole text has a value exactly when it has a tree. -/
theorem parse_eq_settled (text : String) : parse text = (parseTree text).map Value.settled := by
  simp only [parse, parseTree, readAll, readValue_eq_settled, Reader.mapped]
  cases readTree maxDepth text.toList with
  | error e => rfl
  | ok read =>
    simp only [Except.map, Prod.map, id]
    cases skipBlank read.2 <;> rfl

end FailoverControl.Json
