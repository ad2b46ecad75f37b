import FailoverControl.Proofs.Json.Scalars

/-!
# Values that are passed over

A member that is no field of a record is passed over by a reader of its own, which counts no depth
and keeps no value. Here it is compared with the reader of trees, bracket by bracket.

The main statement: where a tree is read, a value is passed over, and the same rest of the text is
left (`skipValue_of_readTree`).
-/

set_option autoImplicit false

namespace FailoverControl.Json

variable {cs rest : List Char}

/-! ## Brackets, commas and keys -/

/-- An array without a further item is closed by its bracket. -/
theorem nextItem?_eq_none {first : Bool} (h : nextItem? first cs = .ok none) :
    ∃ inner, skipBlank cs = ']' :: inner := by
  unfold nextItem? at h
  split at h
  · simp at h
  next inner hfront => exact ⟨inner, hfront⟩
  · split at h
    · simp at h
    · split at h
      · split at h <;> simp at h
      · simp at h

/-- The first item of an array begins where the blanks behind the bracket end. -/
theorem nextItem?_first {front : List Char} (h : nextItem? true cs = .ok (some front)) :
    front = skipBlank cs ∧ ∃ c inner, skipBlank cs = c :: inner ∧ c ≠ ']' := by
  unfold nextItem? at h
  split at h
  · simp at h
  · simp at h
  next c inner hbracket hfront =>
    rw [if_pos rfl, Except.ok.injEq, Option.some.injEq] at h
    exact ⟨by rw [hfront, h], c, inner, hfront, hbracket⟩

/-- Every further item begins behind a comma. -/
theorem nextItem?_later {front : List Char} (h : nextItem? false cs = .ok (some front)) :
    ∃ inner, skipBlank cs = ',' :: inner ∧ front = skipBlank inner := by
  unfold nextItem? at h
  split at h
  · simp at h
  · simp at h
  next c inner hbracket hfront =>
    rw [if_neg (by decide)] at h
    split at h
    next hcomma =>
      refine ⟨inner, by rw [hfront, hcomma], ?_⟩
      split at h
      · simp at h
      · simp at h
      · exact (Option.some.inj (Except.ok.inj h)).symm
    · simp at h

/-- The end of an array is behind its bracket. -/
theorem endOfArray_of_bracket {inner : List Char} (hfront : skipBlank cs = ']' :: inner)
    (h : endOfArray cs = .ok rest) : rest = inner := by
  simp only [endOfArray, hfront, Except.ok.injEq] at h
  exact h.symm

/-- An object without a further member is closed by its brace. -/
theorem nextKey?_eq_none {first : Bool} (h : nextKey? first cs = .ok none) :
    ∃ inner, skipBlank cs = '\x7d' :: inner := by
  have hread {cs : List Char} : (readString cs).map some ≠ .ok none := by
    cases readString cs <;> simp [Except.map]
  unfold nextKey? at h
  split at h
  · simp at h
  next inner hfront => exact ⟨inner, hfront⟩
  · split at h
    · split at h
      · exact absurd h hread
      · simp at h
    · split at h
      · split at h
        · simp at h
        · exact absurd h hread
        · simp at h
        · simp at h
      · simp at h

/-- The quote of a key that was read is at the front behind the blanks. -/
theorem nextKey?_first {key : String} {behind : List Char}
    (h : nextKey? true cs = .ok (some (key, behind))) :
    ∃ inner, skipBlank cs = '"' :: inner ∧ readString inner = .ok (key, behind) := by
  unfold nextKey? at h
  split at h
  · simp at h
  · simp at h
  next c inner hbrace hfront =>
    rw [if_pos rfl] at h
    split at h
    next hquote =>
      refine ⟨inner, by rw [hfront, hquote], ?_⟩
      cases hread : readString inner with
      | error e => simp [hread, Except.map] at h
      | ok found => simpa [hread, Except.map] using h
    · simp at h

/-- A later key stands behind a comma. -/
theorem nextKey?_later {key : String} {behind : List Char}
    (h : nextKey? false cs = .ok (some (key, behind))) :
    ∃ next inner, skipBlank cs = ',' :: next ∧ skipBlank next = '"' :: inner ∧
      readString inner = .ok (key, behind) := by
  unfold nextKey? at h
  split at h
  · simp at h
  · simp at h
  next c next hbrace hfront =>
    rw [if_neg (by decide)] at h
    split at h
    next hcomma =>
      split at h
      · simp at h
      next inner hquote =>
        refine ⟨next, inner, by rw [hfront, hcomma], hquote, ?_⟩
        cases hread : readString inner with
        | error e => simp [hread, Except.map] at h
        | ok found => simpa [hread, Except.map] using h
      · simp at h
      · simp at h
    · simp at h

/-- The end of an object is behind its brace. -/
theorem endOfObject_of_brace {inner : List Char} (hfront : skipBlank cs = '\x7d' :: inner)
    (h : endOfObject cs = .ok rest) : rest = inner := by
  simp only [endOfObject, hfront, Except.ok.injEq] at h
  exact h.symm

/-- A key that can be read and the colon behind it can be passed over. -/
theorem skipKey_of_read {inner behind front : List Char} {key : String}
    (hquote : skipBlank cs = '"' :: inner) (hkey : readString inner = .ok (key, behind))
    (hcolon : skipColon behind = .ok front) : skipKey cs = .ok front := by
  obtain ⟨body, -, hbody⟩ := exists_of_map_eq_ok hkey
  simp only [skipKey, hquote, skipStringBody_of_read hbody, bind, Except.bind, hcolon]

/-- A colon shortens the text. -/
theorem length_skipColon_lt (h : skipColon cs = .ok rest) : rest.length < cs.length := by
  unfold skipColon at h
  split at h
  · simp at h
  next inner hfront =>
    cases h
    exact length_behind_lt hfront
  · simp at h

/-- A key shortens the text. -/
theorem length_skipKey_lt (h : skipKey cs = .ok rest) : rest.length < cs.length := by
  unfold skipKey at h
  split at h
  · simp at h
  next inner hquote =>
    have hinner := length_behind_lt hquote
    rcases hbody : skipStringBody inner with e | behind
    · simp [hbody, bind, Except.bind] at h
    · simp only [hbody, bind, Except.bind] at h
      have hcolon := length_skipColon_lt h
      have hstring := length_skipStringBody_lt hbody
      omega
  · simp at h

/-! ## Values -/

/-- A value has been passed over: something of the text is gone, and any sufficient bound on its
length will do. -/
structure Passed (cs rest : List Char) : Prop where
  shorter : rest.length < cs.length
  skipped : ∀ size, cs.length < size → skipWithin size cs = .ok rest

/-- Blanks in front of a value may be skipped before. -/
theorem skipWithin_skipBlank (size : Nat) (cs : List Char) :
    skipWithin size (skipBlank cs) = skipWithin size cs := by
  cases size with
  | zero => rfl
  | succ size => simp only [skipWithin, skipBlank_skipBlank]

/-- A value may be passed over with the blanks in front of it. -/
theorem Passed.of_skipBlank (h : Passed (skipBlank cs) rest) : Passed cs rest := by
  have hblank := length_skipBlank_le cs
  refine ⟨Nat.lt_of_lt_of_le h.shorter hblank, fun size hsize => ?_⟩
  rw [← skipWithin_skipBlank]
  exact h.skipped size (by omega)

/-- The rest of a text after an item of an array has been passed over. -/
def skipBehindItem (item : List Char → Except DecodeError (List Char)) (count : Nat)
    (cs : List Char) : Except DecodeError (List Char) :=
  match skipBlank cs with
  | [] => .error .endInList
  | ']' :: rest => .ok rest
  | ',' :: rest => skipItems item count rest
  | _ => .error .expectedCommaOrBracket

/-- Items are passed over one by one. -/
theorem skipItems_succ (item : List Char → Except DecodeError (List Char)) (count : Nat)
    (cs : List Char) : skipItems item (count + 1) cs = item cs >>= skipBehindItem item count :=
  rfl

/-- The rest of a text after a member of an object has been passed over. -/
def skipBehindMember (item : List Char → Except DecodeError (List Char)) (count : Nat)
    (cs : List Char) : Except DecodeError (List Char) :=
  match skipBlank cs with
  | [] => .error .endInObject
  | '\x7d' :: rest => .ok rest
  | ',' :: rest => skipMembers item count rest
  | _ => .error .expectedCommaOrBrace

/-- Members are passed over one by one. -/
theorem skipMembers_succ (item : List Char → Except DecodeError (List Char)) (count : Nat)
    (cs : List Char) :
    skipMembers item (count + 1) cs =
      skipKey cs >>= fun cs => item cs >>= skipBehindMember item count :=
  rfl

/-- Items that have been read behind an item are passed over. -/
theorem skipBehindItem_of_itemsRead {item : Reader Value} {items : List Value}
    (hitem : ∀ {cs rest : List Char} {v : Value}, item cs = .ok (v, rest) → Passed cs rest)
    (h : ItemsRead item false cs items rest) :
    rest.length < cs.length ∧ ∀ size count, cs.length < size → cs.length ≤ count →
      skipBehindItem (skipWithin size) count cs = .ok rest := by
  generalize hfirst : false = first at h
  induction h with
  | @done first cs rest hnext hend =>
    obtain ⟨inner, hfront⟩ := nextItem?_eq_none hnext
    cases endOfArray_of_bracket hfront hend
    refine ⟨length_behind_lt hfront, fun size count _ _ => ?_⟩
    simp only [skipBehindItem, hfront]
  | @more first cs front after rest a items hnext hread _ ih =>
    subst hfirst
    obtain ⟨inner, hfront, rfl⟩ := nextItem?_later hnext
    obtain ⟨hshorter, hskip⟩ := ih rfl
    have hpassed := (hitem hread).of_skipBlank
    have hafter := hpassed.shorter
    have hinner := length_behind_lt hfront
    refine ⟨by omega, fun size count hsize hcount => ?_⟩
    -- The comma in front of the item leaves room for one item less.
    obtain ⟨count, rfl⟩ : ∃ k, count = k + 1 := ⟨count - 1, by omega⟩
    simp only [skipBehindItem, hfront, skipItems_succ, hpassed.skipped size (by omega)]
    exact hskip size count (by omega) (by omega)

/-- Members that can be read can be passed over. -/
theorem skipBehindMember_of_membersRead {item : Reader Value} {members : List (String × Value)}
    (hitem : ∀ {cs rest : List Char} {v : Value}, item cs = .ok (v, rest) → Passed cs rest)
    (h : MembersRead item false cs members rest) :
    rest.length < cs.length ∧ ∀ size count, cs.length < size → cs.length ≤ count →
      skipBehindMember (skipWithin size) count cs = .ok rest := by
  generalize hfirst : false = first at h
  induction h with
  | @done first cs rest hnext hend =>
    obtain ⟨inner, hfront⟩ := nextKey?_eq_none hnext
    cases endOfObject_of_brace hfront hend
    refine ⟨length_behind_lt hfront, fun size count _ _ => ?_⟩
    simp only [skipBehindMember, hfront]
  | @more first cs behind front after rest key a members hnext hcolon hread _ ih =>
    subst hfirst
    obtain ⟨next, inner, hfront, hquote, hkey⟩ := nextKey?_later hnext
    obtain ⟨hshorter, hskip⟩ := ih rfl
    have hpassed := hitem hread
    have hafter := hpassed.shorter
    have hskipKey := skipKey_of_read hquote hkey hcolon
    have hbehind := length_skipKey_lt hskipKey
    have hinner := length_behind_lt hfront
    refine ⟨by omega, fun size count hsize hcount => ?_⟩
    obtain ⟨count, rfl⟩ : ∃ k, count = k + 1 := ⟨count - 1, by omega⟩
    simp only [skipBehindMember, hfront, skipMembers_succ, hskipKey, bind, Except.bind,
      hpassed.skipped size (by omega)]
    exact hskip size count (by omega) (by omega)

/-- A scalar that can be read can be passed over. -/
theorem passed_of_scalar {v : Value} (harray : ∀ inner, skipBlank cs ≠ '[' :: inner)
    (hobject : ∀ inner, skipBlank cs ≠ '\x7b' :: inner)
    (h : ScalarRead (skipBlank cs) v rest) : Passed cs rest := by
  have hskip := skipScalar_of_scalarRead h
  have hblank := length_skipBlank_le cs
  refine ⟨Nat.lt_of_lt_of_le (length_skipScalar_lt hskip) hblank, fun size hsize => ?_⟩
  obtain ⟨size, rfl⟩ : ∃ k, size = k + 1 := ⟨size - 1, by omega⟩
  unfold skipWithin
  split
  next inner hfront => exact absurd hfront (harray inner)
  next inner hfront => exact absurd hfront (hobject inner)
  · exact hskip

/-- An array whose items can be read can be passed over. -/
theorem passed_of_items {item : Reader Value} {items : List Value} {inner : List Char}
    (hitem : ∀ {cs rest : List Char} {v : Value}, item cs = .ok (v, rest) → Passed cs rest)
    (hfront : skipBlank cs = '[' :: inner) (h : ItemsRead item true inner items rest) :
    Passed cs rest := by
  have hinner := length_behind_lt hfront
  cases h with
  | done hnext hend =>
    obtain ⟨left, hclose⟩ := nextItem?_eq_none hnext
    cases endOfArray_of_bracket hclose hend
    have hleft := length_behind_lt hclose
    refine ⟨by omega, fun size hsize => ?_⟩
    obtain ⟨size, rfl⟩ : ∃ k, size = k + 1 := ⟨size - 1, by omega⟩
    simp only [skipWithin, hfront, hclose]
  | @more _ _ front after _ a items hnext hread hitems =>
    obtain ⟨rfl, c, left, hc, hbracket⟩ := nextItem?_first hnext
    obtain ⟨hshorter, hskip⟩ := skipBehindItem_of_itemsRead hitem hitems
    have hpassed := (hitem hread).of_skipBlank
    have hafter := hpassed.shorter
    refine ⟨by omega, fun size hsize => ?_⟩
    obtain ⟨size, rfl⟩ : ∃ k, size = k + 2 := ⟨size - 2, by omega⟩
    have hfirst : skipItems (skipWithin (size + 1)) (size + 1) inner = .ok rest := by
      rw [skipItems_succ, hpassed.skipped (size + 1) (by omega)]
      exact hskip (size + 1) size (by omega) (by omega)
    rw [skipWithin, hfront]
    simp only [hc]
    split
    next heq => exact absurd heq (List.cons_ne_nil _ _)
    next heq => exact absurd (List.cons.inj heq).1 hbracket
    · exact hfirst

/-- An object whose members can be read can be passed over. -/
theorem passed_of_members {item : Reader Value} {members : List (String × Value)}
    {inner : List Char}
    (hitem : ∀ {cs rest : List Char} {v : Value}, item cs = .ok (v, rest) → Passed cs rest)
    (hfront : skipBlank cs = '\x7b' :: inner) (h : MembersRead item true inner members rest) :
    Passed cs rest := by
  have hinner := length_behind_lt hfront
  cases h with
  | done hnext hend =>
    obtain ⟨left, hclose⟩ := nextKey?_eq_none hnext
    cases endOfObject_of_brace hclose hend
    have hleft := length_behind_lt hclose
    refine ⟨by omega, fun size hsize => ?_⟩
    obtain ⟨size, rfl⟩ : ∃ k, size = k + 1 := ⟨size - 1, by omega⟩
    simp only [skipWithin, hfront, hclose]
  | @more _ _ behind front after _ key a members hnext hcolon hread hmembers =>
    obtain ⟨left, hquote, hkey⟩ := nextKey?_first hnext
    obtain ⟨hshorter, hskip⟩ := skipBehindMember_of_membersRead hitem hmembers
    have hpassed := hitem hread
    have hafter := hpassed.shorter
    have hskipKey := skipKey_of_read hquote hkey hcolon
    have hbehind := length_skipKey_lt hskipKey
    refine ⟨by omega, fun size hsize => ?_⟩
    obtain ⟨size, rfl⟩ : ∃ k, size = k + 2 := ⟨size - 2, by omega⟩
    have hfirst : skipMembers (skipWithin (size + 1)) (size + 1) inner = .ok rest := by
      simp only [skipMembers_succ, hskipKey, bind, Except.bind,
        hpassed.skipped (size + 1) (by omega)]
      exact hskip (size + 1) size (by omega) (by omega)
    rw [skipWithin, hfront]
    simp only [hquote]
    exact hfirst

/-- Whatever is read as a tree is passed over. -/
theorem passed_of_readTree {depth : Nat} {tree : Value}
    (h : readTree depth cs = .ok (tree, rest)) : Passed cs rest := by
  induction depth generalizing cs tree rest with
  | zero =>
    cases treeRead_of_readTree h with
    | scalar harray hobject hread => exact passed_of_scalar harray hobject hread
  | succ depth ih =>
    cases treeRead_of_readTree h with
    | array hfront hitems => exact passed_of_items ih hfront hitems
    | object hfront hmembers => exact passed_of_members ih hfront hmembers
    | scalar harray hobject hread => exact passed_of_scalar harray hobject hread

/-- The text behind the colon of a member is shorter than the text in front of its key. -/
theorem length_front_lt {first : Bool} {behind front : List Char} {key : String}
    (hnext : nextKey? first cs = .ok (some (key, behind)))
    (hcolon : skipColon behind = .ok front) : front.length < cs.length := by
  cases first with
  | true =>
    obtain ⟨inner, hquote, hkey⟩ := nextKey?_first hnext
    exact length_skipKey_lt (skipKey_of_read hquote hkey hcolon)
  | false =>
    obtain ⟨next, inner, hfront, hquote, hkey⟩ := nextKey?_later hnext
    have hbehind := length_skipKey_lt (skipKey_of_read hquote hkey hcolon)
    have hinner := length_behind_lt hfront
    omega

/-! ## Passing over takes up some of the text -/

section Shorter

variable {item : List Char → Except DecodeError (List Char)}

/-- Items shorten the text when each of them does. -/
theorem length_skipItems_lt
    (hitem : ∀ {cs rest : List Char}, item cs = .ok rest → rest.length < cs.length) {count : Nat}
    (h : skipItems item count cs = .ok rest) : rest.length < cs.length := by
  induction count generalizing cs with
  | zero => simp [skipItems] at h
  | succ count ih =>
    rcases hread : item cs with e | behind
    · simp [skipItems_succ, hread, bind, Except.bind] at h
    have hbehind := hitem hread
    simp only [skipItems_succ, hread, bind, Except.bind, skipBehindItem] at h
    split at h
    · simp at h
    next inner hfront =>
      cases h
      have hrest := length_behind_lt hfront
      omega
    next inner hfront =>
      have hinner := length_behind_lt hfront
      have hrest := ih h
      omega
    · simp at h

/-- Members shorten the text when each of their values does. -/
theorem length_skipMembers_lt
    (hitem : ∀ {cs rest : List Char}, item cs = .ok rest → rest.length < cs.length) {count : Nat}
    (h : skipMembers item count cs = .ok rest) : rest.length < cs.length := by
  induction count generalizing cs with
  | zero => simp [skipMembers] at h
  | succ count ih =>
    rcases hkey : skipKey cs with e | front
    · simp [skipMembers_succ, hkey, bind, Except.bind] at h
    rcases hread : item front with e | behind
    · simp [skipMembers_succ, hkey, hread, bind, Except.bind] at h
    have hfront := length_skipKey_lt hkey
    have hbehind := hitem hread
    simp only [skipMembers_succ, hkey, hread, bind, Except.bind, skipBehindMember] at h
    split at h
    · simp at h
    next inner hclose =>
      cases h
      have hrest := length_behind_lt hclose
      omega
    next inner hcomma =>
      have hinner := length_behind_lt hcomma
      have hrest := ih h
      omega
    · simp at h

/-- Passing over a value of bounded length shortens the text. -/
theorem length_skipWithin_lt {size : Nat} (h : skipWithin size cs = .ok rest) :
    rest.length < cs.length := by
  induction size generalizing cs rest with
  | zero => simp [skipWithin] at h
  | succ size ih =>
    have hblank := length_skipBlank_le cs
    unfold skipWithin at h
    split at h
    next inner hfront =>
      have hinner := length_behind_lt hfront
      split at h
      · simp at h
      next left hclose =>
        cases h
        have hrest := length_behind_lt hclose
        omega
      · have hitems := length_skipItems_lt ih h
        omega
    next inner hfront =>
      have hinner := length_behind_lt hfront
      split at h
      · simp at h
      next left hclose =>
        cases h
        have hrest := length_behind_lt hclose
        omega
      · have hmembers := length_skipMembers_lt ih h
        omega
    · have hscalar := length_skipScalar_lt h
      omega

/-- Passing over a value shortens the text. -/
theorem length_skipValue_lt (h : skipValue cs = .ok rest) : rest.length < cs.length :=
  length_skipWithin_lt h

end Shorter

/-- A value that can be read with the members of its objects can be passed over, and the same rest
is left. -/
theorem skipValue_of_readTree {depth : Nat} {tree : Value}
    (h : readTree depth cs = .ok (tree, rest)) : skipValue cs = .ok rest :=
  (passed_of_readTree h).skipped _ (Nat.lt_succ_self _)

end FailoverControl.Json
