import FailoverControl.Proofs.Json.Grammar
import FailoverControl.Proofs.Json.Written

/-!
# Values that are read in the same way everywhere

What a reader makes of a value does not depend on what stands around the value: it makes the same of
it in front of every text that does not carry on a numeral, and leaves that text, or refuses the
value everywhere.

The main statement: trees are read in the same way from every value of the grammar
(`steady_readTree`).
-/

set_option autoImplicit false

namespace FailoverControl.Json

variable {α : Type} {before rest : List Char}

/-! ## Steady readers -/

/-- What a reader makes of a text that stands alone. -/
def Reader.alone (reader : Reader α) (v : List Char) : Option α :=
  (reader v).toOption.map Prod.fst

/-- A reader makes the same of a text wherever it stands, and leaves what stands behind it. -/
def Reader.Steady (reader : Reader α) (v : List Char) : Prop :=
  ∀ ⦃before rest : List Char⦄, Blanks before → EndsNumeral rest →
    (reader (before ++ (v ++ rest))).toOption = (reader.alone v).map fun a => (a, rest)

/-- What is made of a text everywhere is made of the text alone. -/
theorem Reader.alone_of_made {reader : Reader α} {v : List Char} {made : Option α}
    (h : ∀ ⦃before rest : List Char⦄, Blanks before → EndsNumeral rest →
      (reader (before ++ (v ++ rest))).toOption = made.map fun a => (a, rest)) :
    reader.alone v = made := by
  have halone := h blanks_nil endsNumeral_nil
  rw [List.nil_append, List.append_nil] at halone
  rw [Reader.alone, halone, Option.map_map]
  exact Option.map_id'

/-- A reader that makes one thing of a text everywhere is steady. -/
theorem Reader.steady_of_made {reader : Reader α} {v : List Char} (made : Option α)
    (h : ∀ ⦃before rest : List Char⦄, Blanks before → EndsNumeral rest →
      (reader (before ++ (v ++ rest))).toOption = made.map fun a => (a, rest)) :
    reader.Steady v := by
  intro before rest hbefore hrest
  rw [alone_of_made h, h hbefore hrest]

/-! ## Strings -/

/-- The string between two quotes, if it can be read. -/
def spelled? (body : List Char) : Option String :=
  (readString (body ++ ['"'])).toOption.map Prod.fst

/-- A string is read as the text that it spells. -/
theorem readString_of_spells {body s : List Char} (h : Spells body s) (rest : List Char) :
    readString (body ++ '"' :: rest) = .ok (String.ofList s, rest) := by
  rw [readString, readStringBody_of_spells h]
  rfl

/-- The string between two quotes is the text that it spells. -/
theorem spelled?_of_spells {body s : List Char} (h : Spells body s) :
    spelled? body = some (String.ofList s) := by
  rw [spelled?, readString_of_spells h]
  rfl

/-- A string is read in the same way whatever stands behind its closing quote. -/
theorem readString_body {body : List Char} (h : StringBody body) (rest : List Char) :
    (readString (body ++ '"' :: rest)).toOption = (spelled? body).map fun s => (s, rest) := by
  have hspells {rest left : List Char} {s : String}
      (hread : readString (body ++ '"' :: rest) = .ok (s, left)) :
      ∃ cs, s = String.ofList cs ∧ Spells body cs := by
    obtain ⟨cs, rfl, hbody⟩ := exists_of_map_eq_ok hread
    have hsame : rest = left := Except.ok.inj
      ((skipStringBody_of_stringBody h rest).symm.trans (skipStringBody_of_read hbody))
    obtain ⟨body', hcs, hspells⟩ := exists_spells_of_read hbody
    rw [hsame] at hcs
    rw [List.append_cancel_right hcs]
    exact ⟨cs, rfl, hspells⟩
  cases hread : readString (body ++ '"' :: rest) with
  | ok found =>
    obtain ⟨cs, hs, hbody⟩ := hspells hread
    rw [readString_of_spells hbody] at hread
    rw [spelled?_of_spells hbody, ← Except.ok.inj hread]
    rfl
  | error e =>
    cases halone : readString (body ++ ['"']) with
    | ok found =>
      obtain ⟨cs, hs, hbody⟩ := hspells halone
      rw [readString_of_spells hbody] at hread
      cases hread
    | error e => simp [spelled?, halone]

/-! ## Numerals -/

section Numerals

variable (negative : Bool)

/-- A reader makes one thing of a text in front of whatever does not carry on a numeral. -/
def Reader.Fixed (reader : Reader α) (cs : List Char) : Prop :=
  ∃ made : Except DecodeError α, ∀ ⦃rest : List Char⦄, EndsNumeral rest →
    reader (cs ++ rest) = made.map fun a => (a, rest)

/-- The digits of an exponent are read in one way. -/
theorem fixed_readExponentDigits {ds : List Char} (hds : Digits ds) (significand : Nat)
    (start : Int) (negativeExponent : Bool) :
    Reader.Fixed (readExponentDigits negative significand start negativeExponent) ds := by
  have hempty : ds.isEmpty = false := List.isEmpty_eq_false_iff.mpr hds.1
  by_cases hlarge : maxExponent < Decimal.ofDigits ds
  · refine ⟨if significand ≠ 0 && !negativeExponent then .error .numberOutOfRange
      else .ok (.float (.zero negative)), fun rest hrest => ?_⟩
    have hend : ∀ c ∈ rest.head?, c.isDigit = false := fun c hc => (hrest c hc).1
    simp only [readExponentDigits, takeWhile_digits hds.2 hend, dropWhile_digits hds.2 hend, hempty,
      Bool.false_eq_true, if_false, if_pos hlarge]
    split <;> rfl
  · refine ⟨floatNumeral negative significand (start +
      (if negativeExponent then -(Decimal.ofDigits ds : Int) else Decimal.ofDigits ds)),
      fun rest hrest => ?_⟩
    have hend : ∀ c ∈ rest.head?, c.isDigit = false := fun c hc => (hrest c hc).1
    simp only [readExponentDigits, takeWhile_digits hds.2 hend, dropWhile_digits hds.2 hend, hempty,
      Bool.false_eq_true, if_false, if_neg hlarge]

/-- What may follow a fraction is read in one way. -/
theorem fixed_readAfterFraction {exponent : List Char} (h : IsExponent exponent)
    (significand : Nat) (start : Int) :
    Reader.Fixed (readAfterFraction negative significand start) exponent := by
  cases h with
  | absent =>
    refine ⟨floatNumeral negative significand start, fun rest hrest => ?_⟩
    rw [List.nil_append]
    unfold readAfterFraction
    split
    · exact absurd rfl (hrest 'e' rfl).2.2.1
    · exact absurd rfl (hrest 'E' rfl).2.2.2
    · rfl
  | @present mark sign ds hmark hsign hds =>
    have hexponent : Reader.Fixed (readExponent negative significand start) (sign ++ ds) := by
      rcases hsign with rfl | rfl | rfl
      · obtain ⟨made, hmade⟩ := fixed_readExponentDigits negative hds significand
          start false
        refine ⟨made, fun rest hrest => ?_⟩
        have hhead := hds.head?_any rest
        rw [List.nil_append]
        unfold readExponent
        split
        next heq => simp [heq] at hhead
        next heq => simp [heq] at hhead
        · exact hmade hrest
      · exact fixed_readExponentDigits negative hds significand start false
      · exact fixed_readExponentDigits negative hds significand start true
    rcases hmark with rfl | rfl
    · exact hexponent
    · exact hexponent

/-- What may follow a whole part is read in one way. -/
theorem fixed_readAfterWhole {fraction exponent : List Char} (h : IsFraction fraction)
    (hexponent : IsExponent exponent) (significand dropped : Nat) :
    Reader.Fixed (readAfterWhole negative significand dropped) (fraction ++ exponent) := by
  cases h with
  | absent =>
    cases hexponent with
    | absent =>
      refine ⟨if dropped = 0 then wholeNumeral negative significand
        else floatNumeral negative significand dropped, fun rest hrest => ?_⟩
      rw [List.append_nil, List.nil_append]
      unfold readAfterWhole
      split
      · exact absurd rfl (hrest '.' rfl).2.1
      · exact absurd rfl (hrest 'e' rfl).2.2.1
      · exact absurd rfl (hrest 'E' rfl).2.2.2
      · split <;> rfl
    | present hmark hsign hds =>
      -- Behind the whole part and behind a fraction an exponent is read alike.
      obtain ⟨made, hmade⟩ := fixed_readAfterFraction negative
        (.present hmark hsign hds) significand dropped
      refine ⟨made, fun rest hrest => ?_⟩
      rw [← hmade hrest]
      rcases hmark with rfl | rfl <;> rfl
  | @present ds hds =>
    have hempty : ds.isEmpty = false := List.isEmpty_eq_false_iff.mpr hds.1
    obtain ⟨made, hmade⟩ := fixed_readAfterFraction negative hexponent
      (absorbDigits significand ds).1
      ((dropped : Int) - ((ds.length : Int) - (absorbDigits significand ds).2.length))
    refine ⟨made, fun rest hrest => ?_⟩
    have hend := hexponent.not_digit hrest
    rw [List.cons_append, List.cons_append, List.append_assoc]
    show readFraction negative significand dropped (ds ++ (exponent ++ rest)) = _
    simp only [readFraction, takeWhile_digits hds.2 hend, dropWhile_digits hds.2 hend, hempty,
      Bool.false_eq_true, if_false]
    exact hmade hrest

/-- A numeral is read in one way behind its sign. -/
theorem fixed_readNumeral {cs : List Char} (h : IsUnsigned cs) :
    Reader.Fixed (readNumeral negative) cs := by
  obtain ⟨hwhole, hfraction, hexponent⟩ := h
  cases hwhole with
  | zero =>
    obtain ⟨made, hmade⟩ := fixed_readAfterWhole negative hfraction hexponent 0 0
    refine ⟨made, fun rest hrest => ?_⟩
    have hend := head?_any_of_not_digit (hfraction.not_digit hexponent hrest)
    rw [List.append_assoc, List.append_assoc, List.singleton_append, readNumeral, hend,
      if_neg Bool.false_ne_true, ← List.append_assoc, hmade hrest]
  | @positive c ds hc hzero hds =>
    have hdigits : ∀ d ∈ c :: ds, d.isDigit = true := List.forall_mem_cons.mpr ⟨hc, hds⟩
    obtain ⟨made, hmade⟩ := fixed_readAfterWhole negative hfraction hexponent
      (absorbDigits 0 (c :: ds)).1 (absorbDigits 0 (c :: ds)).2.length
    refine ⟨made, fun rest hrest => ?_⟩
    have hend := hfraction.not_digit hexponent hrest
    have htake := takeWhile_digits hdigits hend
    have hdrop := dropWhile_digits hdigits hend
    rw [List.append_assoc, List.append_assoc]
    rw [List.cons_append] at htake hdrop ⊢
    rw [readNumeral, if_pos hc]
    · simp only [htake, hdrop]
      rw [← List.append_assoc, hmade hrest]
    · exact hzero

end Numerals

/-! ## Scalars -/

/-- A text that is no array and no object is read as a scalar. -/
theorem steady_readTree_of_scalar (made : Option Value) {v : List Char} {c : Char}
    {inner : List Char} (hv : v = c :: inner) (hblank : isSeparator c = false) (harray : c ≠ '[')
    (hobject : c ≠ '\x7b')
    (h : ∀ ⦃rest : List Char⦄, EndsNumeral rest →
      (readScalar (v ++ rest)).toOption = made.map fun a => (a, rest)) (depth : Nat) :
    (readTree depth).Steady v := by
  apply Reader.steady_of_made made
  intro before rest hbefore hrest
  have hfront : skipBlank (before ++ (v ++ rest)) = c :: (inner ++ rest) := by
    rw [hv, List.cons_append]
    exact skipBlank_blanks_append hbefore hblank _
  have hnoArray : ∀ left, skipBlank (before ++ (v ++ rest)) ≠ '[' :: left := by
    intro left heq
    exact harray (List.cons.inj (hfront.symm.trans heq)).1
  have hnoObject : ∀ left, skipBlank (before ++ (v ++ rest)) ≠ '\x7b' :: left := by
    intro left heq
    exact hobject (List.cons.inj (hfront.symm.trans heq)).1
  rw [readTree_of_scalar depth hnoArray hnoObject, hfront, ← List.cons_append, ← hv, h hrest]

/-- One thing is made of a numeral in front of whatever does not carry it on. -/
theorem exists_made_readScalar {v : List Char} (h : IsNumeral v) :
    ∃ made : Option Value, ∀ ⦃rest : List Char⦄, EndsNumeral rest →
      (readScalar (v ++ rest)).toOption = made.map fun a => (a, rest) := by
  cases h with
  | negative h =>
    obtain ⟨made, hmade⟩ := fixed_readNumeral true h
    refine ⟨made.toOption.map Numeral.toValue, fun rest hrest => ?_⟩
    rw [List.cons_append, readScalar, hmade hrest]
    cases made <;> rfl
  | unsigned h =>
    obtain ⟨made, hmade⟩ := fixed_readNumeral false h
    refine ⟨made.toOption.map Numeral.toValue, fun rest hrest => ?_⟩
    have hread := hmade hrest
    obtain ⟨c, inner, rfl, hc⟩ := h.exists_digit
    rw [List.cons_append] at hread ⊢
    rw [readScalar, if_pos hc, hread]
    · cases made <;> rfl
    all_goals exact ne_of_isDigit hc rfl

/-! ## Brackets, commas and keys -/

section Tokens

variable {blank : List Char}

/-- There are no more pieces than characters. -/
theorem length_le_piecesFrom (close : Char) (first : Bool) (pieces : List (List Char))
    (rest : List Char) : pieces.length ≤ (piecesFrom close first pieces rest).length := by
  have hlater (pieces : List (List Char)) :
      pieces.length < (piecesFrom close false pieces rest).length := by
    induction pieces with
    | nil => simp [piecesFrom]
    | cons piece pieces ih =>
      simp only [piecesFrom, List.length_cons, List.length_append]
      omega
  cases pieces with
  | nil => exact Nat.zero_le _
  | cons piece pieces =>
    have hpieces := hlater pieces
    cases first <;>
      simp only [piecesFrom, List.length_cons, List.length_append] <;> omega

/-- The item that is due is found behind the blanks. -/
theorem nextItem?_piecesFrom {item : Padded} (h : IsJson item.core) (hblank : Blanks blank)
    (first : Bool) (pieces : List (List Char)) (rest : List Char) :
    nextItem? first (blank ++ piecesFrom ']' first (item.text :: pieces) rest) =
      .ok (some (item.core ++ (item.after ++ piecesFrom ']' false pieces rest))) := by
  obtain ⟨c, inner, hcore, hc, hbracket⟩ := h.exists_front
  have hfront : skipBlank (item.text ++ piecesFrom ']' false pieces rest) =
      c :: (inner ++ (item.after ++ piecesFrom ']' false pieces rest)) := by
    rw [Padded.text_append, hcore]
    exact skipBlank_blanks_append item.blank_before hc _
  rw [hcore]
  cases first with
  | true =>
    rw [piecesFrom, nextItem?, skipBlank_append hblank, hfront]
    simp
  | false =>
    rw [piecesFrom, nextItem?, skipBlank_blanks_append hblank rfl]
    simp [hfront, hbracket]

/-- Without further pieces an array has no further item. -/
theorem nextItem?_close (hblank : Blanks blank) (first : Bool) (rest : List Char) :
    nextItem? first (blank ++ piecesFrom ']' first [] rest) = .ok none := by
  have hclose : skipBlank (blank ++ ']' :: rest) = ']' :: rest :=
    skipBlank_blanks_append hblank rfl rest
  simp only [piecesFrom, nextItem?, hclose]

/-- Without further pieces an array ends at its bracket. -/
theorem endOfArray_close (hblank : Blanks blank) (first : Bool) (rest : List Char) :
    endOfArray (blank ++ piecesFrom ']' first [] rest) = .ok rest := by
  have hclose : skipBlank (blank ++ ']' :: rest) = ']' :: rest :=
    skipBlank_blanks_append hblank rfl rest
  simp only [piecesFrom, endOfArray, hclose]

/-- The key of a member, if it can be read. -/
def Member.key? (m : Member) : Option String := spelled? m.keyBody

/-- The key that is due is found behind the blanks. -/
theorem nextKey?_piecesFrom (m : Member) (hblank : Blanks blank) (first : Bool)
    (pieces : List (List Char)) (rest : List Char) :
    (nextKey? first (blank ++ piecesFrom '\x7d' first (m.text :: pieces) rest)).toOption =
      m.key?.map fun key =>
        some (key, m.gap ++ ':' :: (m.value.text ++ piecesFrom '\x7d' false pieces rest)) := by
  have hfront : skipBlank (m.text ++ piecesFrom '\x7d' false pieces rest) =
      '"' :: (m.keyBody ++ '"' :: (m.gap ++ ':' :: (m.value.text ++
        piecesFrom '\x7d' false pieces rest))) := by
    rw [Member.text, Member.ending, List.append_assoc, List.cons_append,
      skipBlank_blanks_append m.blank_before rfl]
    simp
  have hread := readString_body m.body
    (m.gap ++ ':' :: (m.value.text ++ piecesFrom '\x7d' false pieces rest))
  have hkey : ((readString (m.keyBody ++ '"' :: (m.gap ++ ':' :: (m.value.text ++
      piecesFrom '\x7d' false pieces rest)))).map some).toOption =
        m.key?.map fun key =>
          some (key, m.gap ++ ':' :: (m.value.text ++ piecesFrom '\x7d' false pieces rest)) := by
    rw [toOption_map, hread, Option.map_map]
    rfl
  cases first with
  | true =>
    rw [piecesFrom, nextKey?, skipBlank_append hblank, hfront]
    exact hkey
  | false =>
    rw [piecesFrom, nextKey?, skipBlank_blanks_append hblank rfl]
    simpa [hfront] using hkey

/-- Without further pieces an object has no further member. -/
theorem nextKey?_close (hblank : Blanks blank) (first : Bool) (rest : List Char) :
    nextKey? first (blank ++ piecesFrom '\x7d' first [] rest) = .ok none := by
  have hclose : skipBlank (blank ++ '\x7d' :: rest) = '\x7d' :: rest :=
    skipBlank_blanks_append hblank rfl rest
  simp only [piecesFrom, nextKey?, hclose]

/-- Without further pieces an object ends at its brace. -/
theorem endOfObject_close (hblank : Blanks blank) (first : Bool) (rest : List Char) :
    endOfObject (blank ++ piecesFrom '\x7d' first [] rest) = .ok rest := by
  have hclose : skipBlank (blank ++ '\x7d' :: rest) = '\x7d' :: rest :=
    skipBlank_blanks_append hblank rfl rest
  simp only [piecesFrom, endOfObject, hclose]

/-- The colon of a member is skipped with the blanks in front of it. -/
theorem skipColon_gap (m : Member) (cs : List Char) :
    skipColon (m.gap ++ ':' :: cs) = .ok cs := by
  have hcolon : skipBlank (m.gap ++ ':' :: cs) = ':' :: cs :=
    skipBlank_blanks_append m.blank_gap rfl cs
  simp only [skipColon, hcolon]

/-- A value that is read in the same way everywhere is read among the pieces around it. -/
theorem Padded.read_text {reader : Reader α} {piece : Padded} (h : reader.Steady piece.core)
    {close : Char} (hclose : close = ']' ∨ close = '\x7d') (pieces : List (List Char))
    (rest : List Char) :
    (reader (piece.text ++ piecesFrom close false pieces rest)).toOption =
      (reader.alone piece.core).map fun a =>
        (a, piece.after ++ piecesFrom close false pieces rest) := by
  rw [Padded.text_append]
  exact h piece.blank_before (piece.endsNumeral hclose pieces rest)

/-- A steady reader leaves the blanks behind a piece. -/
theorem Padded.read_core {reader : Reader α} {piece : Padded} (h : reader.Steady piece.core)
    {close : Char} (hclose : close = ']' ∨ close = '\x7d') (pieces : List (List Char))
    (rest : List Char) :
    (reader (piece.core ++ (piece.after ++ piecesFrom close false pieces rest))).toOption =
      (reader.alone piece.core).map fun a =>
        (a, piece.after ++ piecesFrom close false pieces rest) :=
  h blanks_nil (piece.endsNumeral hclose pieces rest)

end Tokens

/-! ## Trees -/

section Trees

variable {item : Reader α} {blank : List Char}

/-- One thing more is made of the pieces in front of a bracket or brace. -/
theorem cons_before_close {β : Type} {read : Option (List β × List Char)} {made : Option (List β)}
    {close : List Char → Except DecodeError (List Char)} (b : β)
    (h : (read.bind fun r => (close r.2).toOption.map fun cs => (r.1, cs)) =
      made.map fun bs => (bs, rest)) :
    ((read.bind fun r => some (b :: r.1, r.2)).bind fun r =>
      (close r.2).toOption.map fun cs => (r.1, cs)) =
      (made.bind fun bs => some (b :: bs)).map fun bs => (bs, rest) := by
  have hread : ((read.bind fun r => some (b :: r.1, r.2)).bind fun r =>
      (close r.2).toOption.map fun cs => (r.1, cs)) =
      (read.bind fun r => (close r.2).toOption.map fun cs => (r.1, cs)).map
        fun r => (b :: r.1, r.2) := by
    cases read <;> simp [Function.comp_def]
  rw [hread, h]
  cases made <;> rfl

/-- Items are read one by one, each as it would be read alone. -/
theorem readItems_piecesFrom {items : List Padded} (hjson : ∀ i ∈ items, IsJson i.core)
    (h : ∀ i ∈ items, item.Steady i.core) (first : Bool) (hblank : Blanks blank) {count : Nat}
    (hcount : items.length < count) (rest : List Char) :
    ((readItems item count first
        (blank ++ piecesFrom ']' first (items.map Padded.text) rest)).toOption.bind fun read =>
      (endOfArray read.2).toOption.map fun cs => (read.1, cs)) =
      (items.mapM fun i => item.alone i.core).map fun made => (made, rest) := by
  induction items generalizing first blank count with
  | nil =>
    obtain ⟨count, rfl⟩ : ∃ k, count = k + 1 := ⟨count - 1, by omega⟩
    simp [readItems, nextItem?_close hblank, endOfArray_close hblank, pure, Except.pure]
  | cons i items ih =>
    obtain ⟨count, rfl⟩ : ∃ k, count = k + 1 := ⟨count - 1, by omega⟩
    obtain ⟨hi, hitems⟩ := List.forall_mem_cons.mp h
    obtain ⟨hcore, hcores⟩ := List.forall_mem_cons.mp hjson
    have hread := i.read_core hi (.inl rfl) (items.map Padded.text) rest
    have hrest := ih hcores hitems false i.blank_after
      (Nat.lt_of_succ_lt_succ hcount)
    simp only [List.map_cons, readItems, nextItem?_piecesFrom hcore hblank, toOption_bind,
      toOption_ok, Option.bind_some, hread, List.mapM_cons]
    cases hmade : item.alone i.core with
    | none => rfl
    | some a =>
      simp only [Option.map_some, Option.bind_some]
      exact cons_before_close a hrest

/-- An array is read as its items are read alone. -/
theorem readArray_append {items : List Padded} (hjson : ∀ i ∈ items, IsJson i.core)
    (h : ∀ i ∈ items, item.Steady i.core) (hblank : Blanks blank) (rest : List Char) :
    (readArray item (blank ++ piecesFrom ']' true (items.map Padded.text) rest)).toOption =
      (items.mapM fun i => item.alone i.core).map fun made => (made, rest) := by
  have hlength := length_le_piecesFrom ']' true (items.map Padded.text) rest
  rw [List.length_map] at hlength
  have hcount : items.length <
      (blank ++ piecesFrom ']' true (items.map Padded.text) rest).length + 1 := by
    rw [List.length_append]
    omega
  rw [← readItems_piecesFrom hjson h true hblank hcount rest]
  simp only [readArray, toOption_bind]
  congr 1
  funext read
  cases endOfArray read.2 <;> rfl

/-- What a reader makes of a member that stands alone. -/
def Member.alone (item : Reader α) (m : Member) : Option (String × α) :=
  m.key?.bind fun key => (item.alone m.value.core).map fun a => (key, a)

/-- Members are read one by one, each as it would be read alone. -/
theorem readMembers_piecesFrom {members : List Member}
    (h : ∀ m ∈ members, item.Steady m.value.core) (first : Bool) (hblank : Blanks blank)
    {count : Nat} (hcount : members.length < count) (rest : List Char) :
    ((readMembers item count first
        (blank ++ piecesFrom '\x7d' first (members.map Member.text) rest)).toOption.bind fun read =>
      (endOfObject read.2).toOption.map fun cs => (read.1, cs)) =
      (members.mapM (Member.alone item)).map fun made => (made, rest) := by
  induction members generalizing first blank count with
  | nil =>
    obtain ⟨count, rfl⟩ : ∃ k, count = k + 1 := ⟨count - 1, by omega⟩
    simp [readMembers, nextKey?_close hblank, endOfObject_close hblank, pure, Except.pure]
  | cons m members ih =>
    obtain ⟨count, rfl⟩ : ∃ k, count = k + 1 := ⟨count - 1, by omega⟩
    obtain ⟨hm, hmembers⟩ := List.forall_mem_cons.mp h
    have hnext := nextKey?_piecesFrom m hblank first (members.map Member.text) rest
    have hread := m.value.read_text hm (.inr rfl) (members.map Member.text) rest
    have hrest := ih hmembers false m.value.blank_after
      (Nat.lt_of_succ_lt_succ hcount)
    simp only [List.map_cons, readMembers, toOption_bind, hnext, List.mapM_cons, Member.alone]
    cases hkey : m.key? with
    | none => rfl
    | some key =>
      simp only [Option.map_some, Option.bind_some, skipColon_gap, toOption_bind, toOption_ok,
        hread]
      cases hmade : item.alone m.value.core with
      | none => rfl
      | some a =>
        simp only [Option.map_some, Option.bind_some]
        exact cons_before_close (key, a) hrest

/-- An object is read as its members are read alone. -/
theorem readObject_append {members : List Member}
    (h : ∀ m ∈ members, item.Steady m.value.core) (hblank : Blanks blank) (rest : List Char) :
    (readObject item (blank ++ piecesFrom '\x7d' true (members.map Member.text) rest)).toOption =
      (members.mapM (Member.alone item)).map fun made => (made, rest) := by
  have hlength := length_le_piecesFrom '\x7d' true (members.map Member.text) rest
  rw [List.length_map] at hlength
  have hcount : members.length <
      (blank ++ piecesFrom '\x7d' true (members.map Member.text) rest).length + 1 := by
    rw [List.length_append]
    omega
  rw [← readMembers_piecesFrom h true hblank hcount rest]
  simp only [readObject, toOption_bind]
  congr 1
  funext read
  cases endOfObject read.2 <;> rfl

end Trees

/-- Behind blanks an array begins with its bracket. -/
theorem skipBlank_arrayText (h : Blanks before) (lead : List Char) (items : List Padded)
    (rest : List Char) :
    skipBlank (before ++ (arrayText lead items ++ rest)) =
      '[' :: (lead ++ piecesFrom ']' true (items.map Padded.text) rest) := by
  rw [arrayText_append]
  exact skipBlank_blanks_append h rfl _

/-- Behind blanks an object begins with its brace. -/
theorem skipBlank_objectText (h : Blanks before) (lead : List Char) (members : List Member)
    (rest : List Char) :
    skipBlank (before ++ (objectText lead members ++ rest)) =
      '\x7b' :: (lead ++ piecesFrom '\x7d' true (members.map Member.text) rest) := by
  rw [objectText_append]
  exact skipBlank_blanks_append h rfl _

/-- A tree is read in the same way from a value wherever it stands. -/
theorem steady_readTree {v : List Char} (h : IsJson v) (depth : Nat) :
    (readTree depth).Steady v := by
  induction h generalizing depth with
  | word h =>
    rcases h with rfl | rfl | rfl
    · exact steady_readTree_of_scalar (some .null) rfl rfl (by decide) (by decide)
        (fun rest _ => rfl) depth
    · exact steady_readTree_of_scalar (some (.bool true)) rfl rfl (by decide) (by decide)
        (fun rest _ => rfl) depth
    · exact steady_readTree_of_scalar (some (.bool false)) rfl rfl (by decide) (by decide)
        (fun rest _ => rfl) depth
  | numeral h =>
    obtain ⟨made, hmade⟩ := exists_made_readScalar h
    obtain ⟨c, inner, hv, hblank, hne⟩ := h.exists_front
    exact steady_readTree_of_scalar made hv hblank (hne '[' (by decide) rfl)
      (hne '\x7b' (by decide) rfl) hmade depth
  | @string body h =>
    refine steady_readTree_of_scalar ((spelled? body).map .string) rfl rfl (by decide)
      (by decide) (fun rest _ => ?_) depth
    rw [List.cons_append, List.append_assoc, readScalar, toOption_map]
    simp [readString_body h, Function.comp_def]
  | @array lead items hlead hjson h =>
    cases depth with
    | zero =>
      apply Reader.steady_of_made none
      intro before rest hbefore hrest
      simp only [readTree, skipBlank_arrayText hbefore]
      rfl
    | succ depth =>
      apply Reader.steady_of_made
        ((items.mapM fun i => (readTree depth).alone i.core).map Value.array)
      intro before rest hbefore hrest
      simp only [readTree, skipBlank_arrayText hbefore, toOption_map,
        readArray_append hjson (fun i hi => h i hi depth) hlead, Option.map_map]
      rfl
  | @object lead members hlead hjson h =>
    cases depth with
    | zero =>
      apply Reader.steady_of_made none
      intro before rest hbefore hrest
      simp only [readTree, skipBlank_objectText hbefore]
      rfl
    | succ depth =>
      apply Reader.steady_of_made
        ((members.mapM (Member.alone (readTree depth))).map Value.object)
      intro before rest hbefore hrest
      simp only [readTree, skipBlank_objectText hbefore, toOption_map,
        readObject_append (fun m hm => h m hm depth) hlead, Option.map_map]
      rfl

/-- A reader that reads what trees stand for reads a value in the same way wherever it stands. -/
theorem steady_of_follows {reader : Nat → Reader α} {view : Value → Option α}
    (hreads : ReadsTrees reader) (hfollows : Follows reader view) {v : List Char} (h : IsJson v)
    (depth : Nat) : (reader depth).Steady v := by
  apply Reader.steady_of_made (((readTree depth).alone v).bind view)
  intro before rest hbefore hrest
  have htree := steady_readTree h depth hbefore hrest
  cases hmade : (readTree depth).alone v with
  | some tree =>
    rw [hmade, Option.map_some, toOption_eq_some_iff] at htree
    rw [hfollows _ _ _ _ htree, Option.bind_some]
  | none =>
    rw [hmade] at htree
    cases hread : reader depth (before ++ (v ++ rest)) with
    | error e => rfl
    | ok found =>
      obtain ⟨tree, hfound⟩ := hreads hread
      rw [hfound] at htree
      cases htree

end FailoverControl.Json
