import FailoverControl.Proofs.Json.Passing
import FailoverControl.Proofs.Json.RoundTrip

/-!
# The grammar of JSON texts

Values as texts: words, numerals, strings, arrays and objects, the last two with any number of
pieces and with blanks wherever the grammar has them. A string may hold half a surrogate pair and a
numeral may be out of range, since the grammar allows both.

The main statement: every value of the grammar is passed over, however deep it is nested and
whatever it holds (`passed_of_isJson`).
-/

set_option autoImplicit false

namespace FailoverControl.Json

/-! ## Blanks -/

/-- Blanks between tokens. -/
def Blanks (cs : List Char) : Prop := ∀ c ∈ cs, c = ' ' ∨ c = '\n' ∨ c = '\t' ∨ c = '\r'

/-- There may be no blanks. -/
theorem blanks_nil : Blanks [] := fun _ h => absurd h List.not_mem_nil

variable {before after rest : List Char}

/-- Blanks are what stands between tokens. -/
theorem isSeparator_of_blanks (h : Blanks before) : ∀ c ∈ before, isSeparator c = true := by
  intro c hc
  rcases h c hc with rfl | rfl | rfl | rfl <;> rfl

/-- Blanks in front of a text are skipped. -/
theorem skipBlank_append (h : Blanks before) (cs : List Char) :
    skipBlank (before ++ cs) = skipBlank cs :=
  List.dropWhile_append_of_pos (isSeparator_of_blanks h)

/-- Blanks are skipped up to the first character of a token. -/
theorem skipBlank_blanks_append {c : Char} (h : Blanks before) (hc : isSeparator c = false)
    (cs : List Char) : skipBlank (before ++ c :: cs) = c :: cs := by
  rw [skipBlank_append h, skipBlank_of_front hc]

/-- Nothing is left of blanks. -/
theorem skipBlank_eq_nil (h : Blanks before) : skipBlank before = [] :=
  List.dropWhile_eq_nil_iff.mpr (isSeparator_of_blanks h)

/-- Blanks do not carry on a numeral. -/
theorem endsNumeral_blanks_append (h : Blanks before) (hrest : EndsNumeral rest) :
    EndsNumeral (before ++ rest) := by
  cases before with
  | nil => exact hrest
  | cons c cs =>
    rw [List.cons_append]
    apply endsNumeral_cons
    rcases h c List.mem_cons_self with rfl | rfl | rfl | rfl <;> decide

/-! ## Numerals -/

/-- At least one digit and nothing else. -/
def Digits (ds : List Char) : Prop := ds ≠ [] ∧ ∀ c ∈ ds, c.isDigit = true

/-- The whole part of a numeral; only zero begins with a zero. -/
inductive IsWhole : List Char → Prop
  | zero : IsWhole ['0']
  | positive {c : Char} {ds : List Char} (hc : c.isDigit = true) (hzero : c ≠ '0')
      (hds : ∀ d ∈ ds, d.isDigit = true) : IsWhole (c :: ds)

/-- The fraction of a numeral. -/
inductive IsFraction : List Char → Prop
  | absent : IsFraction []
  | present {ds : List Char} (hds : Digits ds) : IsFraction ('.' :: ds)

/-- The exponent of a numeral. -/
inductive IsExponent : List Char → Prop
  | absent : IsExponent []
  | present {mark : Char} {sign ds : List Char} (hmark : mark = 'e' ∨ mark = 'E')
      (hsign : sign = [] ∨ sign = ['+'] ∨ sign = ['-']) (hds : Digits ds) :
      IsExponent (mark :: (sign ++ ds))

/-- A numeral without a sign. -/
inductive IsUnsigned : List Char → Prop
  | mk {whole fraction exponent : List Char} (hwhole : IsWhole whole)
      (hfraction : IsFraction fraction) (hexponent : IsExponent exponent) :
      IsUnsigned (whole ++ (fraction ++ exponent))

/-- A numeral. -/
inductive IsNumeral : List Char → Prop
  | unsigned {cs : List Char} (h : IsUnsigned cs) : IsNumeral cs
  | negative {cs : List Char} (h : IsUnsigned cs) : IsNumeral ('-' :: cs)

section Numerals

variable {ds : List Char}

/-- Digits are dropped up to the first character that is none. -/
theorem dropWhile_digits (hds : ∀ c ∈ ds, c.isDigit = true)
    (hrest : ∀ c ∈ rest.head?, c.isDigit = false) :
    (ds ++ rest).dropWhile Char.isDigit = rest := by
  rw [List.dropWhile_append_of_pos hds]
  cases rest with
  | nil => rfl
  | cons c cs => exact List.dropWhile_cons_of_neg (by simp [hrest c rfl])

/-- Digits are taken up to the first character that is none. -/
theorem takeWhile_digits (hds : ∀ c ∈ ds, c.isDigit = true)
    (hrest : ∀ c ∈ rest.head?, c.isDigit = false) :
    (ds ++ rest).takeWhile Char.isDigit = ds := by
  rw [List.takeWhile_append_of_pos hds]
  cases rest with
  | nil => simp
  | cons c cs => rw [List.takeWhile_cons_of_neg (by simp [hrest c rfl]), List.append_nil]

/-- Digits begin with a digit. -/
theorem Digits.head?_any (hds : Digits ds) (rest : List Char) :
    (ds ++ rest).head?.any Char.isDigit = true := by
  obtain ⟨hne, hdigits⟩ := hds
  cases ds with
  | nil => exact absurd rfl hne
  | cons c cs => simpa using hdigits c List.mem_cons_self

/-- A text in front of which no digit stands does not begin with one. -/
theorem head?_any_of_not_digit (hrest : ∀ c ∈ rest.head?, c.isDigit = false) :
    rest.head?.any Char.isDigit = false := by
  cases rest with
  | nil => rfl
  | cons c cs => simpa using hrest c rfl

/-- No digit stands behind the whole part or the fraction of a numeral. -/
theorem IsExponent.not_digit {exponent : List Char} (h : IsExponent exponent)
    (hrest : EndsNumeral rest) : ∀ c ∈ (exponent ++ rest).head?, c.isDigit = false := by
  cases h with
  | absent => exact fun c hc => (hrest c hc).1
  | present hmark hsign hds =>
    intro c hc
    obtain rfl := Option.some.inj hc
    rcases hmark with rfl | rfl <;> rfl

/-- Neither a fraction nor an exponent carries on the whole part of a numeral. -/
theorem IsFraction.not_digit {fraction exponent : List Char} (h : IsFraction fraction)
    (hexponent : IsExponent exponent) (hrest : EndsNumeral rest) :
    ∀ c ∈ (fraction ++ (exponent ++ rest)).head?, c.isDigit = false := by
  cases h with
  | absent => exact hexponent.not_digit hrest
  | present hds =>
    intro c hc
    obtain rfl := Option.some.inj hc
    rfl

/-- An exponent is passed over, also an absent one. -/
theorem skipOptionalExponent_of_isExponent {exponent : List Char} (h : IsExponent exponent)
    (hrest : EndsNumeral rest) : skipOptionalExponent (exponent ++ rest) = .ok rest := by
  cases h with
  | absent =>
    rw [List.nil_append]
    unfold skipOptionalExponent
    split
    · exact absurd rfl (hrest 'e' rfl).2.2.1
    · exact absurd rfl (hrest 'E' rfl).2.2.2
    · rfl
  | @present mark sign ds hmark hsign hds =>
    have hdigits : skipExponentDigits (ds ++ rest) = .ok rest := by
      rw [skipExponentDigits, if_pos (hds.head?_any rest),
        dropWhile_digits hds.2 fun c hc => (hrest c hc).1]
    have hexponent : skipExponent (sign ++ (ds ++ rest)) = .ok rest := by
      rcases hsign with rfl | rfl | rfl
      · have hhead := hds.head?_any rest
        rw [List.nil_append]
        unfold skipExponent
        split
        next heq => simp [heq] at hhead
        next heq => simp [heq] at hhead
        · exact hdigits
      · exact hdigits
      · exact hdigits
    rw [List.cons_append, List.append_assoc]
    rcases hmark with rfl | rfl
    · exact hexponent
    · exact hexponent

/-- Fraction and exponent are passed over, present or not. -/
theorem skipAfterWhole_of_isFraction {fraction exponent : List Char} (h : IsFraction fraction)
    (hexponent : IsExponent exponent) (hrest : EndsNumeral rest) :
    skipAfterWhole (fraction ++ (exponent ++ rest)) = .ok rest := by
  have hskip := skipOptionalExponent_of_isExponent hexponent hrest
  cases h with
  | absent =>
    rw [List.nil_append]
    unfold skipAfterWhole
    split
    next inner heq =>
      cases hexponent with
      | absent => exact absurd rfl (hrest '.' (by simpa using congrArg List.head? heq)).2.1
      | present hmark hsign hds =>
        have hfront := (List.cons.inj heq).1
        rcases hmark with rfl | rfl <;> cases hfront
    · exact hskip
  | @present ds hds =>
    have hhead := hds.head?_any (exponent ++ rest)
    have hdrop := dropWhile_digits hds.2 (hexponent.not_digit hrest)
    simp only [List.cons_append, skipAfterWhole, hhead, hdrop, if_true, hskip]

/-- A numeral is passed over behind its sign. -/
theorem skipNumeral_of_isUnsigned {cs : List Char} (h : IsUnsigned cs)
    (hrest : EndsNumeral rest) : skipNumeral (cs ++ rest) = .ok rest := by
  obtain ⟨hwhole, hfraction, hexponent⟩ := h
  have hskip := skipAfterWhole_of_isFraction hfraction hexponent hrest
  have hend := hfraction.not_digit hexponent hrest
  rw [List.append_assoc, List.append_assoc]
  cases hwhole with
  | zero =>
    simp only [List.cons_append, List.nil_append, skipNumeral, head?_any_of_not_digit hend,
      Bool.false_eq_true, if_false, hskip]
  | @positive c ds hc hzero hds =>
    rw [List.cons_append]
    unfold skipNumeral
    split
    next heq => exact absurd (List.cons.inj heq).1 hzero
    next heq =>
      obtain ⟨rfl, rfl⟩ := List.cons.inj heq
      rw [if_pos hc, dropWhile_digits hds hend, hskip]
    next heq => cases heq

/-- A numeral begins with a digit behind its sign. -/
theorem IsUnsigned.exists_digit {cs : List Char} (h : IsUnsigned cs) :
    ∃ c inner, cs = c :: inner ∧ c.isDigit = true := by
  obtain ⟨hwhole, -, -⟩ := h
  cases hwhole with
  | zero => exact ⟨_, _, rfl, rfl⟩
  | positive hc => exact ⟨_, _, rfl, hc⟩

/-- A numeral begins with a sign or a digit. -/
theorem IsNumeral.exists_front {cs : List Char} (h : IsNumeral cs) :
    ∃ c inner, cs = c :: inner ∧ isSeparator c = false ∧
      ∀ d, d ≠ '-' → d.isDigit = false → c ≠ d := by
  cases h with
  | negative h => exact ⟨'-', _, rfl, rfl, fun d hsign _ => hsign.symm⟩
  | unsigned h =>
    obtain ⟨c, inner, rfl, hc⟩ := h.exists_digit
    have hblank : c ≠ ' ' ∧ c ≠ '\n' ∧ c ≠ '\t' ∧ c ≠ '\r' :=
      ⟨ne_of_isDigit hc rfl, ne_of_isDigit hc rfl, ne_of_isDigit hc rfl, ne_of_isDigit hc rfl⟩
    exact ⟨c, inner, rfl, by simp [isSeparator, hblank], fun d _ hd => ne_of_isDigit hc hd⟩

end Numerals

/-! ## Values -/

/-- A piece of a text with blanks around it. -/
structure Padded where
  before : List Char
  core : List Char
  after : List Char
  blank_before : Blanks before
  blank_after : Blanks after

/-- A piece with its blanks. -/
def Padded.text (piece : Padded) : List Char :=
  piece.before ++ (piece.core ++ piece.after)

/-- A member of an object: its key between quotes, a colon and its value. -/
structure Member where
  before : List Char
  keyBody : List Char
  gap : List Char
  value : Padded
  blank_before : Blanks before
  body : StringBody keyBody
  blank_gap : Blanks gap

/-- A member without blanks, with a key that needs no escapes. -/
def Member.tight (key : String) (core : List Char) (h : Spells key.toList key.toList) : Member where
  before := []
  keyBody := key.toList
  gap := []
  value := ⟨[], core, [], blanks_nil, blanks_nil⟩
  blank_before := blanks_nil
  body := h.stringBody
  blank_gap := blanks_nil

/-- A member from the closing quote of its key on. -/
def Member.ending (m : Member) : List Char :=
  '"' :: (m.gap ++ ':' :: m.value.text)

/-- A member with its blanks. -/
def Member.text (m : Member) : List Char :=
  m.before ++ '"' :: (m.keyBody ++ m.ending)

/-- An array with the given items; where there are none, blanks may stand between the brackets. -/
def arrayText (lead : List Char) (items : List Padded) : List Char :=
  '[' :: (lead ++ ([','].intercalate (items.map Padded.text) ++ [']']))

/-- An object with the given members. -/
def objectText (lead : List Char) (members : List Member) : List Char :=
  '\x7b' :: (lead ++ ([','].intercalate (members.map Member.text) ++ ['\x7d']))

/-- The text of a value, of any depth. -/
inductive IsJson : List Char → Prop
  | word {cs : List Char}
      (h : cs = ['n', 'u', 'l', 'l'] ∨ cs = ['t', 'r', 'u', 'e'] ∨ cs = ['f', 'a', 'l', 's', 'e']) :
      IsJson cs
  | numeral {cs : List Char} (h : IsNumeral cs) : IsJson cs
  | string {body : List Char} (h : StringBody body) : IsJson ('"' :: (body ++ ['"']))
  | array {lead : List Char} {items : List Padded} (hlead : Blanks lead)
      (h : ∀ item ∈ items, IsJson item.core) : IsJson (arrayText lead items)
  | object {lead : List Char} {members : List Member} (hlead : Blanks lead)
      (h : ∀ m ∈ members, IsJson m.value.core) : IsJson (objectText lead members)

/-! ## Texts from a piece on -/

/-- The rest of an array or an object from some pieces on, which have a comma in front of them
unless they are the first ones. -/
def piecesFrom (close : Char) : (first : Bool) → List (List Char) → List Char → List Char
  | _, [], rest => close :: rest
  | true, piece :: pieces, rest => piece ++ piecesFrom close false pieces rest
  | false, piece :: pieces, rest => ',' :: (piece ++ piecesFrom close false pieces rest)

/-- Pieces between commas are pieces in front of a closing character. -/
theorem intercalate_append (close : Char) (pieces : List (List Char)) (rest : List Char) :
    [','].intercalate pieces ++ close :: rest = piecesFrom close true pieces rest := by
  cases pieces with
  | nil => rfl
  | cons piece pieces =>
    rw [piecesFrom]
    induction pieces generalizing piece with
    | nil => rw [List.intercalate_singleton, piecesFrom]
    | cons next pieces ih =>
      rw [List.intercalate_cons_cons, List.append_assoc, List.append_assoc, ih next, piecesFrom]
      rfl

/-- What stands behind a piece does not carry on a numeral. -/
theorem endsNumeral_piecesFrom {close : Char} (hclose : close = ']' ∨ close = '\x7d')
    (pieces : List (List Char)) (rest : List Char) :
    EndsNumeral (piecesFrom close false pieces rest) := by
  cases pieces with
  | nil =>
    apply endsNumeral_cons
    rcases hclose with rfl | rfl <;> decide
  | cons piece pieces => exact endsNumeral_cons (by decide)

/-- An array begins with its bracket and goes on with its items. -/
theorem arrayText_append (lead : List Char) (items : List Padded) (rest : List Char) :
    arrayText lead items ++ rest =
      '[' :: (lead ++ piecesFrom ']' true (items.map Padded.text) rest) := by
  rw [← intercalate_append]
  simp [arrayText]

/-- An object begins with its brace and goes on with its members. -/
theorem objectText_append (lead : List Char) (members : List Member) (rest : List Char) :
    objectText lead members ++ rest =
      '\x7b' :: (lead ++ piecesFrom '\x7d' true (members.map Member.text) rest) := by
  rw [← intercalate_append]
  simp [objectText]

/-! ## Passing over values -/

/-- A value begins with a character of its own. -/
theorem IsJson.exists_front {v : List Char} (h : IsJson v) :
    ∃ c inner, v = c :: inner ∧ isSeparator c = false ∧ c ≠ ']' := by
  cases h with
  | numeral h =>
    obtain ⟨c, inner, rfl, hblank, hne⟩ := h.exists_front
    exact ⟨c, inner, rfl, hblank, hne ']' (by decide) rfl⟩
  | word h => rcases h with rfl | rfl | rfl <;> exact ⟨_, _, rfl, rfl, by decide⟩
  | _ => exact ⟨_, _, rfl, rfl, by decide⟩

/-- A piece is its core between its blanks. -/
theorem Padded.text_append (piece : Padded) (cs : List Char) :
    piece.text ++ cs = piece.before ++ (piece.core ++ (piece.after ++ cs)) := by
  rw [text, List.append_assoc, List.append_assoc]

/-- Behind the blanks after a piece stands nothing that carries on a numeral. -/
theorem Padded.endsNumeral (piece : Padded) {close : Char} (hclose : close = ']' ∨ close = '\x7d')
    (pieces : List (List Char)) (rest : List Char) :
    EndsNumeral (piece.after ++ piecesFrom close false pieces rest) :=
  endsNumeral_blanks_append piece.blank_after (endsNumeral_piecesFrom hclose pieces rest)

/-- A text is passed over as a value wherever it stands. -/
def Passable (v : List Char) : Prop :=
  ∀ ⦃before rest : List Char⦄, Blanks before → EndsNumeral rest →
    Passed (before ++ (v ++ rest)) rest

/-- A piece is passed over up to the blanks behind it. -/
theorem Padded.skipWithin_text {piece : Padded} (h : Passable piece.core) {close : Char}
    (hclose : close = ']' ∨ close = '\x7d') (pieces : List (List Char)) (rest : List Char)
    (size : Nat) (hsize : (piece.text ++ piecesFrom close false pieces rest).length < size) :
    skipWithin size (piece.text ++ piecesFrom close false pieces rest) =
      .ok (piece.after ++ piecesFrom close false pieces rest) := by
  rw [Padded.text_append] at hsize ⊢
  exact (h piece.blank_before (piece.endsNumeral hclose pieces rest)).skipped size hsize

/-- Items that can be passed over are passed over up to the closing bracket. -/
theorem skipBehindItem_piecesFrom {items : List Padded} (h : ∀ item ∈ items, Passable item.core)
    {blank : List Char} (hblank : Blanks blank) {size count : Nat}
    (hsize : (blank ++ piecesFrom ']' false (items.map Padded.text) rest).length < size)
    (hcount : (blank ++ piecesFrom ']' false (items.map Padded.text) rest).length ≤ count) :
    skipBehindItem (skipWithin size) count
      (blank ++ piecesFrom ']' false (items.map Padded.text) rest) = .ok rest := by
  induction items generalizing blank count with
  | nil =>
    have hclose : skipBlank (blank ++ ']' :: rest) = ']' :: rest :=
      skipBlank_blanks_append hblank rfl rest
    simp only [List.map_nil, piecesFrom, skipBehindItem, hclose]
  | cons item items ih =>
    obtain ⟨hitem, hitems⟩ := List.forall_mem_cons.mp h
    have hskip := item.skipWithin_text hitem (.inl rfl) (items.map Padded.text) rest size
    rw [List.map_cons, piecesFrom] at hsize hcount ⊢
    generalize hmore : item.text ++ piecesFrom ']' false (items.map Padded.text) rest = more
      at hsize hcount hskip ⊢
    have hcomma : skipBlank (blank ++ ',' :: more) = ',' :: more :=
      skipBlank_blanks_append hblank rfl more
    have hlength := congrArg List.length hmore
    simp only [List.length_append, List.length_cons, Padded.text] at hsize hcount hlength
    -- The comma in front of the item leaves room for one item less.
    obtain ⟨count, rfl⟩ : ∃ k, count = k + 1 := ⟨count - 1, by omega⟩
    rw [skipBehindItem, hcomma]
    show skipItems (skipWithin size) (count + 1) more = .ok rest
    rw [skipItems_succ, hskip (by omega)]
    apply ih hitems item.blank_after
    · simp only [List.length_append]
      omega
    · simp only [List.length_append]
      omega

/-- A member begins with the quote of its key. -/
theorem Member.exists_quote (m : Member) (cs : List Char) :
    ∃ inner, skipBlank (m.text ++ cs) = '"' :: inner := by
  refine ⟨m.keyBody ++ (m.ending ++ cs), ?_⟩
  rw [text, List.append_assoc, List.cons_append, List.append_assoc]
  exact skipBlank_blanks_append m.blank_before rfl _

/-- A key is passed over together with its colon. -/
theorem Member.skipKey_text (m : Member) (cs : List Char) :
    skipKey (m.text ++ cs) = .ok (m.value.text ++ cs) := by
  have hquote : skipBlank (m.text ++ cs) = '"' :: (m.keyBody ++ (m.ending ++ cs)) := by
    rw [text, List.append_assoc, List.cons_append, List.append_assoc]
    exact skipBlank_blanks_append m.blank_before rfl _
  have hbody : skipStringBody (m.keyBody ++ (m.ending ++ cs)) =
      .ok (m.gap ++ ':' :: (m.value.text ++ cs)) := by
    rw [ending, List.cons_append, skipStringBody_of_stringBody m.body, List.append_assoc,
      List.cons_append]
  have hcolon : skipBlank (m.gap ++ ':' :: (m.value.text ++ cs)) = ':' :: (m.value.text ++ cs) :=
    skipBlank_blanks_append m.blank_gap rfl _
  simp only [skipKey, hquote, hbody, bind, Except.bind, skipColon, hcolon]

/-- Members that can be passed over are passed over up to the closing brace. -/
theorem skipBehindMember_piecesFrom {members : List Member}
    (h : ∀ m ∈ members, Passable m.value.core) {blank : List Char} (hblank : Blanks blank)
    {size count : Nat}
    (hsize : (blank ++ piecesFrom '\x7d' false (members.map Member.text) rest).length < size)
    (hcount : (blank ++ piecesFrom '\x7d' false (members.map Member.text) rest).length ≤ count) :
    skipBehindMember (skipWithin size) count
      (blank ++ piecesFrom '\x7d' false (members.map Member.text) rest) = .ok rest := by
  induction members generalizing blank count with
  | nil =>
    have hclose : skipBlank (blank ++ '\x7d' :: rest) = '\x7d' :: rest :=
      skipBlank_blanks_append hblank rfl rest
    simp only [List.map_nil, piecesFrom, skipBehindMember, hclose]
  | cons m members ih =>
    obtain ⟨hm, hmembers⟩ := List.forall_mem_cons.mp h
    have hskip := m.value.skipWithin_text hm (.inr rfl) (members.map Member.text) rest size
    have hkey := m.skipKey_text (piecesFrom '\x7d' false (members.map Member.text) rest)
    rw [List.map_cons, piecesFrom] at hsize hcount ⊢
    generalize hmore : m.text ++ piecesFrom '\x7d' false (members.map Member.text) rest = more
      at hsize hcount hkey ⊢
    have hcomma : skipBlank (blank ++ ',' :: more) = ',' :: more :=
      skipBlank_blanks_append hblank rfl more
    have hlength := congrArg List.length hmore
    have hbehind := length_skipKey_lt hkey
    simp only [List.length_append, List.length_cons, Padded.text] at hsize hcount hlength hbehind
    obtain ⟨count, rfl⟩ : ∃ k, count = k + 1 := ⟨count - 1, by omega⟩
    rw [skipBehindMember, hcomma]
    show skipMembers (skipWithin size) (count + 1) more = .ok rest
    have hvalue := hskip (by simp only [List.length_append, Padded.text]; omega)
    simp only [skipMembers_succ, hkey, bind, Except.bind, hvalue]
    apply ih hmembers m.value.blank_after
    · simp only [List.length_append]
      omega
    · simp only [List.length_append]
      omega

/-- A value does not begin with the bracket that would close its array. -/
theorem Padded.exists_front {piece : Padded} (h : IsJson piece.core) (cs : List Char) :
    ∃ c inner, skipBlank (piece.text ++ cs) = c :: inner ∧ c ≠ ']' := by
  obtain ⟨c, inner, hcore, hblank, hbracket⟩ := h.exists_front
  refine ⟨c, inner ++ (piece.after ++ cs), ?_, hbracket⟩
  rw [Padded.text_append, hcore]
  exact skipBlank_blanks_append piece.blank_before hblank _

/-- Blanks in front of a value do not count. -/
theorem skipWithin_blanks_append {lead : List Char} (hlead : Blanks lead) (size : Nat)
    (cs : List Char) : skipWithin size (lead ++ cs) = skipWithin size cs := by
  rw [← skipWithin_skipBlank, skipBlank_append hlead, skipWithin_skipBlank]

/-- What is done behind the opening bracket of an array. -/
theorem skipWithin_bracket (size : Nat) (inner : List Char) :
    skipWithin (size + 1) ('[' :: inner) =
      match skipBlank inner with
      | [] => .error .endInList
      | ']' :: rest => .ok rest
      | _ => skipItems (skipWithin size) size inner :=
  rfl

/-- What is done behind the opening brace of an object. -/
theorem skipWithin_brace (size : Nat) (inner : List Char) :
    skipWithin (size + 1) ('\x7b' :: inner) =
      match skipBlank inner with
      | [] => .error .endInObject
      | '\x7d' :: rest => .ok rest
      | _ => skipMembers (skipWithin size) size inner :=
  rfl

/-- An array is passed over when each of its items is. -/
theorem skipWithin_arrayText {lead : List Char} {items : List Padded} (hlead : Blanks lead)
    (hjson : ∀ item ∈ items, IsJson item.core) (h : ∀ item ∈ items, Passable item.core)
    {size : Nat} (hsize : (arrayText lead items ++ rest).length < size) :
    skipWithin size (arrayText lead items ++ rest) = .ok rest := by
  rw [arrayText_append] at hsize ⊢
  obtain ⟨size, rfl⟩ : ∃ k, size = k + 1 := ⟨size - 1, by omega⟩
  rw [List.length_cons] at hsize
  rw [skipWithin_bracket]
  cases items with
  | nil =>
    have hclose : skipBlank (lead ++ ']' :: rest) = ']' :: rest :=
      skipBlank_blanks_append hlead rfl rest
    simp only [List.map_nil, piecesFrom, hclose]
  | cons item items =>
    obtain ⟨hitem, hitems⟩ := List.forall_mem_cons.mp h
    rw [List.map_cons, piecesFrom] at hsize ⊢
    obtain ⟨c, inner, hfront, hbracket⟩ := item.exists_front (hjson item List.mem_cons_self)
      (piecesFrom ']' false (items.map Padded.text) rest)
    rw [skipBlank_append hlead, hfront]
    simp only [List.length_append, Padded.text] at hsize
    obtain ⟨size, rfl⟩ : ∃ k, size = k + 1 := ⟨size - 1, by omega⟩
    have hskip := item.skipWithin_text hitem (.inl rfl) (items.map Padded.text) rest (size + 1)
      (by simp only [List.length_append, Padded.text]; omega)
    have hrest : skipBehindItem (skipWithin (size + 1)) size
        (item.after ++ piecesFrom ']' false (items.map Padded.text) rest) = .ok rest := by
      apply skipBehindItem_piecesFrom hitems item.blank_after
      · simp only [List.length_append]
        omega
      · simp only [List.length_append]
        omega
    split
    next heq => cases heq
    next heq => exact absurd (List.cons.inj heq).1 hbracket
    · rw [skipItems_succ, skipWithin_blanks_append hlead, hskip]
      exact hrest

/-- An object is passed over when the value of each of its members is. -/
theorem skipWithin_objectText {lead : List Char} {members : List Member} (hlead : Blanks lead)
    (h : ∀ m ∈ members, Passable m.value.core) {size : Nat}
    (hsize : (objectText lead members ++ rest).length < size) :
    skipWithin size (objectText lead members ++ rest) = .ok rest := by
  rw [objectText_append] at hsize ⊢
  obtain ⟨size, rfl⟩ : ∃ k, size = k + 1 := ⟨size - 1, by omega⟩
  rw [List.length_cons] at hsize
  rw [skipWithin_brace]
  cases members with
  | nil =>
    have hclose : skipBlank (lead ++ '\x7d' :: rest) = '\x7d' :: rest :=
      skipBlank_blanks_append hlead rfl rest
    simp only [List.map_nil, piecesFrom, hclose]
  | cons m members =>
    obtain ⟨hm, hmembers⟩ := List.forall_mem_cons.mp h
    rw [List.map_cons, piecesFrom] at hsize ⊢
    obtain ⟨inner, hquote⟩ := m.exists_quote
      (piecesFrom '\x7d' false (members.map Member.text) rest)
    have hkey := m.skipKey_text (piecesFrom '\x7d' false (members.map Member.text) rest)
    have hbehind := length_skipKey_lt hkey
    have hvalue := m.value.skipWithin_text hm (.inr rfl) (members.map Member.text) rest
    have hfirst : skipKey (lead ++ (m.text ++ piecesFrom '\x7d' false (members.map Member.text)
        rest)) = .ok (m.value.text ++ piecesFrom '\x7d' false (members.map Member.text) rest) := by
      rw [← hkey]
      simp only [skipKey, skipBlank_append hlead]
    rw [skipBlank_append hlead, hquote]
    rw [List.length_append] at hsize
    generalize m.text ++ piecesFrom '\x7d' false (members.map Member.text) rest = more
      at hsize hbehind hfirst
    obtain ⟨size, rfl⟩ : ∃ k, size = k + 1 := ⟨size - 1, by omega⟩
    have hskip := hvalue (size + 1) (by omega)
    simp only [List.length_append, Padded.text] at hbehind
    have hrest : skipBehindMember (skipWithin (size + 1)) size
        (m.value.after ++ piecesFrom '\x7d' false (members.map Member.text) rest) = .ok rest := by
      apply skipBehindMember_piecesFrom hmembers m.value.blank_after
      · simp only [List.length_append]
        omega
      · simp only [List.length_append]
        omega
    show skipMembers (skipWithin (size + 1)) (size + 1) (lead ++ more) = .ok rest
    simp only [skipMembers_succ, hfirst, bind, Except.bind, hskip]
    exact hrest

/-- A numeral is passed over as a scalar. -/
theorem skipScalar_of_isNumeral {v : List Char} (h : IsNumeral v) (hrest : EndsNumeral rest) :
    skipScalar (v ++ rest) = .ok rest := by
  cases h with
  | negative h => exact skipNumeral_of_isUnsigned h hrest
  | unsigned h =>
    have hskip := skipNumeral_of_isUnsigned h hrest
    obtain ⟨c, inner, rfl, hc⟩ := h.exists_digit
    rw [List.cons_append] at hskip ⊢
    rw [skipScalar, if_pos hc, hskip]
    all_goals exact ne_of_isDigit hc rfl

/-- A text that is no array and no object is passed over as a scalar. -/
theorem passable_of_scalar {v : List Char} {c : Char} {inner : List Char} (hv : v = c :: inner)
    (hblank : isSeparator c = false) (harray : c ≠ '[') (hobject : c ≠ '\x7b')
    (h : ∀ {rest : List Char}, EndsNumeral rest → skipScalar (v ++ rest) = .ok rest) :
    Passable v := by
  intro before rest hbefore hrest
  have hfront : skipBlank (before ++ (v ++ rest)) = v ++ rest := by
    rw [hv, List.cons_append]
    exact skipBlank_blanks_append hbefore hblank _
  refine ⟨by simp only [hv, List.length_append, List.length_cons]; omega, fun size hsize => ?_⟩
  obtain ⟨size, rfl⟩ : ∃ k, size = k + 1 := ⟨size - 1, by omega⟩
  rw [skipWithin, hfront, hv, List.cons_append]
  split
  next heq => exact absurd (List.cons.inj heq).1 harray
  next heq => exact absurd (List.cons.inj heq).1 hobject
  · rw [← List.cons_append, ← hv, h hrest]

/-- Every value is passed over wherever it stands. -/
theorem passable_of_isJson {v : List Char} (h : IsJson v) : Passable v := by
  induction h with
  | word h =>
    rcases h with rfl | rfl | rfl
    all_goals
      refine passable_of_scalar rfl rfl (by decide) (by decide) fun _ => ?_
      simp [skipScalar, skipWord]
  | numeral h =>
    obtain ⟨c, inner, hv, hblank, hne⟩ := h.exists_front
    exact passable_of_scalar hv hblank (hne '[' (by decide) rfl) (hne '\x7b' (by decide) rfl)
      (skipScalar_of_isNumeral h)
  | string h =>
    refine passable_of_scalar rfl rfl (by decide) (by decide) fun _ => ?_
    rw [List.cons_append, List.append_assoc]
    exact skipStringBody_of_stringBody h _
  | array hlead hjson h =>
    intro before rest hbefore hrest
    refine ⟨by simp only [arrayText, List.length_append, List.length_cons]; omega,
      fun size hsize => ?_⟩
    rw [skipWithin_blanks_append hbefore]
    exact skipWithin_arrayText hlead hjson h (by simp only [List.length_append] at hsize ⊢; omega)
  | object hlead hjson h =>
    intro before rest hbefore hrest
    refine ⟨by simp only [objectText, List.length_append, List.length_cons]; omega,
      fun size hsize => ?_⟩
    rw [skipWithin_blanks_append hbefore]
    exact skipWithin_objectText hlead h (by simp only [List.length_append] at hsize ⊢; omega)

/-- Every value is passed over, and the rest of the text is left. -/
theorem skipValue_of_isJson {v : List Char} (h : IsJson v) (hbefore : Blanks before)
    (hrest : EndsNumeral rest) : skipValue (before ++ (v ++ rest)) = .ok rest :=
  (passable_of_isJson h hbefore hrest).skipped _ (Nat.lt_succ_self _)

end FailoverControl.Json
