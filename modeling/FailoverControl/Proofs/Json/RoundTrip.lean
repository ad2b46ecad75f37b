import FailoverControl.Proofs.Json.Views
import FailoverControl.Proofs.Rpc.RequestText

/-!
# Values that read back

A value is exact to a depth when it holds no float and no more arrays and objects inside one another
than the depth. The text of such a value is read back as that value, members in the order in which
they were written, whatever stands behind it as long as it does not carry on a numeral. Floats are
left out: their shortest text is read back as well, but as a decimal that is rounded.

The main statements: `readTree_chars` for a value in front of a text, and `parseTree_text` for whole
texts.
-/

set_option autoImplicit false

namespace FailoverControl

/-! ## Digits -/

namespace Decimal

/-- Only zero is written with a leading zero. -/
theorem head?_digits_ne_zero {n : Nat} (h : n ≠ 0) : (digits n).head? ≠ some '0' := by
  have hdigit : ∀ m < 10, m ≠ 0 → digit m ≠ '0' := by decide
  fun_induction digits n with
  | case1 n hlt => simpa using hdigit n hlt h
  | case2 n hge ih =>
    have hfront : n / 10 ≠ 0 := by omega
    cases hdigits : digits (n / 10) with
    | nil => exact absurd hdigits (digits_ne_nil _)
    | cons c cs => simpa [hdigits] using ih hfront

end Decimal

namespace Json

open FailoverControl.Decimal (digits digitValue ofDigits)

/-! ## Numerals -/

/-- A text does not carry on a numeral that stands in front of it. -/
def EndsNumeral (rest : List Char) : Prop :=
  ∀ c ∈ rest.head?, c.isDigit = false ∧ c ≠ '.' ∧ c ≠ 'e' ∧ c ≠ 'E'

/-- The end of a text ends a numeral. -/
theorem endsNumeral_nil : EndsNumeral [] := nofun

/-- A character that cannot stand in a numeral ends it. -/
theorem endsNumeral_cons {c : Char} {rest : List Char}
    (h : c.isDigit = false ∧ c ≠ '.' ∧ c ≠ 'e' ∧ c ≠ 'E') : EndsNumeral (c :: rest) := by
  intro d hd
  obtain rfl : c = d := by simpa using hd
  exact h

/-- Further digits make a number no smaller. -/
theorem le_foldl_digits (cs : List Char) (n : Nat) :
    n ≤ cs.foldl (fun n c => 10 * n + digitValue c) n := by
  induction cs generalizing n with
  | nil => exact Nat.le_refl n
  | cons c cs ih => exact Nat.le_trans (by omega) (ih (10 * n + digitValue c))

/-- Digits of a number that fits 64 bits are all absorbed. -/
theorem absorbDigits_of_lt {cs : List Char} {n : Nat}
    (h : cs.foldl (fun n c => 10 * n + digitValue c) n < 18446744073709551616) :
    absorbDigits n cs = (cs.foldl (fun n c => 10 * n + digitValue c) n, []) := by
  induction cs generalizing n with
  | nil => rfl
  | cons c cs ih =>
    rw [List.foldl_cons] at h ⊢
    have hnext : 10 * n + digitValue c < 18446744073709551616 :=
      Nat.lt_of_le_of_lt (le_foldl_digits cs _) h
    rw [absorbDigits, if_pos hnext, ih h]

/-- The digits of a number that fits 64 bits are all absorbed. -/
theorem absorbDigits_digits {n : Nat} (h : n < 18446744073709551616) :
    absorbDigits 0 (digits n) = (n, []) := by
  have hvalue : (digits n).foldl (fun n c => 10 * n + digitValue c) 0 = n :=
    Decimal.ofDigits_digits n
  rw [absorbDigits_of_lt (hvalue.symm ▸ h), hvalue]

/-- Behind the digits of an integer nothing carries the numeral on. -/
theorem readAfterWhole_of_ends {rest : List Char} (hrest : EndsNumeral rest) (negative : Bool)
    (n : Nat) :
    readAfterWhole negative n 0 rest = (wholeNumeral negative n).map fun m => (m, rest) := by
  unfold readAfterWhole
  split
  · exact absurd rfl (hrest '.' rfl).2.1
  · exact absurd rfl (hrest 'e' rfl).2.2.1
  · exact absurd rfl (hrest 'E' rfl).2.2.2
  · rw [if_pos rfl]

/-- The digits of a number that fits 64 bits are read as a whole numeral. -/
theorem readNumeral_digits {n : Nat} (h : n < 18446744073709551616) {rest : List Char}
    (hrest : EndsNumeral rest) (negative : Bool) :
    readNumeral negative (digits n ++ rest) =
      (wholeNumeral negative n).map fun m => (m, rest) := by
  have hnodigit : ∀ c ∈ rest.head?, ¬ c.isDigit = true := fun c hc => by simp [(hrest c hc).1]
  have htake : (digits n ++ rest).takeWhile Char.isDigit = digits n := by
    rw [List.takeWhile_append_of_pos (Decimal.isDigit_of_mem_digits n)]
    cases rest with
    | nil => simp
    | cons c cs => rw [List.takeWhile_cons_of_neg (hnodigit c rfl), List.append_nil]
  have hdrop : (digits n ++ rest).dropWhile Char.isDigit = rest := by
    rw [List.dropWhile_append_of_pos (Decimal.isDigit_of_mem_digits n)]
    cases rest with
    | nil => rfl
    | cons c cs => rw [List.dropWhile_cons_of_neg (hnodigit c rfl)]
  by_cases hzero : n = 0
  · subst hzero
    have hany : (rest.head?.any Char.isDigit) = false := by
      cases rest with
      | nil => rfl
      | cons c cs => simpa using hnodigit c rfl
    have hdigits : digits 0 = ['0'] := by
      rw [digits]
      rfl
    rw [hdigits, List.singleton_append, readNumeral, hany, if_neg Bool.false_ne_true,
      readAfterWhole_of_ends hrest]
  · have hhead := Decimal.head?_digits_ne_zero hzero
    have hdigit := Decimal.isDigit_of_mem_digits n
    have habsorbed := absorbDigits_digits h
    cases hdigits : digits n with
    | nil => exact absurd hdigits (Decimal.digits_ne_nil n)
    | cons c cs =>
      rw [hdigits] at hhead hdigit habsorbed htake hdrop
      have hc : c ≠ '0' := by simpa using hhead
      rw [List.cons_append] at htake hdrop ⊢
      rw [readNumeral, if_pos (hdigit c List.mem_cons_self)]
      · simp only [htake, habsorbed, hdrop]
        exact readAfterWhole_of_ends hrest negative n
      · exact fun heq => hc heq

/-- An integer is found by its value. -/
theorem ofInt?_value (n : Integer) : Integer.ofInt? n.value = some n := by
  rw [Integer.ofInt?, dif_pos ⟨n.lower, n.upper⟩]

/-- A whole numeral is read as the integer with its sign and its digits. -/
theorem wholeNumeral_natAbs (n : Integer) {negative : Bool}
    (hsign : negative = true ↔ n.value < 0) :
    wholeNumeral negative n.value.natAbs = .ok (.integer n) := by
  have hzero : ¬ (negative && n.value.natAbs = 0) = true := by
    rw [Bool.and_eq_true, hsign, decide_eq_true_eq]
    omega
  have hvalue : (if negative then -(n.value.natAbs : Int) else n.value.natAbs) = n.value := by
    split
    next hnegative =>
      have := hsign.mp hnegative
      omega
    next hpositive =>
      have := mt hsign.mpr hpositive
      omega
  rw [wholeNumeral, if_neg hzero, hvalue, ofInt?_value]

/-- An integer reads back from its text. -/
theorem scalarRead_integer (n : Integer) {rest : List Char} (hrest : EndsNumeral rest) :
    ScalarRead (Decimal.signedDigits n.value ++ rest) (.integer n) rest := by
  have hlower := n.lower
  have hupper := n.upper
  have hfits : n.value.natAbs < 18446744073709551616 := by omega
  unfold Decimal.signedDigits
  split
  next hnegative =>
    have hread := readNumeral_digits hfits hrest true
    rw [wholeNumeral_natAbs n (by simpa using hnegative)] at hread
    exact .negative (n := .integer n) hread
  next hpositive =>
    have hread := readNumeral_digits hfits hrest false
    rw [wholeNumeral_natAbs n (by simpa using hpositive)] at hread
    have hdigit := Decimal.isDigit_of_mem_digits n.value.natAbs
    cases hdigits : digits n.value.natAbs with
    | nil => exact absurd hdigits (Decimal.digits_ne_nil _)
    | cons c cs =>
      rw [hdigits] at hread hdigit
      exact .positive (n := .integer n) (hdigit c List.mem_cons_self) hread

/-! ## Arrays and objects -/

section Written

variable {depth : Nat}

/-- What is written behind an item of an array that the given ones follow. -/
def behindItem : List Value → List Char
  | [] => [']']
  | v :: rest => ',' :: itemsText (v :: rest)

/-- What is written behind a member of an object that the given ones follow. -/
def behindMember : List (String × Value) → List Char
  | [] => ['\x7d']
  | m :: rest => ',' :: membersText (m :: rest)

/-- The first item of an array stands in front of the others. -/
theorem itemsText_cons (v : Value) (rest : List Value) :
    itemsText (v :: rest) = v.chars ++ behindItem rest := by
  cases rest <;> rfl

/-- The first member of an object stands in front of the others. -/
theorem membersText_cons (key : String) (v : Value) (rest : List (String × Value)) :
    membersText ((key, v) :: rest) = stringText key ++ ':' :: (v.chars ++ behindMember rest) := by
  cases rest with
  | nil => simp [membersText, behindMember]
  | cons m rest => simp [membersText, behindMember]

/-- An array has no more items than its text has characters. -/
theorem length_le_itemsText (items : List Value) : items.length ≤ (itemsText items).length := by
  induction items with
  | nil => exact Nat.zero_le _
  | cons v rest ih =>
    rw [itemsText_cons, List.length_append]
    cases rest with
    | nil => simp [behindItem]
    | cons w rest =>
      simp only [behindItem, List.length_cons] at ih ⊢
      omega

/-- An object has no more members than its text has characters. -/
theorem length_le_membersText (members : List (String × Value)) :
    members.length ≤ (membersText members).length := by
  induction members with
  | nil => exact Nat.zero_le _
  | cons m rest ih =>
    obtain ⟨key, v⟩ := m
    rw [membersText_cons, List.length_append, List.length_cons, List.length_cons,
      List.length_append]
    cases rest with
    | nil =>
      simp only [behindMember, List.length_cons, List.length_nil]
      omega
    | cons m rest =>
      simp only [behindMember, List.length_cons] at ih ⊢
      omega

/-- Nothing is skipped in front of a token. -/
theorem skipBlank_of_front {c : Char} (h : isSeparator c = false) (cs : List Char) :
    skipBlank (c :: cs) = c :: cs :=
  List.dropWhile_cons_of_neg (by simp [h])

/-- The first item begins with any character but a closing bracket. -/
theorem nextItem?_front {c : Char} (hseparator : isSeparator c = false) (hbracket : c ≠ ']')
    (cs : List Char) : nextItem? true (c :: cs) = .ok (some (c :: cs)) := by
  unfold nextItem?
  rw [skipBlank_of_front hseparator]
  split
  next heq => cases heq
  next heq => exact absurd (List.cons.inj heq).1 hbracket
  next heq =>
    rw [heq]
    rfl

/-- A later item begins behind its comma. -/
theorem nextItem?_comma {c : Char} (hseparator : isSeparator c = false) (hbracket : c ≠ ']')
    (cs : List Char) : nextItem? false (',' :: c :: cs) = .ok (some (c :: cs)) := by
  have hfront : skipBlank (',' :: c :: cs) = ',' :: c :: cs := skipBlank_of_front (by decide) _
  unfold nextItem?
  rw [hfront]
  split
  next heq => cases heq
  next heq => exact absurd (List.cons.inj heq).1 (by decide)
  next heq =>
    cases heq
    rw [if_neg Bool.false_ne_true, if_pos rfl, skipBlank_of_front hseparator]
    split
    next heq => cases heq
    next heq => exact absurd (List.cons.inj heq).1 hbracket
    · rfl

/-- A reader reads a value back from its text, and the text begins with a character that neither
separates tokens nor ends an array. -/
structure ReadsBack (item : Reader Value) (v : Value) : Prop where
  front : ∃ c cs, v.chars = c :: cs ∧ isSeparator c = false ∧ c ≠ ']'
  read : ∀ rest, EndsNumeral rest → item (v.chars ++ rest) = .ok (v, rest)

variable {item : Reader Value}

/-- What stands behind an item ends a numeral. -/
theorem endsNumeral_behindItem (items : List Value) (rest : List Char) :
    EndsNumeral (behindItem items ++ rest) := by
  cases items <;> exact endsNumeral_cons (by decide)

/-- What stands behind a member ends a numeral. -/
theorem endsNumeral_behindMember (members : List (String × Value)) (rest : List Char) :
    EndsNumeral (behindMember members ++ rest) := by
  cases members <;> exact endsNumeral_cons (by decide)

/-- One item is read, and the others behind it. -/
theorem readItems_cons {v : Value} (hv : ReadsBack item v) {more : List Value} {rest : List Char}
    {count : Nat} {first : Bool} {cs : List Char}
    (hnext : nextItem? first cs = .ok (some (v.chars ++ (behindItem more ++ rest))))
    (hmore : readItems item count false (behindItem more ++ rest) = .ok (more, ']' :: rest)) :
    readItems item (count + 1) first cs = .ok (v :: more, ']' :: rest) := by
  have hitem := hv.read (behindItem more ++ rest) (endsNumeral_behindItem more rest)
  simp only [readItems, hnext, hitem, hmore, bind, Except.bind, pure, Except.pure]

/-- Items that read back are read back behind the first one. -/
theorem readItems_behindItem {items : List Value} (h : ∀ v ∈ items, ReadsBack item v) {count : Nat}
    (hcount : items.length < count) (rest : List Char) :
    readItems item count false (behindItem items ++ rest) = .ok (items, ']' :: rest) := by
  induction items generalizing count with
  | nil =>
    cases count with
    | zero => exact absurd hcount (Nat.not_lt_zero _)
    | succ count => rfl
  | cons v more ih =>
    cases count with
    | zero => exact absurd hcount (Nat.not_lt_zero _)
    | succ count =>
      obtain ⟨hv, hmore⟩ := List.forall_mem_cons.mp h
      obtain ⟨c, cs, hchars, hseparator, hbracket⟩ := hv.front
      refine readItems_cons hv ?_ (ih hmore (Nat.lt_of_succ_lt_succ hcount))
      rw [behindItem, itemsText_cons, hchars]
      simp only [List.cons_append, List.append_assoc]
      exact nextItem?_comma hseparator hbracket _

/-- The items of an array are read back from their text. -/
theorem readArray_itemsText {items : List Value} (h : ∀ v ∈ items, ReadsBack item v)
    (rest : List Char) : readArray item (itemsText items ++ rest) = .ok (items, rest) := by
  have hcount : items.length < (itemsText items ++ rest).length + 1 := by
    have := length_le_itemsText items
    rw [List.length_append]
    omega
  have hitems :
      readItems item ((itemsText items ++ rest).length + 1) true (itemsText items ++ rest) =
        .ok (items, ']' :: rest) := by
    generalize (itemsText items ++ rest).length = size at hcount ⊢
    cases items with
    | nil => rfl
    | cons v more =>
      obtain ⟨hv, hmore⟩ := List.forall_mem_cons.mp h
      obtain ⟨c, cs, hchars, hseparator, hbracket⟩ := hv.front
      refine readItems_cons hv ?_ (readItems_behindItem hmore (Nat.lt_of_succ_lt_succ hcount) rest)
      rw [itemsText_cons, hchars]
      simp only [List.cons_append, List.append_assoc]
      exact nextItem?_front hseparator hbracket _
  have hend : endOfArray (']' :: rest) = .ok rest := rfl
  simp only [readArray, hitems, hend, bind, Except.bind, pure, Except.pure]

/-- One member is read, and the others behind it. -/
theorem readMembers_cons {key : String} {v : Value} (hv : ReadsBack item v)
    {more : List (String × Value)} {rest : List Char} {count : Nat} {first : Bool} {cs : List Char}
    (hnext : nextKey? first cs =
      .ok (some (key, ':' :: (v.chars ++ (behindMember more ++ rest)))))
    (hmore : readMembers item count false (behindMember more ++ rest) =
      .ok (more, '\x7d' :: rest)) :
    readMembers item (count + 1) first cs = .ok ((key, v) :: more, '\x7d' :: rest) := by
  have hitem := hv.read (behindMember more ++ rest) (endsNumeral_behindMember more rest)
  have hcolon (cs : List Char) : skipColon (':' :: cs) = .ok cs := rfl
  simp only [readMembers, hnext, hcolon, hitem, hmore, bind, Except.bind, pure, Except.pure]

/-- A key is found where a member is written. -/
theorem nextKey?_membersText (key : String) (v : Value) (more : List (String × Value))
    (rest : List Char) :
    nextKey? true (membersText ((key, v) :: more) ++ rest) =
        .ok (some (key, ':' :: (v.chars ++ (behindMember more ++ rest)))) ∧
      nextKey? false (behindMember ((key, v) :: more) ++ rest) =
        .ok (some (key, ':' :: (v.chars ++ (behindMember more ++ rest)))) := by
  have hkey := readString_stringText key (':' :: (v.chars ++ (behindMember more ++ rest)))
  have hfirst (cs : List Char) : nextKey? true ('"' :: cs) = (readString cs).map some := rfl
  have hlater (cs : List Char) : nextKey? false (',' :: '"' :: cs) = (readString cs).map some := rfl
  have htext : membersText ((key, v) :: more) ++ rest =
      '"' :: (key.toList.flatMap escapeChar ++
        '"' :: ':' :: (v.chars ++ (behindMember more ++ rest))) := by
    simp [membersText_cons, stringText]
  constructor
  · rw [htext, hfirst, hkey]
    rfl
  · rw [behindMember, List.cons_append, htext, hlater, hkey]
    rfl

/-- Members whose values read back are read back behind the first one. -/
theorem readMembers_behindMember {members : List (String × Value)}
    (h : ∀ m ∈ members, ReadsBack item m.2) {count : Nat} (hcount : members.length < count)
    (rest : List Char) :
    readMembers item count false (behindMember members ++ rest) =
      .ok (members, '\x7d' :: rest) := by
  induction members generalizing count with
  | nil =>
    cases count with
    | zero => exact absurd hcount (Nat.not_lt_zero _)
    | succ count => rfl
  | cons m more ih =>
    obtain ⟨key, v⟩ := m
    cases count with
    | zero => exact absurd hcount (Nat.not_lt_zero _)
    | succ count =>
      obtain ⟨hv, hmore⟩ := List.forall_mem_cons.mp h
      exact readMembers_cons hv (nextKey?_membersText key v more rest).2
        (ih hmore (Nat.lt_of_succ_lt_succ hcount))

/-- The members of an object are read back from their text. -/
theorem readObject_membersText {members : List (String × Value)}
    (h : ∀ m ∈ members, ReadsBack item m.2) (rest : List Char) :
    readObject item (membersText members ++ rest) = .ok (members, rest) := by
  have hcount : members.length < (membersText members ++ rest).length + 1 := by
    have := length_le_membersText members
    rw [List.length_append]
    omega
  have hmembers :
      readMembers item ((membersText members ++ rest).length + 1) true
          (membersText members ++ rest) =
        .ok (members, '\x7d' :: rest) := by
    generalize (membersText members ++ rest).length = size at hcount ⊢
    cases members with
    | nil => rfl
    | cons m more =>
      obtain ⟨key, v⟩ := m
      obtain ⟨hv, hmore⟩ := List.forall_mem_cons.mp h
      exact readMembers_cons hv (nextKey?_membersText key v more rest).1
        (readMembers_behindMember hmore (Nat.lt_of_succ_lt_succ hcount) rest)
  have hend : endOfObject ('\x7d' :: rest) = .ok rest := rfl
  simp only [readObject, hmembers, hend, bind, Except.bind, pure, Except.pure]

end Written

/-! ## Values -/

/-- A value without floats that has at most `depth` arrays and objects inside one another. -/
inductive Value.Exact : (depth : Nat) → Value → Prop
  | null {depth : Nat} : Exact depth .null
  | bool {depth : Nat} (b : Bool) : Exact depth (.bool b)
  | integer {depth : Nat} (n : Integer) : Exact depth (.integer n)
  | string {depth : Nat} (s : String) : Exact depth (.string s)
  | array {depth : Nat} {items : List Value} (h : ∀ v ∈ items, Exact depth v) :
      Exact (depth + 1) (.array items)
  | object {depth : Nat} {members : List (String × Value)} (h : ∀ m ∈ members, Exact depth m.2) :
      Exact (depth + 1) (.object members)

/-- A value that is exact within a depth is exact within a greater one. -/
theorem Value.Exact.mono {depth : Nat} {v : Value} (h : v.Exact depth) {deeper : Nat}
    (hle : depth ≤ deeper) : v.Exact deeper := by
  induction h generalizing deeper with
  | null => exact .null
  | bool b => exact .bool b
  | integer n => exact .integer n
  | string s => exact .string s
  | array _ ih =>
    cases deeper with
    | zero => exact absurd hle (Nat.not_succ_le_zero _)
    | succ deeper => exact .array fun v hv => ih v hv (Nat.le_of_succ_le_succ hle)
  | object _ ih =>
    cases deeper with
    | zero => exact absurd hle (Nat.not_succ_le_zero _)
    | succ deeper => exact .object fun m hm => ih m hm (Nat.le_of_succ_le_succ hle)

/-- What a scalar that has been read begins with. -/
theorem exists_front_of_scalarRead {cs rest : List Char} {v : Value} (h : ScalarRead cs v rest) :
    ∃ c inner, cs = c :: inner ∧ isSeparator c = false ∧ c ≠ ']' ∧ c ≠ '[' ∧ c ≠ '\x7b' := by
  cases h with
  | @positive c digits _ n hdigit hread =>
    have hother {d : Char} (hd : d.isDigit = false) : c ≠ d := ne_of_isDigit hdigit hd
    refine ⟨c, digits, rfl, ?_, hother rfl, hother rfl, hother rfl⟩
    simp [isSeparator, hother (d := ' ') rfl, hother (d := '\n') rfl, hother (d := '\t') rfl,
      hother (d := '\r') rfl]
  | _ => exact ⟨_, _, rfl, by decide, by decide, by decide, by decide⟩

/-- What the text of an exact value begins with. -/
theorem Value.Exact.exists_front {depth : Nat} {v : Value} (h : v.Exact depth) :
    ∃ c cs, v.chars = c :: cs ∧ isSeparator c = false ∧ c ≠ ']' := by
  cases h with
  | null => exact ⟨_, _, rfl, by decide, by decide⟩
  | bool b => cases b <;> exact ⟨_, _, rfl, by decide, by decide⟩
  | string s => exact ⟨_, _, rfl, by decide, by decide⟩
  | array h => exact ⟨_, _, rfl, by decide, by decide⟩
  | object h => exact ⟨_, _, rfl, by decide, by decide⟩
  | integer n =>
    obtain ⟨c, inner, hchars, hseparator, hbracket, -⟩ :=
      exists_front_of_scalarRead (scalarRead_integer n endsNumeral_nil)
    rw [List.append_nil] at hchars
    exact ⟨c, inner, hchars, hseparator, hbracket⟩

/-- A scalar is a tree at every depth. -/
theorem readTree_of_scalarRead {depth : Nat} {cs rest : List Char} {v : Value}
    (hscalar : ScalarRead cs v rest) : readTree depth cs = .ok (v, rest) := by
  have hread := readScalar_of_scalarRead hscalar
  obtain ⟨c, inner, rfl, hseparator, -, harray, hobject⟩ := exists_front_of_scalarRead hscalar
  have hblank := skipBlank_of_front hseparator inner
  rw [readTree_of_scalar depth, hblank, hread]
  · rw [hblank]
    exact fun _ heq => harray (List.cons.inj heq).1
  · rw [hblank]
    exact fun _ heq => hobject (List.cons.inj heq).1

/-- A value without floats is read back from its text, within the depth that it needs and in front
of whatever does not carry on a numeral. -/
theorem readTree_chars {depth : Nat} {v : Value} (h : v.Exact depth) {rest : List Char}
    (hrest : EndsNumeral rest) : readTree depth (v.chars ++ rest) = .ok (v, rest) := by
  induction h generalizing rest with
  | @null depth => cases depth <;> rfl
  | @bool depth b => cases b <;> cases depth <;> rfl
  | integer n => exact readTree_of_scalarRead (scalarRead_integer n hrest)
  | string s =>
    have htext : (Value.string s).chars ++ rest =
        '"' :: (s.toList.flatMap escapeChar ++ '"' :: rest) := by simp [Value.chars, stringText]
    rw [htext]
    exact readTree_of_scalarRead (.string (readString_stringText s rest))
  | @array depth items h ih =>
    have hitems : ∀ v ∈ items, ReadsBack (readTree depth) v := fun v hv =>
      ⟨(h v hv).exists_front, fun rest hrest => ih v hv hrest⟩
    have hread := readArray_itemsText hitems rest
    have harray : readTree (depth + 1) ((Value.array items).chars ++ rest) =
        (readArray (readTree depth) (itemsText items ++ rest)).map fun read =>
          (.array read.1, read.2) := rfl
    rw [harray, hread]
    rfl
  | @object depth members h ih =>
    have hmembers : ∀ m ∈ members, ReadsBack (readTree depth) m.2 := fun m hm =>
      ⟨(h m hm).exists_front, fun rest hrest => ih m hm hrest⟩
    have hread := readObject_membersText hmembers rest
    have hobject : readTree (depth + 1) ((Value.object members).chars ++ rest) =
        (readObject (readTree depth) (membersText members ++ rest)).map fun read =>
          (.object read.1, read.2) := rfl
    rw [hobject, hread]
    rfl

/-- The tree of the text of an exact value is that value. -/
theorem parseTree_text {v : Value} (h : v.Exact maxDepth) : parseTree v.text = .ok v := by
  have hread := readTree_chars h endsNumeral_nil
  rw [List.append_nil] at hread
  rw [parseTree, readAll, Value.text, String.toList_ofList, hread]
  rfl

end Json

end FailoverControl
