import FailoverControl.Proofs.Decimal.Characters
import FailoverControl.Text.Lines
import FailoverControl.Text.Quoted

/-!
# Texts of one line

A text without a line feed is one line, and stays one when another one is joined to it. Numbers are
always one line, and so is whatever is quoted: quoting escapes line feeds. The lines of texts that
are each ended by a line feed are their lines one after the other.

The main statements: `isLine_iff`, `isLine_quoted` and `linesOf_join`.
-/

set_option autoImplicit false

namespace FailoverControl.Text

/-- Whether a text has no line feed. -/
def IsLine (s : String) : Prop := '\n' ∉ s.toList

instance : DecidablePred IsLine := fun s => inferInstanceAs (Decidable ('\n' ∉ s.toList))

/-- A text of two parts is one line when both parts are. -/
@[simp]
theorem isLine_append_iff {a b : String} : IsLine (a ++ b) ↔ IsLine a ∧ IsLine b := by
  simp [IsLine, not_or]

/-- A text is one line when no line feed is among its characters. -/
@[simp]
theorem isLine_ofList_iff {cs : List Char} : IsLine (String.ofList cs) ↔ '\n' ∉ cs := by
  rw [IsLine, String.toList_ofList]

/-- A fixed text is a line when its characters are. -/
theorem isLine_ofList {cs : List Char} (h : '\n' ∉ cs) : IsLine (String.ofList cs) :=
  isLine_ofList_iff.mpr h

/-- The empty text is one line. -/
theorem isLine_empty : IsLine "" := isLine_ofList List.not_mem_nil

/-- A line in front of a text leaves it to the text whether both are one line. -/
theorem IsLine.append_iff {a b : String} (h : IsLine a) : IsLine (a ++ b) ↔ IsLine b :=
  isLine_append_iff.trans (and_iff_right h)

/-- A text without a line feed is its only line. -/
theorem lines_eq_of_not_mem {cs : List Char} (h : '\n' ∉ cs) : lines cs = [cs] := by
  induction cs with
  | nil => rfl
  | cons c cs ih =>
    have hc : c ≠ '\n' := fun heq => h (heq ▸ List.mem_cons_self)
    have hcs : '\n' ∉ cs := fun hmem => h (List.mem_cons_of_mem c hmem)
    rw [lines, if_neg hc, ih hcs, consToFirst]

/-- A text is one line when it is the only one of its lines. -/
theorem isLine_iff {s : String} : IsLine s ↔ linesOf s = [s] := by
  constructor
  · intro h
    rw [linesOf, lines_eq_of_not_mem h, List.map_singleton, String.ofList_toList]
  · intro h
    have hlength := congrArg List.length h
    rw [linesOf, List.length_map, length_lines, List.length_singleton] at hlength
    exact List.count_eq_zero.mp (Nat.succ.inj hlength)

/-- A line feed is no numeric character. -/
theorem not_mem_of_isNumeric {cs : List Char} (h : ∀ c ∈ cs, Decimal.isNumeric c = true) :
    '\n' ∉ cs := by
  intro hmem
  cases h _ hmem

/-- A natural number is written on one line. -/
theorem isLine_text (n : Nat) : IsLine (Decimal.text n) :=
  isLine_ofList (not_mem_of_isNumeric fun _ => Decimal.isNumeric_of_mem_digits)

/-- An integer is written on one line. -/
theorem isLine_signedText (n : Int) : IsLine (Decimal.signedText n) :=
  isLine_ofList (not_mem_of_isNumeric fun _ => Decimal.isNumeric_of_mem_signedDigits)

/-! ## Quoted texts -/

/-- There is no line feed in a number to base sixteen. -/
theorem not_mem_hexText (n : Nat) : '\n' ∉ hexText n := by
  have hdigit : ∀ m < 16, '\n' ≠ hexDigit m := by decide
  fun_induction hexText n with
  | case1 n h => simpa using hdigit n h
  | case2 n h ih =>
    rw [List.mem_append, List.mem_singleton, not_or]
    exact ⟨ih, hdigit _ (Nat.mod_lt _ (by decide))⟩

/-- No quoted character holds a line feed. -/
theorem not_mem_quotedChar (c : Char) : '\n' ∉ quotedChar c := by
  have hhex := not_mem_hexText c.toNat
  unfold quotedChar
  split
  case h_7 c _ _ _ hfeed _ _ =>
    split
    · simp [hhex]
    · rw [List.mem_singleton]
      exact fun heq => hfeed heq.symm
  all_goals decide

/-- Quoting escapes line feeds. -/
theorem isLine_quoted (s : String) : IsLine (quoted s) := by
  rw [quoted, isLine_ofList_iff, List.cons_append, List.mem_cons, List.mem_append]
  rintro (heq | hbody | hquote)
  · cases heq
  · obtain ⟨c, -, hc⟩ := List.mem_flatMap.mp hbody
    exact not_mem_quotedChar c hc
  · cases List.mem_singleton.mp hquote

/-! ## Several lines -/

/-- A character in front of the first line leaves the lines behind it alone. -/
theorem consToFirst_append (c : Char) {ls : List (List Char)} (h : ls ≠ [])
    (more : List (List Char)) : consToFirst c (ls ++ more) = consToFirst c ls ++ more := by
  cases ls with
  | nil => exact absurd rfl h
  | cons line rest => rfl

/-- A line feed ends a line. -/
theorem lines_append_feed (before after : List Char) :
    lines (before ++ '\n' :: after) = lines before ++ lines after := by
  induction before with
  | nil => rfl
  | cons c cs ih =>
    rw [List.cons_append, lines, lines, ih]
    split
    · rfl
    · exact consToFirst_append c (lines_ne_nil cs) _

/-- The lines before and behind a line feed are the lines of both parts. -/
theorem linesOf_append_feed (before after : String) :
    linesOf (before ++ "\n" ++ after) = linesOf before ++ linesOf after := by
  have hchars : (before ++ "\n" ++ after).toList = before.toList ++ '\n' :: after.toList := by simp
  rw [linesOf, hchars, lines_append_feed, List.map_append, linesOf, linesOf]

/-- Texts that are each ended by a line feed; behind the last one an empty line begins. -/
theorem linesOf_join (texts : List String) :
    linesOf (String.join (texts.map (· ++ "\n"))) = texts.flatMap linesOf ++ [""] := by
  induction texts with
  | nil => rfl
  | cons text rest ih =>
    rw [List.map_cons, String.join_cons, linesOf_append_feed, ih, List.flatMap_cons,
      List.append_assoc]

/-- Texts of one line are their own lines. -/
theorem flatMap_linesOf {texts : List String} (h : ∀ text ∈ texts, IsLine text) :
    texts.flatMap linesOf = texts := by
  induction texts with
  | nil => rfl
  | cons text rest ih =>
    obtain ⟨htext, hrest⟩ := List.forall_mem_cons.mp h
    rw [List.flatMap_cons, isLine_iff.mp htext, ih hrest, List.singleton_append]

/-- A text has one more line than it has line feeds. -/
theorem length_linesOf (s : String) : (linesOf s).length = s.toList.count '\n' + 1 := by
  rw [linesOf, List.length_map, length_lines]

end FailoverControl.Text
