import FailoverControl.Text.Bytes

/-!
# Lines of bytes

Bytes are split behind every line feed. The lines are those whose only line feed is their last byte,
and the last line may be without one but is not empty.

The main statements: bytes are split into given lines exactly when the lines make up the bytes and
are of this kind (`splitLines_eq_iff`), so the lines behind some others are those of the bytes
behind them (`splitLines_flatten_of_append`).
-/

set_option autoImplicit false

namespace FailoverControl.Text

/-- Every line ends in its only line feed; the last one may be without, but is not empty. -/
inductive WellSplit : List (List UInt8) → Prop
  | nil : WellSplit []
  | last {line : List UInt8} (hne : line ≠ []) (hfeed : 10 ∉ line) : WellSplit [line]
  | cons {line : List UInt8} {rest : List (List UInt8)} (hfeed : 10 ∉ line)
      (hrest : WellSplit rest) : WellSplit ((line ++ [10]) :: rest)

variable {line bs : List UInt8} {before after lines : List (List UInt8)}

/-- Bytes without a line feed are one line. -/
theorem splitLines_of_not_mem (hne : line ≠ []) (hfeed : 10 ∉ line) :
    splitLines line = [line] := by
  induction line with
  | nil => exact absurd rfl hne
  | cons b rest ih =>
    have hb : b ≠ 10 := (List.ne_of_not_mem_cons hfeed).symm
    have hrest : 10 ∉ rest := List.not_mem_of_not_mem_cons hfeed
    rw [splitLines, if_neg hb]
    cases rest with
    | nil => rfl
    | cons c cs => rw [ih (List.cons_ne_nil c cs) hrest]

/-- A line feed ends its line. -/
theorem splitLines_append_feed (hfeed : 10 ∉ line) (rest : List UInt8) :
    splitLines (line ++ 10 :: rest) = (line ++ [10]) :: splitLines rest := by
  induction line with
  | nil => rfl
  | cons b others ih =>
    have hb : b ≠ 10 := (List.ne_of_not_mem_cons hfeed).symm
    rw [List.cons_append, splitLines, if_neg hb, ih (List.not_mem_of_not_mem_cons hfeed)]
    rfl

/-- Lines are what their bytes are split into. -/
theorem WellSplit.splitLines_flatten (h : WellSplit lines) : splitLines lines.flatten = lines := by
  induction h with
  | nil => rfl
  | last hne hfeed =>
    rw [List.flatten_singleton]
    exact splitLines_of_not_mem hne hfeed
  | cons hfeed _ ih =>
    rw [List.flatten_cons, List.append_assoc, List.singleton_append, splitLines_append_feed hfeed,
      ih]

/-- A byte that is no line feed goes in front of the first line. -/
theorem WellSplit.cons_first {b : UInt8} (hb : b ≠ 10) (h : WellSplit (line :: lines)) :
    WellSplit ((b :: line) :: lines) := by
  cases h with
  | last hne hfeed =>
    exact .last (List.cons_ne_nil b line) (List.not_mem_cons_of_ne_of_not_mem hb.symm hfeed)
  | @cons front _ hfeed hrest =>
    have hfront : 10 ∉ b :: front := List.not_mem_cons_of_ne_of_not_mem hb.symm hfeed
    exact .cons hfront hrest

/-- Lines are well split. -/
theorem wellSplit_splitLines (bs : List UInt8) : WellSplit (splitLines bs) := by
  induction bs with
  | nil => exact .nil
  | cons b rest ih =>
    rw [splitLines]
    split
    next hfeed =>
      subst hfeed
      have hempty : (10 : UInt8) ∉ ([] : List UInt8) := List.not_mem_nil
      exact .cons hempty ih
    next hb =>
      cases hsplit : splitLines rest with
      | nil => exact .last (List.cons_ne_nil b []) (by simpa using Ne.symm hb)
      | cons line lines => exact (hsplit ▸ ih).cons_first hb

/-- Bytes are split into the lines that make them up. -/
theorem splitLines_eq_iff : splitLines bs = lines ↔ lines.flatten = bs ∧ WellSplit lines := by
  constructor
  · rintro rfl
    exact ⟨flatten_splitLines bs, wellSplit_splitLines bs⟩
  · rintro ⟨rfl, h⟩
    exact h.splitLines_flatten

/-- The end of well split lines is well split. -/
theorem WellSplit.of_append (h : WellSplit (before ++ after)) : WellSplit after := by
  induction before with
  | nil => exact h
  | cons line rest ih =>
    rw [List.cons_append] at h
    generalize hall : rest ++ after = others at h ih
    cases h with
    | last hne hfeed =>
      rw [(List.append_eq_nil_iff.mp hall).2]
      exact .nil
    | cons hfeed hrest => exact ih hrest

/-- The lines behind some others are those of the bytes behind them. -/
theorem splitLines_flatten_of_append (h : splitLines bs = before ++ after) :
    splitLines after.flatten = after :=
  (h ▸ wellSplit_splitLines bs : WellSplit (before ++ after)).of_append.splitLines_flatten

end FailoverControl.Text
