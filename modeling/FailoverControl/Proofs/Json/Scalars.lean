import FailoverControl.Json.Skip
import FailoverControl.Proofs.Json.Strings
import FailoverControl.Proofs.Json.Tree

/-!
# Scalars that are passed over

A word, a string or a numeral that can be read can be passed over, and the same rest of the text is
left, which is shorter. The converse fails: a string that is passed over may leave the halves of a
surrogate pair alone, and a numeral that is passed over may be out of range.
-/

set_option autoImplicit false

namespace FailoverControl.Json

/-! ## Words and strings -/

/-- Passing over a word does not lengthen the text. -/
theorem length_skipWord_le {word cs rest : List Char} (h : skipWord word cs = .ok rest) :
    rest.length ≤ cs.length := by
  induction word generalizing cs with
  | nil =>
    simp only [skipWord, Except.ok.injEq] at h
    rw [h]
  | cons w word ih =>
    cases cs with
    | nil => simp [skipWord] at h
    | cons c cs =>
      simp only [skipWord] at h
      split at h
      · exact Nat.le_succ_of_le (ih h)
      · simp at h

/-- A string that can be read can be passed over. -/
theorem skipStringBody_of_read {cs s rest : List Char} (h : readStringBody cs = .ok (s, rest)) :
    skipStringBody cs = .ok rest := by
  obtain ⟨body, rfl, hspells⟩ := exists_spells_of_read h
  exact skipStringBody_of_stringBody hspells.stringBody rest

/-- A string takes at least its closing quote. -/
theorem length_skipStringBody_lt {cs rest : List Char} (h : skipStringBody cs = .ok rest) :
    rest.length < cs.length := by
  obtain ⟨body, rfl, -⟩ := exists_stringBody_of_skip h
  rw [List.length_append, List.length_cons]
  omega

/-! ## Numerals -/

/-- A text of which something is taken begins with a character of that kind. -/
theorem head?_any_of_takeWhile_ne_nil {p : Char → Bool} {cs : List Char}
    (h : (cs.takeWhile p).isEmpty = false) : cs.head?.any p = true := by
  cases cs with
  | nil => simp at h
  | cons c cs =>
    rw [List.takeWhile_cons] at h
    cases hc : p c
    · simp [hc] at h
    · simp [hc]

/-- What was read of a numeral tells nothing about what is left behind it. -/
theorem rest_eq_of_map {made : Except DecodeError Numeral} {left rest : List Char} {n : Numeral}
    (h : (made.map fun n => (n, left)) = .ok (n, rest)) : left = rest := by
  cases made with
  | error e => simp [Except.map] at h
  | ok m => exact (Prod.mk.inj (Except.ok.inj h)).2

variable {negative : Bool} {significand dropped : Nat} {exponent : Int} {cs rest : List Char}
  {n : Numeral}

/-- The digits of an exponent that can be read can be passed over. -/
theorem skipExponentDigits_of_read {negativeExponent : Bool}
    (h : readExponentDigits negative significand exponent negativeExponent cs = .ok (n, rest)) :
    skipExponentDigits cs = .ok rest := by
  simp only [readExponentDigits] at h
  split at h
  · simp at h
  next hdigits =>
    have hhead := head?_any_of_takeWhile_ne_nil (Bool.eq_false_iff.mpr hdigits)
    rw [skipExponentDigits, if_pos hhead]
    split at h
    · split at h
      · simp at h
      · rw [(Prod.mk.inj (Except.ok.inj h)).2]
    · rw [rest_eq_of_map h]

/-- An exponent that can be read can be passed over. -/
theorem skipExponent_of_read (h : readExponent negative significand exponent cs = .ok (n, rest)) :
    skipExponent cs = .ok rest := by
  unfold readExponent at h
  unfold skipExponent
  split at h <;> exact skipExponentDigits_of_read h

/-- What can be read behind a fraction can be passed over. -/
theorem skipOptionalExponent_of_read
    (h : readAfterFraction negative significand exponent cs = .ok (n, rest)) :
    skipOptionalExponent cs = .ok rest := by
  unfold readAfterFraction at h
  unfold skipOptionalExponent
  split at h
  · exact skipExponent_of_read h
  · exact skipExponent_of_read h
  · rw [rest_eq_of_map h]

/-- What can be read behind the whole part of a numeral can be passed over. -/
theorem skipAfterWhole_of_read
    (h : readAfterWhole negative significand dropped cs = .ok (n, rest)) :
    skipAfterWhole cs = .ok rest := by
  unfold readAfterWhole at h
  unfold skipAfterWhole
  split at h
  next fraction =>
    simp only [readFraction] at h
    split at h
    · simp at h
    next hdigits =>
      have hhead := head?_any_of_takeWhile_ne_nil (Bool.eq_false_iff.mpr hdigits)
      simp only [if_pos hhead]
      exact skipOptionalExponent_of_read h
  next => exact skipExponent_of_read h
  next => exact skipExponent_of_read h
  next hpoint he hE =>
    simp only [skipOptionalExponent]
    split at h
    · rw [rest_eq_of_map h]
    · rw [rest_eq_of_map h]

/-- A numeral that can be read can be passed over. -/
theorem skipNumeral_of_read (h : readNumeral negative cs = .ok (n, rest)) :
    skipNumeral cs = .ok rest := by
  unfold readNumeral at h
  unfold skipNumeral
  split at h
  · simp at h
  next digits =>
    split at h
    · simp at h
    next hnext =>
      simp only [if_neg hnext]
      exact skipAfterWhole_of_read h
  next c digits hzero =>
    split at h
    next hdigit =>
      simp only [List.dropWhile_cons_of_pos hdigit] at h
      simp only [if_pos hdigit]
      exact skipAfterWhole_of_read h
    · simp at h

/-- Passing over the digits of an exponent does not lengthen the text. -/
theorem length_skipExponentDigits_le (h : skipExponentDigits cs = .ok rest) :
    rest.length ≤ cs.length := by
  unfold skipExponentDigits at h
  split at h
  · cases h
    exact (List.dropWhile_suffix _).length_le
  · simp at h

/-- Passing over an exponent does not lengthen the text. -/
theorem length_skipOptionalExponent_le (h : skipOptionalExponent cs = .ok rest) :
    rest.length ≤ cs.length := by
  have hexponent {cs : List Char} (h : skipExponent cs = .ok rest) : rest.length ≤ cs.length := by
    unfold skipExponent at h
    split at h
    · exact Nat.le_succ_of_le (length_skipExponentDigits_le h)
    · exact Nat.le_succ_of_le (length_skipExponentDigits_le h)
    · exact length_skipExponentDigits_le h
  unfold skipOptionalExponent at h
  split at h
  · exact Nat.le_succ_of_le (hexponent h)
  · exact Nat.le_succ_of_le (hexponent h)
  · cases h
    exact Nat.le_refl _

/-- Passing over what follows a whole part does not lengthen the text. -/
theorem length_skipAfterWhole_le (h : skipAfterWhole cs = .ok rest) : rest.length ≤ cs.length := by
  unfold skipAfterWhole at h
  split at h
  next fraction =>
    split at h
    · have hfraction : (fraction.dropWhile Char.isDigit).length ≤ fraction.length :=
        (List.dropWhile_suffix _).length_le
      have := length_skipOptionalExponent_le h
      simp only [List.length_cons]
      omega
    · simp at h
  · exact length_skipOptionalExponent_le h

/-- A numeral takes at least one character. -/
theorem length_skipNumeral_lt (h : skipNumeral cs = .ok rest) : rest.length < cs.length := by
  unfold skipNumeral at h
  split at h
  · split at h
    · simp at h
    · exact Nat.lt_succ_of_le (length_skipAfterWhole_le h)
  next c digits hzero =>
    split at h
    · have hdigits : (digits.dropWhile Char.isDigit).length ≤ digits.length :=
        (List.dropWhile_suffix _).length_le
      have := length_skipAfterWhole_le h
      simp only [List.length_cons]
      omega
    · simp at h
  · simp at h

/-! ## Scalars -/

/-- No digit opens a word, a string or a sign. -/
theorem ne_of_isDigit {c d : Char} (hc : c.isDigit = true) (hd : d.isDigit = false) : c ≠ d := by
  rintro rfl
  exact absurd hc (by simp [hd])

/-- A digit opens neither a word nor a string and is no sign. -/
theorem ne_openers_of_isDigit {c : Char} (hc : c.isDigit = true) :
    c ≠ 'n' ∧ c ≠ 't' ∧ c ≠ 'f' ∧ c ≠ '"' ∧ c ≠ '-' :=
  ⟨ne_of_isDigit hc rfl, ne_of_isDigit hc rfl, ne_of_isDigit hc rfl, ne_of_isDigit hc rfl,
    ne_of_isDigit hc rfl⟩

/-- A text that stands for a scalar is read as that scalar. -/
theorem readScalar_of_scalarRead {v : Value} (h : ScalarRead cs v rest) :
    readScalar cs = .ok (v, rest) := by
  cases h with
  | null hread => simp only [readScalar, hread, Except.map]
  | true hread => simp only [readScalar, hread, Except.map]
  | false hread => simp only [readScalar, hread, Except.map]
  | string hread => simp only [readScalar, hread, Except.map]
  | negative hread => simp only [readScalar, hread, Except.map]
  | @positive c digits _ n hdigit hread =>
    obtain ⟨hn, ht, hf, hquote, hminus⟩ := ne_openers_of_isDigit hdigit
    rw [readScalar, if_pos hdigit, hread, Except.map]
    all_goals assumption

/-- A scalar that can be read can be passed over. -/
theorem skipScalar_of_scalarRead {v : Value} (h : ScalarRead cs v rest) :
    skipScalar cs = .ok rest := by
  cases h with
  | null hread => exact hread
  | true hread => exact hread
  | false hread => exact hread
  | string hread =>
    obtain ⟨body, -, hbody⟩ := exists_of_map_eq_ok hread
    exact skipStringBody_of_read hbody
  | negative hread => exact skipNumeral_of_read hread
  | @positive c digits _ n hdigit hread =>
    obtain ⟨hn, ht, hf, hquote, hminus⟩ := ne_openers_of_isDigit hdigit
    rw [skipScalar, if_pos hdigit]
    · exact skipNumeral_of_read hread
    all_goals assumption

/-- A scalar takes at least one character. -/
theorem length_skipScalar_lt (h : skipScalar cs = .ok rest) : rest.length < cs.length := by
  unfold skipScalar at h
  split at h
  · simp at h
  · exact Nat.lt_succ_of_le (length_skipWord_le h)
  · exact Nat.lt_succ_of_le (length_skipWord_le h)
  · exact Nat.lt_succ_of_le (length_skipWord_le h)
  · exact Nat.lt_succ_of_lt (length_skipStringBody_lt h)
  · exact Nat.lt_succ_of_lt (length_skipNumeral_lt h)
  · split at h
    · exact length_skipNumeral_lt h
    · simp at h

end FailoverControl.Json
