import FailoverControl.Decimal.Shortest

/-!
# The characters of a numeral

Whatever number is written, only digits, signs, a point and an exponent mark are used. So a numeral
never begins a string of a JSON text and never breaks a line.

The main statement: `isNumeric_of_mem_text`.
-/

set_option autoImplicit false

namespace FailoverControl.Decimal

/-- Whether a character may stand in a numeral. -/
def isNumeric (c : Char) : Bool :=
  c.isDigit || ['.', 'e', '+', '-'].contains c

/-- Decimal digits are made of numeric characters. -/
theorem isNumeric_of_mem_digits {n : Nat} {c : Char} (h : c ∈ digits n) : isNumeric c = true := by
  rw [isNumeric, isDigit_of_mem_digits n c h, Bool.true_or]

/-- Signed digits are made of numeric characters. -/
theorem isNumeric_of_mem_signedDigits {n : Int} {c : Char} (h : c ∈ signedDigits n) :
    isNumeric c = true := by
  unfold signedDigits at h
  split at h
  · rcases List.mem_cons.mp h with rfl | h
    · rfl
    · exact isNumeric_of_mem_digits h
  · exact isNumeric_of_mem_digits h

/-- An exponent is made of numeric characters. -/
theorem isNumeric_of_mem_exponentText {exponent : Int} {c : Char}
    (h : c ∈ exponentText exponent) : isNumeric c = true := by
  rcases List.mem_cons.mp h with rfl | h
  · split <;> rfl
  · exact isNumeric_of_mem_digits h

/-- Placing the point adds numeric characters only. -/
theorem isNumeric_of_mem_placedDigits {ds : List Char} (hds : ∀ c ∈ ds, isNumeric c = true)
    {leading : Int} : ∀ c ∈ placedDigits ds leading, isNumeric c = true := by
  have hexponent : ∀ c ∈ exponentText leading, isNumeric c = true :=
    fun c hc => isNumeric_of_mem_exponentText hc
  have hpoint : isNumeric '.' = true := rfl
  have hmark : isNumeric 'e' = true := rfl
  have hzero : isNumeric '0' = true := rfl
  have hzeros : ∀ k, ∀ d ∈ List.replicate k '0', isNumeric d = true := by
    intro k d hd
    rw [List.eq_of_mem_replicate hd]
    rfl
  intro c hc
  unfold placedDigits at hc
  split at hc
  · split at hc
    · cases hc
    · grind
    · grind
  · split at hc
    · grind
    · rcases List.mem_append.mp hc with hwhole | hfraction
      · rcases List.mem_append.mp hwhole with hc | hc
        · exact hds c (List.mem_of_mem_take hc)
        · exact hzeros _ c hc
      · rcases List.mem_cons.mp hfraction with rfl | hc
        · exact hpoint
        · split at hc
          · rw [List.mem_singleton.mp hc]
            exact hzero
          · exact hds c (List.mem_of_mem_drop hc)

/-- Only the characters of a numeral are used to write a floating-point number. -/
theorem isNumeric_of_mem_text {x : Binary64} {c : Char} (h : c ∈ x.text) : isNumeric c = true := by
  have hplaced (n : Nat) (leading : Int) :
      ∀ c ∈ placedDigits (significantDigits n) leading, isNumeric c = true := by
    refine isNumeric_of_mem_placedDigits fun c hc => ?_
    rw [significantDigits, List.mem_reverse] at hc
    have hdigits := List.mem_reverse.mp ((List.dropWhile_sublist _).mem hc)
    exact isNumeric_of_mem_digits hdigits
  have hsign : isNumeric '-' = true := rfl
  have hpoint : isNumeric '.' = true := rfl
  have hzero : isNumeric '0' = true := rfl
  unfold Binary64.text at h
  grind

end FailoverControl.Decimal
