/-!
# Decimal digits

Natural numbers and integers in base ten. The main statement is that the digits of a number read
back as that number.
-/

set_option autoImplicit false

namespace FailoverControl.Decimal

/-- The digit of value `n`, below ten. -/
def digit (n : Nat) : Char :=
  Char.ofNat ('0'.toNat + n)

/-- A number in base ten, without leading zeros. -/
def digits (n : Nat) : List Char :=
  if n < 10 then [digit n] else digits (n / 10) ++ [digit (n % 10)]
termination_by n

/-- The value of a decimal digit. -/
def digitValue (c : Char) : Nat :=
  c.toNat - '0'.toNat

/-- The number written by a run of decimal digits. -/
def ofDigits (cs : List Char) : Nat :=
  cs.foldl (fun n c => 10 * n + digitValue c) 0

/-- An integer in base ten, with a sign only when it is negative. -/
def signedDigits (n : Int) : List Char :=
  if n < 0 then '-' :: digits n.natAbs else digits n.natAbs

/-- The text of a natural number in base ten. -/
def text (n : Nat) : String :=
  String.ofList (digits n)

/-- The text of an integer in base ten. -/
def signedText (n : Int) : String :=
  String.ofList (signedDigits n)

/-- The value of the digit of a number is that number. -/
theorem digitValue_digit {n : Nat} (h : n < 10) : digitValue (digit n) = n := by
  have : ∀ m < 10, digitValue (digit m) = m := by decide
  exact this n h

/-- The digits of a number are decimal digits. -/
theorem isDigit_of_mem_digits (n : Nat) : ∀ c ∈ digits n, c.isDigit = true := by
  have hdigit : ∀ m < 10, (digit m).isDigit = true := by decide
  fun_induction digits n with
  | case1 n h => simpa using hdigit n h
  | case2 n h ih =>
    intro c hc
    rcases List.mem_append.1 hc with hc | hc
    · exact ih c hc
    · rw [List.mem_singleton.1 hc]
      exact hdigit _ (Nat.mod_lt _ (by decide))

/-- The digits of a number read back as that number. -/
theorem ofDigits_digits (n : Nat) : ofDigits (digits n) = n := by
  fun_induction digits n with
  | case1 n h => simpa [ofDigits] using digitValue_digit h
  | case2 n h ih =>
    have hlast := digitValue_digit (Nat.mod_lt n (by decide : 0 < 10))
    rw [ofDigits] at ih
    rw [ofDigits, List.foldl_append, ih, List.foldl_cons, List.foldl_nil, hlast]
    omega

/-- The text of a number is the one in which numbers are written elsewhere. -/
theorem text_eq_toString (n : Nat) : text n = toString n := by
  have hdigit : ∀ m < 10, digit m = m.digitChar := by decide
  have hdigits : digits n = Nat.toDigits 10 n := by
    fun_induction digits n with
    | case1 n h => rw [Nat.toDigits_of_lt_base h, hdigit n h]
    | case2 n h ih =>
      rw [Nat.toDigits_of_base_le (by decide) (Nat.le_of_not_lt h), ih,
        hdigit _ (Nat.mod_lt _ (by decide))]
  rw [text, hdigits]
  rfl

/-- Every number has a digit. -/
theorem digits_ne_nil (n : Nat) : digits n ≠ [] := by
  unfold digits
  split <;> simp

end FailoverControl.Decimal
