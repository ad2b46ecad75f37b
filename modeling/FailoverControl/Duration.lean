import FailoverControl.Decimal.Digits

/-!
# Durations

A duration is a number of whole seconds, below `2 ^ 64`, and of nanoseconds below one second. Sums
are formed by parts, with a carry, and those that reach `2 ^ 64` seconds do not exist. The main
statements about a sum: it is the duration with the total of both (`add?_eq_some_iff`), and it
exists exactly when that total fits (`isSome_add?_iff`).
-/

set_option autoImplicit false

namespace FailoverControl

/-- A span of time. -/
structure Duration where
  seconds : Nat
  nanos : Nat
  seconds_lt : seconds < 18446744073709551616
  nanos_lt : nanos < 1000000000
deriving DecidableEq, Repr

namespace Duration

/-- The span in nanoseconds. -/
def total (d : Duration) : Nat :=
  1000000000 * d.seconds + d.nanos

/-- The duration of a number of seconds and of nanoseconds below one second, if the seconds are
below `2 ^ 64`. -/
def ofParts? (seconds nanos : Nat) (hnanos : nanos < 1000000000) : Option Duration :=
  if hseconds : seconds < 18446744073709551616 then some ⟨seconds, nanos, hseconds, hnanos⟩
  else none

/-- The duration of a number of nanoseconds, if it is below `2 ^ 64` seconds. -/
def ofNanos? (n : Nat) : Option Duration :=
  ofParts? (n / 1000000000) (n % 1000000000) (Nat.mod_lt _ (by decide))

/-- A whole number of seconds. -/
def ofSeconds (n : UInt64) : Duration :=
  ⟨n.toNat, 0, n.toNat_lt, by decide⟩

/-- The sum of two durations, unless it reaches `2 ^ 64` seconds. Nanoseconds that fill a second
are carried over. -/
def add? (a b : Duration) : Option Duration :=
  if hnanos : a.nanos + b.nanos < 1000000000 then
    ofParts? (a.seconds + b.seconds) (a.nanos + b.nanos) hnanos
  else
    ofParts? (a.seconds + b.seconds + 1) (a.nanos + b.nanos - 1000000000)
      (by have := a.nanos_lt; have := b.nanos_lt; omega)

/-- A number of whole seconds is that many thousand million nanoseconds. -/
theorem total_ofSeconds (n : UInt64) : (ofSeconds n).total = 1000000000 * n.toNat := by
  simp [total, ofSeconds]

/-- The nanoseconds of a duration are bounded by those of `2 ^ 64` seconds. -/
theorem total_lt (d : Duration) : d.total < 18446744073709551616 * 1000000000 := by
  have hseconds := d.seconds_lt
  have hnanos := d.nanos_lt
  unfold total
  omega

/-- The whole seconds of a duration are part of its nanoseconds. -/
theorem seconds_le_total (d : Duration) : 1000000000 * d.seconds ≤ d.total :=
  Nat.le_add_right _ _

/-- Whole seconds cut off less than one second. -/
theorem total_lt_seconds (d : Duration) : d.total < 1000000000 * (d.seconds + 1) :=
  Nat.add_lt_add_left d.nanos_lt _

/-- The seconds of a duration are its nanoseconds, divided and rounded down. -/
theorem seconds_eq (d : Duration) : d.seconds = d.total / 1000000000 := by
  have hnanos := d.nanos_lt
  unfold total
  omega

/-- The nanoseconds behind the seconds are what the division leaves. -/
theorem nanos_eq (d : Duration) : d.nanos = d.total % 1000000000 := by
  have hnanos := d.nanos_lt
  unfold total
  omega

/-- A duration is determined by its parts. -/
theorem ofParts?_eq_some_iff {seconds nanos : Nat} {hnanos : nanos < 1000000000} {d : Duration} :
    ofParts? seconds nanos hnanos = some d ↔ d.seconds = seconds ∧ d.nanos = nanos := by
  unfold ofParts?
  split
  case isTrue =>
    constructor
    · rintro ⟨⟩
      exact ⟨rfl, rfl⟩
    · rintro ⟨rfl, rfl⟩
      rfl
  case isFalse hseconds =>
    constructor
    · nofun
    · rintro ⟨rfl, -⟩
      exact absurd d.seconds_lt hseconds

/-- A duration is determined by its number of nanoseconds. -/
theorem ofNanos?_eq_some_iff {n : Nat} {d : Duration} : ofNanos? n = some d ↔ d.total = n := by
  rw [ofNanos?, ofParts?_eq_some_iff, seconds_eq, nanos_eq]
  constructor
  · rintro ⟨hdiv, hmod⟩
    omega
  · rintro rfl
    exact ⟨rfl, rfl⟩

/-- A number of nanoseconds is a duration when its seconds fit their word. -/
theorem isSome_ofNanos?_iff (n : Nat) :
    (ofNanos? n).isSome ↔ n < 18446744073709551616 * 1000000000 := by
  unfold ofNanos? ofParts?
  split <;> simp <;> omega

/-- The sum by parts is the duration of the sum of the nanoseconds. -/
theorem add?_eq_ofNanos? (a b : Duration) : a.add? b = ofNanos? (a.total + b.total) := by
  have ha := a.nanos_lt
  have hb := b.nanos_lt
  ext c
  have hc := c.nanos_lt
  rw [ofNanos?_eq_some_iff, add?]
  split
  · rw [ofParts?_eq_some_iff]
    unfold total
    omega
  · rw [ofParts?_eq_some_iff]
    unfold total
    omega

/-- The sum is the duration with the total of both. -/
theorem add?_eq_some_iff {a b c : Duration} : a.add? b = some c ↔ c.total = a.total + b.total := by
  rw [add?_eq_ofNanos?, ofNanos?_eq_some_iff]

/-- A sum exists exactly when it stays below `2 ^ 64` seconds. -/
theorem isSome_add?_iff (a b : Duration) :
    (a.add? b).isSome ↔ a.total + b.total < 18446744073709551616 * 1000000000 := by
  rw [add?_eq_ofNanos?, isSome_ofNanos?_iff]

/-- A fraction with a given number of places, without the zeros it ends with; nothing when it is
zero. -/
def fractionText (fraction places : Nat) : List Char :=
  if fraction = 0 then []
  else
    let ds := Decimal.digits fraction
    let padded := List.replicate (places - ds.length) '0' ++ ds
    '.' :: (padded.reverse.dropWhile (· == '0')).reverse

/-- A number of nanoseconds in the largest of the units second, millisecond, microsecond and
nanosecond that it reaches. -/
def text (d : Duration) : String :=
  let (whole, fraction, places, unit) :=
    if 0 < d.seconds then (d.seconds, d.nanos, 9, "s")
    else if 1000000 ≤ d.nanos then (d.nanos / 1000000, d.nanos % 1000000, 6, "ms")
    else if 1000 ≤ d.nanos then (d.nanos / 1000, d.nanos % 1000, 3, "µs")
    else (d.nanos, 0, 0, "ns")
  Decimal.text whole ++ String.ofList (fractionText fraction places) ++ unit

end Duration

end FailoverControl
