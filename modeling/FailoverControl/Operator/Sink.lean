import FailoverControl.Text.Bytes

/-!
# Sinks of output

Where questions are written to. A sink may take a limited number of bytes only, and flushing it
may fail. A write that does not fit is cut short and fails. The main statement: a write that
fits is taken completely.
-/

set_option autoImplicit false

namespace FailoverControl.Operator

/-- What a sink has taken, how much it still takes (without a limit if that is not given), and
whether flushing it fails. -/
structure Sink where
  taken : List UInt8
  room : Option Nat
  flushFails : Bool
deriving DecidableEq, Repr

namespace Sink

/-- A sink without limits. -/
def unlimited : Sink := ⟨[], none, false⟩

/-- Whether so many bytes fit. -/
def fits (sink : Sink) (count : Nat) : Bool :=
  sink.room.all (count ≤ ·)

/-- Writes as many of the bytes as fit. -/
def write (bs : List UInt8) (sink : Sink) : Sink :=
  match sink.room with
  | none => { sink with taken := sink.taken ++ bs }
  | some room =>
    { sink with taken := sink.taken ++ bs.take room, room := some (room - bs.length) }

/-- What fits is taken completely. -/
theorem taken_write_of_fits {bs : List UInt8} {sink : Sink} (h : sink.fits bs.length = true) :
    (sink.write bs).taken = sink.taken ++ bs := by
  unfold write
  split
  · rfl
  · rename_i room hroom
    have hle : bs.length ≤ room := by simpa [fits, hroom] using h
    simp [List.take_of_length_le hle]

end Sink

end FailoverControl.Operator
