/-!
# Bytes of texts

Texts as the bytes of their UTF-8 form, which is how they are read from files and terminals. The
main statements: the bytes of a text read back as that text, and the lines of a run of bytes make
up that run.
-/

set_option autoImplicit false

namespace FailoverControl.Text

/-- The bytes of a text. -/
def bytes (s : String) : List UInt8 :=
  s.toByteArray.data.toList

/-- The text that bytes write, if they write one. -/
def ofBytes? (bs : List UInt8) : Option String :=
  String.fromUTF8? ⟨bs.toArray⟩

/-- The bytes of a text read back as that text. -/
theorem ofBytes?_bytes (s : String) : ofBytes? (bytes s) = some s := by
  simp only [ofBytes?, bytes, Array.toArray_toList]
  exact dif_pos s.isValidUTF8

/-- What is shown of bytes that may have been cut off inside of a character: the longest text that
they begin with, and the replacement character for the rest. -/
def displayed (bs : List UInt8) : String :=
  match ofBytes? bs with
  | some s => s
  | none =>
    let cuts := (List.range 4).filterMap fun n => ofBytes? (bs.take (bs.length - n))
    cuts.head?.getD "" ++ "\ufffd"

/-- Splits bytes after every line feed; the last line may lack one. -/
def splitLines : List UInt8 → List (List UInt8)
  | [] => []
  | b :: bs =>
    if b = 10 then [b] :: splitLines bs
    else
      match splitLines bs with
      | [] => [[b]]
      | line :: lines => (b :: line) :: lines

/-- The lines make up the bytes they were split from. -/
theorem flatten_splitLines (bs : List UInt8) : (splitLines bs).flatten = bs := by
  induction bs with
  | nil => rfl
  | cons b bs ih =>
    rw [splitLines]
    split
    · simp [ih]
    · split <;> simp_all

end FailoverControl.Text
