import FailoverControl.Operator.Sink
import FailoverControl.Text.Blank

/-!
# Questions to the operator

A question is answered by the first line that is a plain yes or no, whatever its case and the
blanks around it. Other lines are called invalid and the question is put again. Everything that
goes wrong (no more input, a line that is not text, output that cannot be written) declines.
-/

set_option autoImplicit false

namespace FailoverControl.Operator

open FailoverControl.Text

/-- What a line of input says. -/
inductive Reply where
  | yes
  | no
  /-- A text that is neither yes nor no. -/
  | unclear
  /-- Bytes that are no text. -/
  | garbled
deriving DecidableEq, Repr

/-- What a text says. -/
def Reply.ofText (s : String) : Reply :=
  let word := String.ofList ((trim s.toList).map Char.toLower)
  if word = "y" ∨ word = "yes" then .yes
  else if word = "n" ∨ word = "no" then .no
  else .unclear

/-- What a line says. -/
def Reply.ofLine (line : List UInt8) : Reply :=
  match ofBytes? line with
  | none => .garbled
  | some s => .ofText s

/-- What is written after a line that says neither yes nor no. -/
def invalidNotice : String := "Invalid input\n"

/-- A terminal: the lines that have not been read yet and the sink that questions are written
to. -/
structure Terminal where
  unread : List (List UInt8)
  sink : Sink
deriving DecidableEq, Repr

/-- The terminal of the given input. -/
def Terminal.ofInput (input : List UInt8) (sink : Sink) : Terminal :=
  ⟨splitLines input, sink⟩

/-- Puts a question until it is answered. -/
def askLines (prompt : String) : List (List UInt8) → Sink → Bool × Terminal
  | lines, sink =>
    let asked := sink.write (bytes prompt)
    if !sink.fits (bytes prompt).length || sink.flushFails then (false, ⟨lines, asked⟩)
    else
      match lines with
      | [] => (false, ⟨[], asked.write (bytes "\n")⟩)
      | line :: rest =>
        match Reply.ofLine line with
        | .yes => (true, ⟨rest, asked⟩)
        | .no => (false, ⟨rest, asked⟩)
        | .garbled => (false, ⟨rest, asked⟩)
        | .unclear =>
          let noticed := asked.write (bytes invalidNotice)
          if asked.fits (bytes invalidNotice).length then askLines prompt rest noticed
          else (false, ⟨rest, noticed⟩)

/-- Puts a question to the operator at a terminal. -/
def Terminal.confirm (prompt : String) (terminal : Terminal) : Bool × Terminal :=
  askLines prompt terminal.unread terminal.sink

end FailoverControl.Operator
