/-!
# Lines of a text

A text is split at its line feeds, which belong to no line; the text after the last line feed is a
line as well, even an empty one. The main statement: a text has one line more than it has line
feeds.
-/

set_option autoImplicit false

namespace FailoverControl.Text

/-- Puts a character in front of the first line. -/
def consToFirst (c : Char) : List (List Char) → List (List Char)
  | [] => [[c]]
  | line :: rest => (c :: line) :: rest

/-- The lines between the line feeds of a text. -/
def lines : List Char → List (List Char)
  | [] => [[]]
  | c :: cs => if c = '\n' then [] :: lines cs else consToFirst c (lines cs)

/-- A character in front of the first line adds no line. -/
theorem length_consToFirst (c : Char) {ls : List (List Char)} (h : ls ≠ []) :
    (consToFirst c ls).length = ls.length := by
  cases ls with
  | nil => exact absurd rfl h
  | cons line rest => rfl

/-- Every text has a line. -/
theorem lines_ne_nil (cs : List Char) : lines cs ≠ [] := by
  cases cs with
  | nil => simp [lines]
  | cons c cs =>
    rw [lines]
    split
    · simp
    · cases lines cs <;> simp [consToFirst]

/-- A text has one line more than it has line feeds. -/
theorem length_lines (cs : List Char) : (lines cs).length = cs.count '\n' + 1 := by
  induction cs with
  | nil => rfl
  | cons c cs ih =>
    rw [lines]
    split
    · rename_i h
      simp [h, ih]
    · rename_i h
      rw [length_consToFirst c (lines_ne_nil cs), ih, List.count_cons_of_ne h]

/-- The lines of a string. -/
def linesOf (s : String) : List String :=
  (lines s.toList).map String.ofList

end FailoverControl.Text
