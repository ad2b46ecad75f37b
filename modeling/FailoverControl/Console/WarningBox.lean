import FailoverControl.Console.Palette
import FailoverControl.Text.Columns
import FailoverControl.Text.Lines

/-!
# Warnings in a box

A warning is framed. Its sign stands in front of the first line, the lines are padded to the
widest one.
-/

set_option autoImplicit false

namespace FailoverControl.Console

open FailoverControl.Text (columns linesOf)

/-- A text followed by as many spaces as it lacks to a width. -/
def padded (width : Nat) (s : String) : String :=
  s ++ "".pushn ' ' (width - columns s)

/-- The frame around rows that are `width` columns wide. -/
def framed (width : Nat) (rows : List String) : String :=
  let edge := "".pushn '─' width
  let shown := String.join (rows.map fun row => "│" ++ row ++ "│\n")
  "┌" ++ edge ++ "┐\n" ++ shown ++ "└" ++ edge ++ "┘"

/-- One row: the sign or the blank below it, a gap, and a padded line. -/
def warningRow (width : Nat) (sign line : String) : String :=
  " " ++ sign ++ "   " ++ padded width line ++ " "

/-- The box around a warning. -/
def Palette.warningBox (palette : Palette) (text : String) : String :=
  let sign := " " ++ palette.warningSign ++ " "
  let lines := linesOf text
  let width := (lines.map columns).foldl max 1
  let blank := "".pushn ' ' (columns sign)
  let rows :=
    match lines with
    | [] => []
    | first :: rest => warningRow width sign first :: rest.map (warningRow width blank)
  framed (columns sign + width + 5) rows

end FailoverControl.Console
