import FailoverControl.Console.Context

/-!
# Styled texts

A style is written as terminal escapes around the text, also around an empty one. It shows only
when the settings ask for colors and the console emits escapes.
-/

set_option autoImplicit false

namespace FailoverControl.Console

/-- What a style says about a text. -/
inductive Style where
  /-- Failures. -/
  | danger
  /-- Caution. -/
  | warn
  /-- Completed actions. -/
  | success
deriving DecidableEq, Repr

/-- The escapes that begin a style: red and bold, magenta, green. -/
def Style.opening : Style → String
  | .danger => "\x1b[31m\x1b[1m"
  | .warn => "\x1b[35m"
  | .success => "\x1b[32m"

/-- The escape that ends every style. -/
def closing : String := "\x1b[0m"

/-- What decides how output looks. -/
structure Palette where
  context : Context
  /-- Whether the console emits escapes at all. -/
  escapes : Bool
deriving DecidableEq, Repr

namespace Palette

/-- The palette with colors everywhere or nowhere. -/
def uniform (colors : Bool) : Palette := ⟨⟨false, colors⟩, colors⟩

/-- Builds settings, which switches the escapes; the settings in use stay. -/
def switched (palette : Palette) (built : Context) : Palette :=
  { palette with escapes := built.colors }

/-- Puts settings to use. -/
def adopt (palette : Palette) (context : Context) : Palette :=
  { palette with context }

/-- A text in a style. -/
def styled (palette : Palette) (style : Style) (text : String) : String :=
  if palette.context.colors && palette.escapes then style.opening ++ text ++ closing else text

/-- The sign in front of a warning. -/
def warningSign (palette : Palette) : String :=
  if palette.context.colors then "⚠\ufe0f" else "[WARNING]:"

end Palette

end FailoverControl.Console
