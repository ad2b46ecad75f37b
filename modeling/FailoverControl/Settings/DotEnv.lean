import FailoverControl.Settings.Environment
import FailoverControl.Text.Alphanumeric
import FailoverControl.Text.Blank
import FailoverControl.Text.Bytes

/-!
# Files of variables

A file sets one variable a line: a name, an equals sign and a value, possibly behind `export`.
Values may be quoted, also across lines, may escape single characters, and may refer to variables.
A malformed line ends the reading; what the lines before it set stays set. An assignment that the
system does not take ends it, too, and the program with it.
-/

set_option autoImplicit false

namespace FailoverControl.Settings

open FailoverControl.Text (isAlphanumeric isBlank trimEnd)

/-! ## Where a line ends -/

/-- What a character stands behind when lines are put together. -/
inductive Quoting where
  | plain
  | afterBlank
  | escaped
  | single
  | singleEscaped
  | double
  | doubleEscaped
deriving DecidableEq, Repr

namespace Quoting

/-- Enters quotes and escapes. -/
def enter (c : Char) : Quoting :=
  if c = '\\' then .escaped
  else if c = '"' then .double
  else if c = '\'' then .single
  else .plain

/-- Sees one more character. -/
def step (quoting : Quoting) (c : Char) : Quoting :=
  match quoting with
  | .plain => if isBlank c && c ≠ '\n' && c ≠ '\r' then .afterBlank else enter c
  | .afterBlank => enter c
  | .escaped => .plain
  | .single => if c = '\\' then .singleEscaped else if c = '\'' then .plain else .single
  | .singleEscaped => .single
  | .double => if c = '\\' then .doubleEscaped else if c = '"' then .plain else .double
  | .doubleEscaped => .double

end Quoting

/-- What is in front of the comment of a line, if it has one, else how quoting stands at its
end. -/
def scanLine : Quoting → List Char → Except (List Char) Quoting
  | quoting, [] => .ok quoting
  | quoting, c :: cs =>
    if quoting = .afterBlank && c = '#' then .error []
    else
      match scanLine (quoting.step c) cs with
      | .error before => .error (c :: before)
      | .ok quoting => .ok quoting

/-- A line without the line end. -/
def chomp (cs : List Char) : List Char :=
  if cs.getLast? = some '\n' then
    let cs := cs.dropLast
    if cs.getLast? = some '\r' then cs.dropLast else cs
  else cs

/-! ## Values -/

/-- A reference to a variable that is being read; its name is reversed. Without braces the name
consists of letters and numbers. -/
inductive Reference where
  | bare (name : List Char)
  | braced (name : List Char)

/-- How far a value has been read. -/
structure ValueScan where
  /-- What has been read, reversed. -/
  output : List Char
  single : Bool
  double : Bool
  escaped : Bool
  reference : Option Reference
  /-- Whether only blanks and a comment may follow. -/
  ended : Bool
  /-- Whether a comment has begun. -/
  comment : Bool

namespace ValueScan

/-- Nothing has been read. -/
def start : ValueScan := ⟨[], false, false, false, none, false, false⟩

/-- Reads one plain character. -/
def push (scan : ValueScan) (c : Char) : ValueScan :=
  { scan with output := c :: scan.output }

/-- Puts the value of a variable in. -/
def substitute (env : Environment) (name : List Char) (scan : ValueScan) : ValueScan :=
  let value := (env.refer? (String.ofList name.reverse)).getD ""
  { scan with output := value.toList.reverse ++ scan.output, reference := none }

/-- Reads one character behind a backslash. -/
def stepEscaped (scan : ValueScan) (c : Char) : Option ValueScan :=
  let scan := { scan with escaped := false }
  if ['\\', '\'', '"', '$', ' '].contains c then some (scan.push c)
  else if c = 'n' then some (scan.push '\n')
  else none

/-- Reads one character of a reference. -/
def stepReference (env : Environment) (reference : Reference) (scan : ValueScan) (c : Char) :
    ValueScan :=
  match reference with
  | .bare name =>
    if isAlphanumeric c then { scan with reference := some (.bare (c :: name)) }
    else if c = '\x7b' && name.isEmpty then { scan with reference := some (.braced []) }
    else
      let scan := scan.substitute env name
      if c = '$' then { scan with reference := some (.bare []) } else scan.push c
  | .braced name =>
    if c = '\x7d' then scan.substitute env name
    else { scan with reference := some (.braced (c :: name)) }

/-- Reads one character outside of single quotes, escapes and references. -/
def stepOpen (scan : ValueScan) (c : Char) : ValueScan :=
  if c = '$' then { scan with reference := some (.bare []) }
  else if c = '"' then { scan with double := !scan.double }
  else if c = '\\' then { scan with escaped := true }
  else if scan.double then scan.push c
  else if c = '\'' then { scan with single := true }
  else if c = ' ' || c = '\t' then { scan with ended := true }
  else scan.push c

/-- Reads one character. -/
def step (env : Environment) (scan : ValueScan) (c : Char) : Option ValueScan :=
  if scan.comment then some scan
  else if scan.ended then
    if c = ' ' || c = '\t' then some scan
    else if c = '#' then some { scan with comment := true }
    else none
  else if scan.escaped then scan.stepEscaped c
  else if scan.single then
    some (if c = '\'' then { scan with single := false } else scan.push c)
  else
    match scan.reference with
    | some reference => some (scan.stepReference env reference c)
    | none => some (scan.stepOpen c)

/-- The value that has been read; quotes and braces must be closed. -/
def finish (env : Environment) (scan : ValueScan) : Option String :=
  if scan.single || scan.double then none
  else
    match scan.reference with
    | some (.braced _) => none
    | some (.bare name) => some (String.ofList (scan.substitute env name).output.reverse)
    | none => some (String.ofList scan.output.reverse)

end ValueScan

/-- The value that a text writes. -/
def readValue? (env : Environment) (cs : List Char) : Option String :=
  (cs.foldlM (ValueScan.step env) ValueScan.start).bind (ValueScan.finish env)

/-! ## Lines -/

/-- What a line does. -/
inductive Line where
  | nothing
  | assignment (name value : String)
  | malformed

/-- Splits the name off the front of a line. -/
def takeName? (cs : List Char) : Option (List Char × List Char) :=
  match cs with
  | [] => none
  | c :: _ =>
    if c.isAlpha || c = '_' then some (cs.span fun d => d.isAlphanum || d = '_' || d = '.')
    else none

/-- Splits name and value; `export` may stand in front of the name, or be the name. -/
def splitAssignment? (cs : List Char) : Option (List Char × List Char) := do
  let (name, rest) ← takeName? cs
  let (name, rest) ←
    match rest.dropWhile isBlank with
    | '=' :: rest => some (name, '=' :: rest)
    | rest => if String.ofList name = "export" then takeName? rest else none
  match rest.dropWhile isBlank with
  | '=' :: value => some (name, value.dropWhile isBlank)
  | _ => none

/-- Reads one line. -/
def readLine (env : Environment) (line : List Char) : Line :=
  match (trimEnd line).dropWhile isBlank with
  | [] => .nothing
  | '#' :: _ => .nothing
  | cs =>
    match splitAssignment? cs with
    | none => .malformed
    | some (name, value) =>
      if value.isEmpty || value.head? = some '#' then .assignment (String.ofList name) ""
      else
        match readValue? env value with
        | none => .malformed
        | some value => .assignment (String.ofList name) value

/-! ## Files -/

/-- How the reading of a file ends. -/
inductive Loading where
  /-- All of it has been read. -/
  | complete
  /-- A line is malformed. -/
  | malformed
  /-- An assignment is not taken. -/
  | stuck (assignment : Unsettable)
deriving DecidableEq, Repr

/-- Reads on in lines that end in line feeds: the environment afterwards, and how the reading ends.
Lines that are no text are missing. -/
def loadLines :
    List (Option (List Char)) → (before : List Char) → Quoting → Environment → Environment × Loading
  | [], _, quoting, env => (env, if quoting = .plain then .complete else .malformed)
  | none :: _, _, _, env => (env, .malformed)
  | some raw :: rest, before, quoting, env =>
    let whole := before ++ raw
    let run (line : List Char) : Environment × Loading :=
      match readLine env line with
      | .nothing => loadLines rest [] .plain env
      | .assignment name value =>
        match env.setDefault name value with
        | .ok env => loadLines rest [] .plain env
        | .error assignment => (env, .stuck assignment)
      | .malformed => (env, .malformed)
    if (whole.dropWhile isBlank).head? = some '#' then loadLines rest [] .plain env
    else
      match scanLine quoting raw with
      | .error kept => run (before ++ kept)
      | .ok .plain => run (chomp whole)
      | .ok quoting => loadLines rest whole quoting env

/-- The mark that a file may begin with. -/
def byteOrderMark : List UInt8 := [0xef, 0xbb, 0xbf]

/-- Loads a file: the environment afterwards, and how the reading ends. -/
def Environment.load (env : Environment) (file : List UInt8) : Environment × Loading :=
  let file := if file.take 3 = byteOrderMark then file.drop 3 else file
  let raws := (Text.splitLines file).map fun line => (Text.ofBytes? line).map String.toList
  loadLines raws [] .plain env

end FailoverControl.Settings
