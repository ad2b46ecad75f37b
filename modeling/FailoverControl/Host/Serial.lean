import FailoverControl.Host.IoError
import FailoverControl.Text.Blank
import FailoverControl.Text.Bytes

/-!
# The serial number of this node

The serial number stands in a file of the system, between blanks that do not belong to it.
-/

set_option autoImplicit false

namespace FailoverControl.Host

/-- What is found under the name of a file. -/
inductive FileState where
  | missing
  | directory
  /-- The system does not let the file be read, for want of permission or another cause. -/
  | unreadable (cause : IoError)
  | content (bytes : List UInt8)
deriving DecidableEq, Repr

/-- Why a file cannot be read as a text. -/
inductive ReadError where
  | notFound
  | isDirectory
  | failed (cause : IoError)
  | notText
deriving DecidableEq, Repr

/-- The failure of the system that a file that cannot be read amounts to. -/
def ReadError.toIoError : ReadError → IoError
  | .notFound => .os 2
  | .isDirectory => .os 21
  | .failed cause => cause
  | .notText => .custom "stream did not contain valid UTF-8"

/-- The text in a file. -/
def FileState.read : FileState → Except ReadError String
  | .missing => .error .notFound
  | .directory => .error .isDirectory
  | .unreadable cause => .error (.failed cause)
  | .content bytes =>
    match Text.ofBytes? bytes with
    | some s => .ok s
    | none => .error .notText

/-- The serial number in a file. -/
def serialNumber (file : FileState) : Except ReadError String :=
  file.read.map Text.trimmed

end FailoverControl.Host
