/-!
# Settings of the process

Whether questions are confirmed without asking and whether output is colored. Colors are used at a
terminal that is not dumb unless they are turned off, and wherever they are forced. Building a
context also switches the console's own escapes, even when the context is not put to use.
-/

set_option autoImplicit false

namespace FailoverControl.Console

/-- The settings of the process. -/
structure Context where
  autoConfirm : Bool
  colors : Bool
deriving DecidableEq, Repr

namespace Context

/-- The settings before any have been built. -/
def standard : Context := ⟨false, true⟩

/-- Whether a variable is set to something else than zero. -/
def isOn (env : String → Option String) (name : String) : Bool :=
  (env name).any (· != "0")

/-- Whether output is colored. -/
def wantsColors (env : String → Option String) (terminal : Bool) : Bool :=
  isOn env "CLICOLOR_FORCE" ||
    (terminal && !isOn env "NO_COLOR" && env "TERM" != some "dumb")

/-- The settings for an environment, a kind of output and the answer to all questions. -/
def ofEnvironment (env : String → Option String) (terminal autoConfirm : Bool) : Context :=
  ⟨autoConfirm, wantsColors env terminal⟩

end Context

end FailoverControl.Console
