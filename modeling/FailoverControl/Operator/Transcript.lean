import FailoverControl.Log.Entry

/-!
# Transcripts

Everything a program shows, in order: texts on standard output, texts on standard error, and log
entries.
-/

set_option autoImplicit false

namespace FailoverControl.Operator

/-- One thing that is shown. -/
inductive Output where
  | out (text : String)
  | err (text : String)
  | log (entry : Log.Entry)
deriving DecidableEq, Repr

/-- What stands on standard output. -/
def outText (transcript : List Output) : String :=
  String.join (transcript.filterMap fun
    | .out text => some text
    | _ => none)

/-- What stands on standard error, less the log. -/
def errText (transcript : List Output) : String :=
  String.join (transcript.filterMap fun
    | .err text => some text
    | _ => none)

/-- The log entries. -/
def logEntries (transcript : List Output) : List Log.Entry :=
  transcript.filterMap fun
    | .log entry => some entry
    | _ => none

end FailoverControl.Operator
