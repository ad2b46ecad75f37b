import FailoverControl.Daemon.Call
import FailoverControl.Rpc.Client
import FailoverControl.Text.Quoted

/-!
# Calls over a connection

A daemon call is sent over the connection as it is, and its failure is classified. A bounded call
is given up after its local deadline and then counts as timed out. A deadline that does not fit
stops the program before anything is sent, and so does an unbounded call that nothing ever decides.
-/

set_option autoImplicit false

namespace FailoverControl.Daemon

open FailoverControl.Json (Value)

/-- Why a program stops in the middle of its work. -/
inductive Halt where
  /-- A sum of durations does not fit. -/
  | overflow
  /-- An answer that has no bound never comes. -/
  | waiting
  /-- The operator has interrupted the program. -/
  | interrupted
deriving DecidableEq, Repr

/-- Where log entries on calls come from. -/
def gatewayTarget : String := "hactl::connection::gateway"

/-- A classified failure in the log. -/
def CallError.logText : CallError → String
  | .connectFailure => "ConnectFailure"
  | .timeout => "Timeout"
  | .other message => "Other(" ++ Text.quoted message ++ ")"

/-- The log entry on a failed call. -/
def failedEntry (method : String) (error : CallError) : Log.Entry :=
  ⟨.debug, gatewayTarget, "Call failed", [("method", method), ("err", error.logText)]⟩

/-- The log entry on a call that has been given up. -/
def givenUpEntry (method : String) (deadline : Duration) : Log.Entry :=
  ⟨.debug, gatewayTarget, "No answer within " ++ deadline.text, [("method", method)]⟩

/-- The class of what a call came to, and the log entry on a failure. -/
def classify (method : String) : Except Rpc.Failure Value → CallOutcome × List Log.Entry
  | .ok value => (.ok value, [])
  | .error failure =>
    let error := CallError.ofFailure failure
    (.error error, [failedEntry method error])

/-- What comes of a daemon call over a connection. -/
structure Invocation (σ : Type) where
  outcome : CallOutcome
  client : Rpc.Client σ
  log : List Log.Entry

/-- Runs a call that has no result when it is given up or waits for ever. -/
def invokeWith {σ : Type} (call : Call) (bounded : Bool) (client : Rpc.Client σ)
    (undecided : Except Halt (CallOutcome × List Log.Entry)) : Except Halt (Invocation σ) := do
  let (result, client, log) := client.call call.method call.args bounded
  let (outcome, more) ←
    match result with
    | some result => pure (classify call.method result)
    | none => undecided
  return ⟨outcome, client, log ++ more⟩

/-- Runs a daemon call over a connection. -/
def invoke {σ : Type} (call : Call) (client : Rpc.Client σ) : Except Halt (Invocation σ) :=
  match call.options with
  | none => invokeWith call false client (.error .waiting)
  | some options =>
    match options.localDeadline? with
    | none => .error .overflow
    | some deadline =>
      invokeWith call true client
        (.ok (.error .timeout, [givenUpEntry call.method deadline]))

/-- The connection and the log once a call has stopped the program. The request that is waited for
in vain has been sent. -/
def Halt.remains {σ : Type} (call : Call) (client : Rpc.Client σ) :
    Halt → Rpc.Client σ × List Log.Entry
  | .waiting => (client.call call.method call.args false).2
  | _ => (client, [])

end FailoverControl.Daemon
