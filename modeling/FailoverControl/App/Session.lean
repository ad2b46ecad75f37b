import FailoverControl.Control.Dispatch
import FailoverControl.Daemon.Invocation
import FailoverControl.Operator.Desk

/-!
# Sessions

A session is a connection to the daemon and the operator's desk. Procedures run in it until they
are done or something stops the program.
-/

set_option autoImplicit false

namespace FailoverControl.App

open FailoverControl.Control (Procedure Request)
open FailoverControl.Daemon (Halt)
open FailoverControl.Operator (Confirmer Desk)

/-- A connection to a daemon with states of type `σ`, and the operator's desk. -/
structure Session (σ : Type) where
  client : Rpc.Client σ
  desk : Desk
  /-- Whether the operator interrupts the program as soon as a question has been put. -/
  interruptAtPrompt : Bool

/-- What runs in a session; it may be stopped, and the session remains. -/
abbrev SessionM (σ : Type) : Type → Type := ExceptT Halt (StateM (Session σ))

/-- Puts a question, unless the operator answers it by an interrupt: then only the question is
written. -/
def askOperator {σ : Type} (prompt : String) : SessionM σ Bool := do
  let session ← get
  match session.desk.confirmer, session.interruptAtPrompt with
  | .terminal t, true =>
    let sink := t.sink.write (Text.bytes prompt)
    set { session with desk := { session.desk with confirmer := .terminal { t with sink } } }
    throw .interrupted
  | _, _ =>
    let (answer, desk) := session.desk.confirm prompt
    set { session with desk }
    return answer

/-- The session with another state of its connection and more in its log. -/
def Session.advance {σ : Type} (client : Rpc.Client σ) (log : List Log.Entry)
    (session : Session σ) : Session σ :=
  { session with client, desk := session.desk.note log }

/-- Calls the daemon. -/
def callDaemon {σ : Type} (call : Daemon.Call) : SessionM σ Daemon.CallOutcome := do
  let session ← get
  match Daemon.invoke call session.client with
  | .ok invocation =>
    set (session.advance invocation.client invocation.log)
    return invocation.outcome
  | .error halt =>
    let (client, log) := halt.remains call session.client
    set (session.advance client log)
    throw halt

/-- Does something at the desk. -/
def atDesk {σ α : Type} (act : Desk → α × Desk) : SessionM σ α := do
  let session ← get
  let (a, desk) := act session.desk
  set { session with desk }
  return a

/-- Answers a request in a session. -/
def answer {σ : Type} : (request : Request) → SessionM σ request.Answer
  | .call call => callDaemon call
  | .serial => atDesk fun desk => (desk.serial, desk)
  | .warn text => atDesk fun desk => ((), desk.warn text)
  | .confirm prompt => askOperator prompt
  | .reboot => atDesk Desk.startReboot
  | .log entry => atDesk fun desk => ((), desk.note [entry])

/-- Runs a procedure in a session. -/
def runIn {σ α : Type} (procedure : Procedure α) (session : Session σ) :
    Except Halt α × Session σ :=
  (procedure.interpret answer).run.run session

end FailoverControl.App
