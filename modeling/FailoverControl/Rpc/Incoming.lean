import FailoverControl.Log.Entry
import FailoverControl.Rpc.Failure
import FailoverControl.Rpc.Message

/-!
# What arrives on a connection

Frames of the server, the end of the connection, and silence that outlasts every deadline. A call
that waits for the answer to its request is decided by the first close frame, broken connection,
message that is no response, or response that carries its id; everything else is passed over.
-/

set_option autoImplicit false

namespace FailoverControl.Rpc

open FailoverControl.Json (Value)

/-- One thing that arrives on a connection. -/
inductive Incoming where
  | text (message : String)
  | binary
  | ping
  | pong
  /-- The server closes the connection in an orderly way. -/
  | close
  /-- Reading fails. Unless the connection is at its end by that, it refuses later requests with a
  failure of its own or, without one, still carries them. -/
  | broken (cause : SocketError) (later : Option SocketError)
  /-- The connection is over and nothing more arrives. -/
  | ended
  /-- Nothing arrives until every deadline that is running has passed. -/
  | silence
deriving DecidableEq, Repr

/-- What one arrival means for a waiting call. -/
inductive Verdict where
  | passedOver
  /-- The response to another request or, without an id, a notification. -/
  | unrelated (id : Option UInt64)
  | decided (result : Except Failure Value)

/-- What a message means for the call that waits for the answer to request `id`. -/
def verdictOnText (id : UInt64) (text : String) : Verdict :=
  match Response.parse text with
  | .error e => .decided (.error (.malformed e))
  | .ok response =>
    if response.id = some id then .decided (response.outcome.mapError .fault)
    else .unrelated response.id

namespace Incoming

/-- What an arrival means for the call that waits for the answer to request `id`. -/
def verdict (id : UInt64) : Incoming → Verdict
  | .text message => verdictOnText id message
  | .close => .decided (.error .closed)
  | .broken cause _ => .decided (.error (.socket cause))
  | .ended => .decided (.error .closed)
  | .binary => .passedOver
  | .ping => .passedOver
  | .pong => .passedOver
  | .silence => .passedOver

/-- Whether nothing can arrive behind this. -/
def isLast : Incoming → Bool
  | .close => true
  | .broken _ _ => true
  | .ended => true
  | _ => false

end Incoming

/-- What really arrives of what a server sends: nothing behind the end of the connection. -/
def upToLast : List Incoming → List Incoming
  | [] => []
  | event :: rest => if event.isLast then [event] else event :: upToLast rest

/-- Where log entries on the connection come from. -/
def connectionTarget : String := "hactl::connection::jsonrpc"

/-- An optional id in the log. -/
def idText : Option UInt64 → String
  | none => "None"
  | some id => "Some(" ++ Decimal.text id.toNat ++ ")"

/-- The log entry on a message that does not belong to the call. -/
def unrelatedEntry (id : UInt64) (got : Option UInt64) : Log.Entry :=
  ⟨.trace, connectionTarget, "Skipping unrelated message",
    [("got", idText got), ("expected", Decimal.text id.toNat)]⟩

end FailoverControl.Rpc
