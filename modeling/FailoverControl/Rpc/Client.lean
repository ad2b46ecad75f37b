import FailoverControl.Rpc.Incoming

/-!
# The client end of a connection

A client numbers its requests from one on and reads what arrives until its call is decided; what
arrives later stays for the next call. A connection that is closed or at its end refuses to send.
One that could not be read may still be written, but counts as closed by the server from then on.
Requests that are sent while the end of the connection is already on its way never reach the server.
-/

set_option autoImplicit false

namespace FailoverControl.Rpc

open FailoverControl.Json (Value)

/-- Whether a connection still carries messages. -/
inductive Link where
  | live
  /-- The server has closed the connection. -/
  | closed
  /-- The connection is gone. -/
  | dead
  /-- The connection could not be read and is not read again. A request is refused with a failure of
  its own or, without one, still written. -/
  | deaf (refusal : Option SocketError)
deriving DecidableEq, Repr

namespace Link

/-- Why nothing can be sent. -/
def refusal? : Link → Option SocketError
  | .live => none
  | .closed => some (.protocol .sendAfterClosing)
  | .dead => some .alreadyClosed
  | .deaf refusal => refusal

/-- Whether nothing is read any more although something may still be sent. -/
def isDeaf : Link → Bool
  | .deaf _ => true
  | _ => false

/-- The connection once something has been read from it. Of all failures to read only the end of
what the server sends is the end of the connection. -/
def afterReading (link : Link) : Incoming → Link
  | .close => .closed
  | .broken cause later =>
    if cause = .protocol .resetWithoutClosing then .dead else .deaf later
  | .ended => .dead
  | _ => link

end Link

/-- How a server reacts to the text of a request. -/
abbrev Reaction (σ : Type) : Type := String → σ → List Incoming × σ

/-- The client end of a connection to a server with states of type `σ`. -/
structure Client (σ : Type) where
  uri : String
  nextId : UInt64
  link : Link
  /-- What has arrived and has not been read. -/
  unread : List Incoming
  reaction : Reaction σ
  server : σ
  /-- The requests that have reached the server. -/
  delivered : List String

/-- What comes of waiting for an answer: the result, unless nothing that arrives decides the call,
and the connection afterwards. -/
structure Reading where
  result : Option (Except Failure Value)
  link : Link
  unread : List Incoming
  log : List Log.Entry

/-- Reads until the call for request `id` is decided; a call with a deadline gives up when there is
silence. -/
def readAnswer (id : UInt64) (bounded : Bool) (link : Link) : List Incoming → Reading
  | [] => ⟨none, link, [], []⟩
  | event :: rest =>
    if bounded && event = .silence then ⟨none, link, rest, []⟩
    else
      match event.verdict id with
      | .decided result => ⟨some result, link.afterReading event, rest, []⟩
      | .passedOver => readAnswer id bounded link rest
      | .unrelated got =>
        let reading := readAnswer id bounded link rest
        { reading with log := unrelatedEntry id got :: reading.log }

namespace Client

variable {σ : Type}

/-- Takes the next id. -/
def takeId (client : Client σ) : UInt64 × Client σ :=
  (client.nextId, { client with nextId := client.nextId + 1 })

/-- Hands a text to the connection. The server reacts to it unless the end of the connection is
already on its way. -/
def deliver (text : String) (client : Client σ) : Client σ :=
  if client.unread.any Incoming.isLast then client
  else
    let (events, server) := client.reaction text client.server
    { client with
      unread := client.unread ++ upToLast events
      server
      delivered := client.delivered ++ [text] }

/-- Sends a text unless the connection refuses it. -/
def send (text : String) (client : Client σ) : Except SocketError (Client σ) :=
  match client.link.refusal? with
  | some refusal => .error refusal
  | none => .ok (client.deliver text)

/-- Waits for the answer to request `id`; there is nothing to wait for on a connection that is not
read any more. -/
def await (id : UInt64) (bounded : Bool) (client : Client σ) :
    Option (Except Failure Value) × Client σ × List Log.Entry :=
  if client.link.isDeaf then (some (.error .closed), client, [])
  else
    let reading := readAnswer id bounded client.link client.unread
    (reading.result, { client with link := reading.link, unread := reading.unread }, reading.log)

/-- A connection that is still read is read for the answer. -/
theorem await_of_heard {client : Client σ} (hheard : client.link.isDeaf = false)
    (id : UInt64) (bounded : Bool) :
    client.await id bounded =
      let reading := readAnswer id bounded client.link client.unread
      (reading.result, { client with link := reading.link, unread := reading.unread },
        reading.log) :=
  if_neg (hheard ▸ Bool.false_ne_true)

/-- A connection that is not read any more counts as closed. -/
theorem await_of_deaf {client : Client σ} (hdeaf : client.link.isDeaf = true) (id : UInt64)
    (bounded : Bool) : client.await id bounded = (some (.error .closed), client, []) :=
  if_pos hdeaf

/-- The log entry on a request that is sent. -/
def sendingEntry (id : UInt64) (method : String) : Log.Entry :=
  ⟨.debug, connectionTarget, "Sending request",
    [("method", method), ("id", Decimal.text id.toNat)]⟩

/-- Sends one request and waits for its answer. There is no result when nothing decides the call:
one with a deadline has been abandoned, any other one waits for ever. -/
def call (method : String) (params : List Value) (bounded : Bool) (client : Client σ) :
    Option (Except Failure Value) × Client σ × List Log.Entry :=
  let (id, client) := client.takeId
  let sending := sendingEntry id method
  match client.send (Request.text ⟨id, method, params⟩) with
  | .error refusal => (some (.error (.socket refusal)), client, [sending])
  | .ok client =>
    let (result, client, log) := client.await id bounded
    (result, client, sending :: log)

end Client

end FailoverControl.Rpc
