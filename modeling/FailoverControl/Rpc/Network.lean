import FailoverControl.Rpc.Address
import FailoverControl.Rpc.Client
import FailoverControl.Rpc.Handshake

/-!
# Connecting

A connection is dialled, makes the opening handshake and is then ready for requests. Malformed
addresses fail before anything is dialled; an address of another kind than a plain websocket fails
only once the connection stands. A peer that stays silent fails by the timeout. Which server the
connection leads to depends on the host and the service that are dialled and on the opening request,
so on every part of the address.
-/

set_option autoImplicit false

namespace FailoverControl.Rpc

open FailoverControl.Host (IoError)

/-- What a server does with the opening request. -/
inductive Greeting where
  /-- Completes the handshake. -/
  | upgraded
  /-- Does not answer. -/
  | silent
  /-- Answers with a text and closes the connection, for the given accept key. -/
  | answered (text acceptKey : String)
deriving DecidableEq, Repr

/-- A server with states of type `σ`. -/
structure Server (σ : Type) where
  greeting : Greeting
  /-- What it sends right after the handshake. -/
  before : List Incoming
  reaction : Reaction σ
  state : σ

/-- What comes of dialling. -/
inductive Dialled (α : Type) where
  | failed (cause : IoError)
  | silent
  | connected (peer : α)

/-- What can be reached from this machine. A peer chooses the server by the opening request. -/
structure Network (σ : Type) where
  dial : (host : String) → (service : Nat) → Dialled (Opening → Server σ)

namespace Network

/-- A machine without a route to anywhere. -/
def isolated : Network Unit where
  dial _ _ := .failed (.os 101)

/-- What comes of turning to an endpoint: of dialling it and, once the connection stands, of the
opening request. -/
def turnTo {σ : Type} (network : Network σ) (endpoint : Endpoint) : Dialled (Server σ) :=
  match network.dial endpoint.host endpoint.service with
  | .failed cause => .failed cause
  | .silent => .silent
  | .connected peer => .connected (peer endpoint.opening)

end Network

/-- The log entry on a connection that is being made. -/
def connectingEntry (uri : String) : Log.Entry :=
  ⟨.info, connectionTarget, "Connecting to " ++ uri, []⟩

/-- The client end of a connection whose handshake is done. -/
def Server.client {σ : Type} (server : Server σ) (uri : String) : Client σ where
  uri
  nextId := 1
  link := .live
  unread := upToLast server.before
  reaction := server.reaction
  server := server.state
  delivered := []

/-- Connects to an address and waits at most for the timeout. -/
def connect {σ : Type} (network : Network σ) (uri : String) (timeout : Duration) :
    Except Failure (Client σ) := do
  let endpoint ← (Endpoint.parse uri).mapError Failure.socket
  match network.turnTo endpoint with
  | .failed cause => throw (.socket (.io cause))
  | .silent => throw (.connectTimeout uri timeout)
  | .connected server =>
    (endpoint.checkScheme.mapError SocketError.endpoint).mapError Failure.socket
    match server.greeting with
    | .upgraded => return server.client uri
    | .silent => throw (.connectTimeout uri timeout)
    | .answered text acceptKey =>
      (checkAnswer text acceptKey).mapError Failure.socket
      return { server with before := [.broken (.protocol .resetWithoutClosing) none] }.client uri

/-- Connecting comes to a fresh connection, is given up at the timeout or fails at the socket. -/
theorem connect_cases {σ : Type} (network : Network σ) (uri : String) (timeout : Duration) :
    (∃ server : Server σ, connect network uri timeout = .ok (server.client uri)) ∨
      connect network uri timeout = .error (.connectTimeout uri timeout) ∨
      ∃ cause, connect network uri timeout = .error (.socket cause) := by
  unfold connect
  delta Except.mapError
  cases Endpoint.parse uri with
  | error cause => exact .inr (.inr ⟨cause, rfl⟩)
  | ok endpoint =>
    simp only [bind, Except.bind]
    cases network.turnTo endpoint with
    | failed cause => exact .inr (.inr ⟨.io cause, rfl⟩)
    | silent => exact .inr (.inl rfl)
    | connected server =>
      cases endpoint.checkScheme with
      | error cause => exact .inr (.inr ⟨.endpoint cause, rfl⟩)
      | ok _ =>
        simp only
        cases server.greeting with
        | upgraded => exact .inl ⟨server, rfl⟩
        | silent => exact .inr (.inl rfl)
        | answered text acceptKey =>
          simp only
          cases checkAnswer text acceptKey with
          | error cause => exact .inr (.inr ⟨cause, rfl⟩)
          | ok _ => exact .inl ⟨_, rfl⟩

end FailoverControl.Rpc
