import FailoverControl.Rpc.Client

/-!
# Callers that share a client

Several callers use one connection at a time. A caller takes its id at once, then waits until the
connection is free, sends its request and reads what arrives until its call is decided, or until it
finds that the connection is not read any more. It may be abandoned while it waits, for the
connection or for the answer, and then leaves the connection free.
The steps of different callers may come in any order; what arrives comes in between.
-/

set_option autoImplicit false

namespace FailoverControl.Rpc

open FailoverControl.Json (Value)

/-- Where a caller stands. -/
inductive Stage where
  | idle
  /-- It has its id and waits for the connection. -/
  | queued (request : Request)
  /-- The connection is its own. -/
  | holding (request : Request)
  /-- Its request has been sent, and it reads what arrives. -/
  | waiting (request : Request)
  | finished (request : Request) (result : Except Failure Value)
  | abandoned (request : Request)

namespace Stage

/-- The request of a caller that has taken an id. -/
def request? : Stage → Option Request
  | .idle => none
  | .queued request => some request
  | .holding request => some request
  | .waiting request => some request
  | .finished request _ => some request
  | .abandoned request => some request

/-- The request of a caller that has neither finished nor been abandoned. -/
def unsettled? : Stage → Option Request
  | .queued request => some request
  | .holding request => some request
  | .waiting request => some request
  | _ => none

end Stage

/-- A client that is shared by numbered callers. The server acts on its own, so its reactions are
empty and what it sends arrives by steps of its own. -/
structure Shared where
  client : Client Unit
  stage : Nat → Stage
  /-- The caller that holds the connection. -/
  holder : Option Nat

/-- A step of a caller, or something that arrives. -/
inductive Step where
  | begin (caller : Nat) (method : String) (params : List Value)
  | acquire (caller : Nat)
  | send (caller : Nat)
  | read (caller : Nat)
  /-- The caller finds that the connection is not read any more. -/
  | unheard (caller : Nat)
  | abandon (caller : Nat)
  | arrive (event : Incoming)

namespace Shared

/-- A fresh client that nobody uses yet. -/
def start (uri : String) : Shared where
  client := ⟨uri, 1, .live, [], fun _ s => ([], s), (), []⟩
  stage _ := .idle
  holder := none

/-- Puts a caller into a stage. -/
def enter (shared : Shared) (caller : Nat) (stage : Stage) : Shared :=
  { shared with stage := fun other => if other = caller then stage else shared.stage other }

/-- Ends a call and frees the connection. -/
def finish (shared : Shared) (caller : Nat) (request : Request) (result : Except Failure Value) :
    Shared :=
  { shared.enter caller (.finished request result) with holder := none }

/-- Frees the connection if the caller holds it. -/
def release (shared : Shared) (caller : Nat) : Shared :=
  if shared.holder = some caller then { shared with holder := none } else shared

/-- Reads the next thing that has arrived on behalf of a caller. -/
def readNext (shared : Shared) (caller : Nat) (request : Request) : Option Shared :=
  match shared.client.unread with
  | [] => none
  | event :: rest =>
    let client := { shared.client with
      unread := rest
      link := shared.client.link.afterReading event }
    match event.verdict request.id with
    | .decided result => some ({ shared with client }.finish caller request result)
    | _ => some { shared with client }

/-- The state after a step, unless the step cannot be taken. -/
def next? (shared : Shared) : Step → Option Shared
  | .begin caller method params =>
    match shared.stage caller with
    | .idle =>
      let (id, client) := shared.client.takeId
      some ({ shared with client }.enter caller (.queued ⟨id, method, params⟩))
    | _ => none
  | .acquire caller =>
    match shared.stage caller, shared.holder with
    | .queued request, none =>
      some { shared.enter caller (.holding request) with holder := some caller }
    | _, _ => none
  | .send caller =>
    match shared.stage caller with
    | .holding request =>
      match shared.client.send request.text with
      | .error refusal => some (shared.finish caller request (.error (.socket refusal)))
      | .ok client => some ({ shared with client }.enter caller (.waiting request))
    | _ => none
  | .read caller =>
    match shared.stage caller, shared.client.link.isDeaf with
    | .waiting request, false => shared.readNext caller request
    | _, _ => none
  | .unheard caller =>
    match shared.stage caller, shared.client.link.isDeaf with
    | .waiting request, true => some (shared.finish caller request (.error .closed))
    | _, _ => none
  | .abandon caller =>
    (shared.stage caller).unsettled?.map fun request =>
      (shared.enter caller (.abandoned request)).release caller
  | .arrive event =>
    some { shared with
      client := { shared.client with unread := shared.client.unread ++ [event] } }

/-- The state after a run of steps, unless one of them cannot be taken. -/
def run? (shared : Shared) (steps : List Step) : Option Shared :=
  steps.foldlM next? shared

end Shared

end FailoverControl.Rpc
