import FailoverControl.Json.Printer
import FailoverControl.Rpc.Fault

/-!
# Requests and responses

A request carries the protocol version, an id, a method and its parameters. A response carries the
id of the request it belongs to and a result or a fault; a notification of the daemon has no id. A
response that carries a fault is a failure whatever its result is, and a missing result is null.
-/

set_option autoImplicit false

namespace FailoverControl.Rpc

open FailoverControl.Json

/-- One request to the daemon. -/
structure Request where
  id : UInt64
  method : String
  params : List Value

/-- A request as a value. -/
def Request.toValue (request : Request) : Value :=
  .object [("jsonrpc", .string "2.0"), ("id", .ofUInt64 request.id),
    ("method", .string request.method), ("params", .array request.params)]

/-- The text in which a request is sent. -/
def Request.text (request : Request) : String :=
  request.toValue.text

/-- One message of the daemon. -/
structure Response where
  id : Option UInt64
  result : Option Value
  error : Option Fault

/-- A response that is being read. -/
structure ResponseDraft where
  id : Option (Option UInt64)
  result : Option (Option Value)
  error : Option (Option Fault)

/-- How a response is read. -/
def Response.shape : RecordShape ResponseDraft Response where
  name := "Response"
  fields :=
    [.ofSlot "id" true (fun _ => readOptional readUInt64) (·.id)
        fun v d => { d with id := some v },
      .ofSlot "result" true (fun depth => readOptional (readValue depth)) (·.result)
        fun v d => { d with result := some v },
      .ofSlot "error" true (fun depth => readOptional (Fault.shape.read depth)) (·.error)
        fun v d => { d with error := some v }]
  empty := ⟨none, none, none⟩
  finish d := .ok ⟨d.id.join, d.result.join, d.error.join⟩

/-- The response that a text writes. -/
def Response.parse (text : String) : Except DecodeError Response :=
  Response.shape.parse text

/-- What a response tells the caller it belongs to. -/
def Response.outcome (response : Response) : Except Fault Value :=
  match response.error with
  | some fault => .error fault
  | none => .ok (response.result.getD .null)

end FailoverControl.Rpc
