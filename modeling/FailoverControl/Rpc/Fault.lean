import FailoverControl.Json.Record

/-!
# Faults that the daemon answers with

A fault has a code, a message and optional details: an error number, its symbolic name, the
daemon's own explanation and the class of the failed trace. Unknown members are ignored, absent
and null ones are the same. A fault is written with all of its members, absent ones as null.
-/

set_option autoImplicit false

namespace FailoverControl.Rpc

open FailoverControl.Json

/-- Where a fault arose. -/
structure FaultTrace where
  className : Option String
deriving DecidableEq, Repr

/-- The details of a fault. -/
structure FaultData where
  errno : Option Int32
  errname : Option String
  reason : Option String
  trace : Option FaultTrace
deriving DecidableEq, Repr

/-- The error member of a response. -/
structure Fault where
  code : Int64
  message : String
  data : Option FaultData
deriving DecidableEq, Repr

/-- The daemon's own explanation if it sent one, else the message. -/
def Fault.reason (fault : Fault) : String :=
  (fault.data.bind FaultData.reason).getD fault.message

/-! ## Reading -/

/-- A trace that is being read; a slot is filled once its member has been met. -/
structure TraceDraft where
  className : Option (Option String)

/-- How a trace is read. -/
def FaultTrace.shape : RecordShape TraceDraft FaultTrace where
  name := "FaultTrace"
  fields :=
    [.ofSlot "class" true (fun _ => readOptional readText) (·.className)
      fun v d => { d with className := some v }]
  empty := ⟨none⟩
  finish d := .ok ⟨d.className.join⟩

/-- Details that are being read. -/
structure DataDraft where
  errno : Option (Option Int32)
  errname : Option (Option String)
  reason : Option (Option String)
  trace : Option (Option FaultTrace)

/-- How details are read. -/
def FaultData.shape : RecordShape DataDraft FaultData where
  name := "FaultData"
  fields :=
    [.ofSlot "error" true (fun _ => readOptional readInt32) (·.errno)
        fun v d => { d with errno := some v },
      .ofSlot "errname" true (fun _ => readOptional readText) (·.errname)
        fun v d => { d with errname := some v },
      .ofSlot "reason" true (fun _ => readOptional readText) (·.reason)
        fun v d => { d with reason := some v },
      .ofSlot "trace" true (fun depth => readOptional (FaultTrace.shape.read depth)) (·.trace)
        fun v d => { d with trace := some v }]
  empty := ⟨none, none, none, none⟩
  finish d := .ok ⟨d.errno.join, d.errname.join, d.reason.join, d.trace.join⟩

/-- A fault that is being read. -/
structure FaultDraft where
  code : Option Int64
  message : Option String
  data : Option (Option FaultData)

/-- How a fault is read; it needs a code and a message. -/
def Fault.shape : RecordShape FaultDraft Fault where
  name := "RpcFault"
  fields :=
    [.ofSlot "code" false (fun _ => readInt64) (·.code) fun v d => { d with code := some v },
      .ofSlot "message" false (fun _ => readText) (·.message)
        fun v d => { d with message := some v },
      .ofSlot "data" true (fun depth => readOptional (FaultData.shape.read depth)) (·.data)
        fun v d => { d with data := some v }]
  empty := ⟨none, none, none⟩
  finish d :=
    match d.code, d.message with
    | none, _ => .error (.missingField "code")
    | _, none => .error (.missingField "message")
    | some code, some message => .ok ⟨code, message, d.data.join⟩

/-- The fault that a text writes. -/
def Fault.parse (text : String) : Except DecodeError Fault :=
  Fault.shape.parse text

/-! ## Writing -/

/-- Something as a value, nothing as null. -/
def optionalValue {α : Type} (toValue : α → Value) : Option α → Value
  | none => .null
  | some a => toValue a

/-- A trace as a value. -/
def FaultTrace.toValue (trace : FaultTrace) : Value :=
  .object [("class", optionalValue .string trace.className)]

/-- Details as a value. -/
def FaultData.toValue (data : FaultData) : Value :=
  .object [("error", optionalValue (fun n => .integer (.ofInt32 n)) data.errno),
    ("errname", optionalValue .string data.errname),
    ("reason", optionalValue .string data.reason),
    ("trace", optionalValue FaultTrace.toValue data.trace)]

/-- A fault as a value. -/
def Fault.toValue (fault : Fault) : Value :=
  .object [("code", .integer (.ofInt64 fault.code)), ("message", .string fault.message),
    ("data", optionalValue FaultData.toValue fault.data)]

end FailoverControl.Rpc
