import FailoverControl.Json.Typed

/-!
# Failover settings

Of the administrative settings only the switch is used. They are decoded from an object, of which
only the member `disabled` matters, or from an array that holds the switch alone.
-/

set_option autoImplicit false

namespace FailoverControl.Cluster

open FailoverControl.Json

/-- The administrative failover settings. -/
structure Config where
  disabled : Bool
deriving DecidableEq, Repr

/-- The settings that a value holds. -/
def Config.ofValue : Value → Except DecodeError Config
  | .object members =>
    match members.lookup "disabled" with
    | none => .error (.missingField "disabled")
    | some v => v.asBool.map Config.mk
  | .array [] => .error (.wrongLength 0 "struct FailoverConfig with 1 element")
  | .array [v] => v.asBool.map Config.mk
  | .array (v :: w :: rest) => do
    let _ ← v.asBool
    throw (.wrongLength (v :: w :: rest).length "fewer elements in array")
  | v => v.refuse "struct FailoverConfig"

end FailoverControl.Cluster
