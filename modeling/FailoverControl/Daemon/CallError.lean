import FailoverControl.Rpc.Failure

/-!
# Classified failures of daemon calls

An operator acts differently on a node that cannot be reached and on one that does not answer in
time, so these two are told apart from everything else. Only the markers in the details of a fault
decide: its error number, its symbolic name and the class of its trace. A marker of an unreachable
node outweighs a marker of a missing answer.
-/

set_option autoImplicit false

namespace FailoverControl.Daemon

/-- A classified failure of a call. -/
inductive CallError where
  | connectFailure
  | timeout
  | other (message : String)
deriving DecidableEq, Repr

/-- The wording of a failed call. -/
def CallError.message : CallError → String
  | .connectFailure => "connection failed"
  | .timeout => "timed out waiting on a response"
  | .other message => message

/-- The symbolic names of the errors of an unreachable node. -/
def unreachableNames : List String :=
  ["ECONNREFUSED", "ECONNABORTED", "ECONNRESET", "EHOSTUNREACH", "EHOSTDOWN", "ENETUNREACH"]

/-- The numbers of the errors of an unreachable node. -/
def unreachableNumbers : List Int32 :=
  [111, 103, 104, 113, 112, 101]

/-- Whether details mark an unreachable node. -/
def marksUnreachable (data : Rpc.FaultData) : Bool :=
  data.errname.any (unreachableNames.contains ·) || data.errno.any (unreachableNumbers.contains ·)

/-- Whether details mark an answer that did not come in time. -/
def marksTimeout (data : Rpc.FaultData) : Bool :=
  (data.trace.bind Rpc.FaultTrace.className).any (· == "CallTimeout") ||
    data.errname.any (· == "ETIMEDOUT") || data.errno.any (· == 110)

namespace CallError

/-- The class of a fault. -/
def ofFault (fault : Rpc.Fault) : CallError :=
  if fault.data.any marksUnreachable then .connectFailure
  else if fault.data.any marksTimeout then .timeout
  else .other fault.reason

/-- The class of a failure. -/
def ofFailure : Rpc.Failure → CallError
  | .fault f => ofFault f
  | failure => .other failure.message

end CallError

end FailoverControl.Daemon
