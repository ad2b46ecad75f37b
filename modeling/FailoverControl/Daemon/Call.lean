import FailoverControl.Daemon.CallError
import FailoverControl.Duration

/-!
# Calls of the management daemon

The methods of the daemon that are used, the bounds of a call that is forwarded to the other node,
and how a call is forwarded. The local side waits for both bounds and one second more, so that the
daemon can report back.
-/

set_option autoImplicit false

namespace FailoverControl.Daemon

open FailoverControl.Json (Value)

namespace Method

/-- Whether the cluster is licensed for high availability. -/
def licenseIsHA : String := "license.isHA"

/-- The administrative failover settings. -/
def config : String := "failover.config"

/-- The failover role of this node. -/
def status : String := "failover.status"

/-- Why failover is disabled. -/
def disabledReasons : String := "failover.disabled.reasons"

/-- Changes the administrative failover settings. -/
def update : String := "failover.update"

/-- Runs a method on the other node. -/
def callRemote : String := "failover.callRemote"

/-- Demotes the node that runs it. -/
def becomePassive : String := "failover.becomePassive"

/-- Facts about the node that runs it, its serial number among them. -/
def systemInfo : String := "system.info"

end Method

/-- Bounds for a call that is forwarded to the other node. -/
structure CallOptions where
  timeout : Duration
  connectTimeout : Duration
deriving DecidableEq, Repr

namespace CallOptions

/-- Two seconds for each bound. -/
def standard : CallOptions := ⟨.ofSeconds 2, .ofSeconds 2⟩

/-- The whole seconds of a duration as a value. -/
def secondsValue (d : Duration) : Value :=
  .ofUInt64 (.ofNatLT d.seconds d.seconds_lt)

/-- The bounds as they are forwarded, in whole seconds. -/
def toValue (options : CallOptions) : Value :=
  .object [("connect_timeout", secondsValue options.connectTimeout),
    ("timeout", secondsValue options.timeout)]

/-- What is granted on top of the forwarded bounds before the local side gives up. -/
def grace : Duration := .ofSeconds 1

/-- How long the local side waits for an answer to a bounded call, unless that is `2 ^ 64` seconds
or more. -/
def localDeadline? (options : CallOptions) : Option Duration :=
  (options.timeout.add? options.connectTimeout).bind (·.add? grace)

/-- A deadline has the total of both bounds and of the second that is granted. -/
theorem localDeadline?_eq_some_iff {options : CallOptions} {deadline : Duration} :
    options.localDeadline? = some deadline ↔
      deadline.total = options.timeout.total + options.connectTimeout.total + grace.total := by
  rw [localDeadline?, Option.bind_eq_some_iff]
  constructor
  · rintro ⟨sum, hsum, hdeadline⟩
    rw [Duration.add?_eq_some_iff.mp hdeadline, Duration.add?_eq_some_iff.mp hsum]
  · intro htotal
    -- The sum of the bounds fits because the deadline does, which is longer.
    have hfits : options.timeout.total + options.connectTimeout.total <
        18446744073709551616 * 1000000000 := by
      have hdeadline := deadline.total_lt
      omega
    obtain ⟨sum, hsum⟩ := Option.isSome_iff_exists.mp ((Duration.isSome_add?_iff _ _).mpr hfits)
    refine ⟨sum, hsum, Duration.add?_eq_some_iff.mpr ?_⟩
    rw [htotal, Duration.add?_eq_some_iff.mp hsum]

/-- A deadline exists exactly when the bounds and the second that is granted stay below `2 ^ 64`
seconds. -/
theorem isSome_localDeadline?_iff (options : CallOptions) :
    options.localDeadline?.isSome ↔
      options.timeout.total + options.connectTimeout.total + grace.total <
        18446744073709551616 * 1000000000 := by
  rw [← Duration.isSome_ofNanos?_iff, Option.isSome_iff_exists, Option.isSome_iff_exists]
  simp only [localDeadline?_eq_some_iff, Duration.ofNanos?_eq_some_iff]

end CallOptions

/-- One call of the daemon; bounds are given with a forwarded call only. -/
structure Call where
  method : String
  args : List Value
  options : Option CallOptions

/-- What the daemon answers to a call. -/
abbrev CallOutcome : Type := Except CallError Value

/-- The call that asks the daemon to run a method on the other node. -/
def Call.forwarded (method : String) (args : List Value) (options : Option CallOptions) : Call where
  method := Method.callRemote
  args := [.string method, .array args] ++ options.toList.map CallOptions.toValue
  options := options

end FailoverControl.Daemon
