import FailoverControl.Proofs.App.Waiting

/-!
# The deadline of a bounded call

A call that is forwarded to the other node hands its bounds on in whole seconds, and this side gives
it up at a deadline: the sum of both bounds, to the nanosecond, and one second. Whole seconds cut
off less than a second of each bound. So the deadline leaves the daemon the bounds that it has been
given and at least a second to report back, and comes less than three seconds behind them.

The main statement: the deadline of all bounds that stay below `2 ^ 64` seconds together with the
second that is granted (`deadline_leaves_room`).
-/

set_option autoImplicit false

namespace FailoverControl

/-! ## Sums within words -/

/-- Two durations are added without an overflow: the seconds fit 64 bits, before and after the one
that the nanoseconds fill is carried over, and the nanoseconds fit 32 bits before it is taken out of
them. -/
structure Duration.AddsWithin (a b sum : Duration) : Prop where
  add?_eq : a.add? b = some sum
  seconds_lt : a.seconds + b.seconds < UInt64.size
  nanos_lt : a.nanos + b.nanos < UInt32.size
  carried : sum.seconds = a.seconds + b.seconds + (a.nanos + b.nanos) / 1000000000
  carried_lt : sum.seconds < UInt64.size
  remaining : sum.nanos = (a.nanos + b.nanos) % 1000000000

/-- A sum that exists is formed without an overflow. -/
theorem Duration.addsWithin_of_add? {a b sum : Duration} (h : a.add? b = some sum) :
    a.AddsWithin b sum := by
  have htotal := Duration.add?_eq_some_iff.mp h
  unfold total at htotal
  have ha := a.nanos_lt
  have hb := b.nanos_lt
  have hsum := sum.nanos_lt
  have hcarried : sum.seconds = a.seconds + b.seconds + (a.nanos + b.nanos) / 1000000000 := by
    omega
  have hseconds : sum.seconds < UInt64.size := sum.seconds_lt
  refine ⟨h, ?_, ?_, hcarried, hseconds, ?_⟩
  · omega
  · calc
      a.nanos + b.nanos < 1000000000 + 1000000000 := Nat.add_lt_add ha hb
      _ ≤ UInt32.size := by decide
  · omega

namespace Daemon

open FailoverControl.Json (Value)

variable {options : CallOptions} {deadline : Duration}

/-! ## Room behind the forwarded bounds -/

/-- A deadline leaves room for bounds: it is their sum and one second to the nanosecond, formed
without an overflow, and it is at least one second and less than three behind the whole seconds that
are forwarded. -/
structure CallOptions.LeavesRoom (options : CallOptions) (deadline : Duration) : Prop where
  total_eq : deadline.total = options.timeout.total + options.connectTimeout.total + 1000000000
  summed : ∃ sum, options.timeout.AddsWithin options.connectTimeout sum ∧
    sum.AddsWithin CallOptions.grace deadline
  covers : ∃ timeout connectTimeout : UInt64,
    options.toValue = .object [("connect_timeout", .ofUInt64 connectTimeout),
        ("timeout", .ofUInt64 timeout)] ∧
      1000000000 * (timeout.toNat + connectTimeout.toNat + 1) ≤ deadline.total ∧
      deadline.total < 1000000000 * (timeout.toNat + connectTimeout.toNat + 3)

/-- A deadline that fits is the sum of both bounds and the grace, and so is its first part. -/
theorem exists_sum_of_localDeadline? (h : options.localDeadline? = some deadline) :
    ∃ sum, options.timeout.AddsWithin options.connectTimeout sum ∧
      sum.AddsWithin CallOptions.grace deadline := by
  obtain ⟨sum, hsum, hdeadline⟩ := Option.bind_eq_some_iff.mp h
  exact ⟨sum, Duration.addsWithin_of_add? hsum, Duration.addsWithin_of_add? hdeadline⟩

/-- A deadline that fits leaves room for both bounds that are passed on. -/
theorem leavesRoom_of_localDeadline? (h : options.localDeadline? = some deadline) :
    options.LeavesRoom deadline := by
  have htotal := CallOptions.localDeadline?_eq_some_iff.mp h
  rw [show CallOptions.grace.total = 1000000000 from rfl] at htotal
  refine ⟨htotal, exists_sum_of_localDeadline? h,
    .ofNatLT options.timeout.seconds options.timeout.seconds_lt,
    .ofNatLT options.connectTimeout.seconds options.connectTimeout.seconds_lt, rfl, ?_, ?_⟩
  · have htimeout := options.timeout.seconds_le_total
    have hconnect := options.connectTimeout.seconds_le_total
    rw [UInt64.toNat_ofNatLT, UInt64.toNat_ofNatLT]
    omega
  -- Each of the two cuts loses less than a second, which adds up to less than two.
  · have htimeout := options.timeout.total_lt_seconds
    have hconnect := options.connectTimeout.total_lt_seconds
    rw [UInt64.toNat_ofNatLT, UInt64.toNat_ofNatLT]
    omega

/-- A bounded call whose deadline fits comes to an end over every connection. -/
theorem exists_invocation_of_deadline {call : Call} (hoptions : call.options = some options)
    (hdeadline : options.localDeadline? = some deadline) {σ : Type} (client : Rpc.Client σ) :
    ∃ invocation, invoke call client = .ok invocation := by
  cases hinvoke : invoke call client with
  | ok invocation => exact ⟨invocation, rfl⟩
  | error halt =>
    simp only [invoke, hoptions, hdeadline, App.invokeWith_eq_error_iff] at hinvoke
    cases hinvoke.2

/-- Bounds that stay below `2 ^ 64` seconds together with the second that is granted have a deadline
that leaves room for them. Each call that is forwarded with them hands their whole seconds on as its
third argument, comes to an end over every connection, and counts as timed out at that deadline when
nothing has decided it. -/
theorem deadline_leaves_room (hfits : options.timeout.total + options.connectTimeout.total +
      1000000000 < UInt64.size * 1000000000) :
    ∃ deadline, options.localDeadline? = some deadline ∧ options.LeavesRoom deadline ∧
      ∀ (method : String) (args : List Value),
        let call := Call.forwarded method args (some options)
        call.args[2]? = some options.toValue ∧ call.GivenUpAfter options ∧
          ∀ {σ : Type} (client : Rpc.Client σ), ∃ invocation, invoke call client = .ok invocation := by
  obtain ⟨deadline, hdeadline⟩ :=
    Option.isSome_iff_exists.mp ((CallOptions.isSome_localDeadline?_iff options).mpr hfits)
  refine ⟨deadline, hdeadline, leavesRoom_of_localDeadline? hdeadline, ?_⟩
  intro method args
  refine ⟨rfl, givenUpAfter_of_options rfl, ?_⟩
  intro σ client
  exact exists_invocation_of_deadline rfl hdeadline client

/-- Bounds whose fractions fill a second, two nanoseconds short of those that have no deadline. -/
def latestBounds : CallOptions where
  timeout := ⟨18446744073709551612, 999999999, by decide, by decide⟩
  connectTimeout := ⟨1, 999999999, by decide, by decide⟩

/-- The deadline is nearly two seconds behind the second that is granted on the forwarded bounds,
and the last one but one that there is. -/
theorem deadline_leaves_room_latest :
    latestBounds.timeout.total + latestBounds.connectTimeout.total + 1000000000 <
        UInt64.size * 1000000000 ∧
      latestBounds.localDeadline? =
        some ⟨18446744073709551615, 999999998, by decide, by decide⟩ ∧
      latestBounds.LeavesRoom ⟨18446744073709551615, 999999998, by decide, by decide⟩ ∧
      (Call.forwarded Method.systemInfo [] (some latestBounds)).GivenUpAfter latestBounds := by
  have hfits : latestBounds.timeout.total + latestBounds.connectTimeout.total + 1000000000 <
      UInt64.size * 1000000000 := by decide
  have hlatest : latestBounds.localDeadline? =
      some ⟨18446744073709551615, 999999998, by decide, by decide⟩ := by decide
  obtain ⟨deadline, hdeadline, hroom, hcalls⟩ := deadline_leaves_room hfits
  obtain rfl := Option.some.inj (hdeadline.symm.trans hlatest)
  exact ⟨hfits, hlatest, hroom, (hcalls Method.systemInfo []).2.1⟩

end Daemon

end FailoverControl
