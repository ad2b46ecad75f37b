import FailoverControl.Daemon.CallError
import FailoverControl.Proofs.Daemon.Reporting
import FailoverControl.Proofs.Json.RoundTrip
import FailoverControl.Proofs.Json.Written

/-!
# The text of a fault

A fault is written with all of its members, absent ones as null, and its text is read back as that
fault. Many texts are read as one fault: optional members may be null or left out, members of other
names may stand between them, and each record may be written by position. The text of the fault is
the one normal form of all of them.

The main statements: `parse_text` and `wire_form`.
-/

set_option autoImplicit false

namespace FailoverControl.Rpc

open FailoverControl.Daemon (CallError)
open FailoverControl.Json

/-! ## Reading back -/

/-- A signed number of 32 bits is read back from its value. -/
theorem int32?_ofInt32 (n : Int32) : (Value.integer (.ofInt32 n)).int32? = some n := by
  have hlower := n.le_toInt
  have hupper := n.toInt_lt
  have hbounds : -2147483648 ≤ n.toInt ∧ n.toInt ≤ 2147483647 := by omega
  have hread : (Value.integer (.ofInt32 n)).integerIn? (-2147483648) 2147483647 = some n.toInt :=
    if_pos hbounds
  rw [Value.int32?, hread, Option.map_some, Int32.ofInt_toInt]

/-- What a view reads back is read back as an optional member, and null as no member. -/
theorem optionalMember_optionalValue {α : Type} {view : Value → Option α} {toValue : α → Value}
    (hview : ∀ a, view (toValue a) = some a) (hnull : ∀ a, toValue a ≠ .null) (o : Option α) :
    optionalMember view [optionalValue toValue o] = some o := by
  cases o with
  | none => exact optionalMember_eq_some_none_iff.mpr (.inr rfl)
  | some a => exact optionalMember_eq_some_some_iff.mpr ⟨toValue a, rfl, hnull a, hview a⟩

/-- An optional text is read back, also when it is absent. -/
theorem optionalMember_optionalText (text : Option String) :
    optionalMember Value.string? [optionalValue .string text] = some text := by
  have hview (s : String) : (Value.string s).string? = some s := rfl
  exact optionalMember_optionalValue hview nofun text

/-- A trace is read back from its value. -/
theorem FaultTrace.ofTree_toValue (trace : FaultTrace) :
    FaultTrace.ofTree trace.toValue = some trace := by
  simp [FaultTrace.ofTree, FaultTrace.toValue, recordMembers?, FaultTrace.ofMembers, entries,
    optionalMember_optionalText]

/-- Details are read back from their value. -/
theorem FaultData.ofTree_toValue (data : FaultData) :
    FaultData.ofTree data.toValue = some data := by
  have herrno : optionalMember Value.int32?
      [optionalValue (fun n => .integer (.ofInt32 n)) data.errno] = some data.errno :=
    optionalMember_optionalValue int32?_ofInt32 nofun data.errno
  have htrace : optionalMember FaultTrace.ofTree [optionalValue FaultTrace.toValue data.trace] =
      some data.trace :=
    optionalMember_optionalValue FaultTrace.ofTree_toValue nofun data.trace
  simp [FaultData.ofTree, FaultData.toValue, recordMembers?, FaultData.ofMembers, entries, herrno,
    optionalMember_optionalText, htrace]

/-- The tree of a written fault stands for that fault. -/
theorem Fault.ofTree_toValue (fault : Fault) : Fault.ofTree fault.toValue = some fault := by
  have hdata : optionalMember FaultData.ofTree [optionalValue FaultData.toValue fault.data] =
      some fault.data :=
    optionalMember_optionalValue FaultData.ofTree_toValue nofun fault.data
  simp [Fault.ofTree, Fault.toValue, recordMembers?, Fault.ofMembers, entries, requiredMember,
    int64?_ofInt64, Value.string?, hdata]

/-! ## Written faults are exact -/

/-- An optional value is exact when the value is. -/
theorem exact_optionalValue {α : Type} {depth : Nat} {toValue : α → Value}
    (h : ∀ a, (toValue a).Exact depth) (o : Option α) : (optionalValue toValue o).Exact depth := by
  cases o with
  | none => exact .null
  | some a => exact h a

/-- The value of a trace is exact within one level. -/
theorem FaultTrace.exact_toValue (trace : FaultTrace) : trace.toValue.Exact 1 := by
  refine .object (List.forall_mem_singleton.mpr ?_)
  exact exact_optionalValue .string trace.className

/-- The value of the details is exact within two levels. -/
theorem FaultData.exact_toValue (data : FaultData) : data.toValue.Exact 2 := by
  refine .object ?_
  simp only [List.mem_cons, List.not_mem_nil, or_false, forall_eq_or_imp, forall_eq]
  exact ⟨exact_optionalValue (fun n => .integer (.ofInt32 n)) data.errno,
    exact_optionalValue .string data.errname, exact_optionalValue .string data.reason,
    exact_optionalValue FaultTrace.exact_toValue data.trace⟩

/-- The value of a fault is exact within three levels. -/
theorem Fault.exact_toValue (fault : Fault) : fault.toValue.Exact 3 := by
  refine .object ?_
  simp only [List.mem_cons, List.not_mem_nil, or_false, forall_eq_or_imp, forall_eq]
  exact ⟨.integer _, .string _, exact_optionalValue FaultData.exact_toValue fault.data⟩

/-- The text of a fault. -/
def Fault.text (fault : Fault) : String := fault.toValue.text

/-- The text of a fault has the value of the fault as its tree. -/
theorem parseTree_faultText (fault : Fault) : parseTree fault.text = .ok fault.toValue :=
  parseTree_text (fault.exact_toValue.mono (by decide))

/-- A text that has a tree is read as the fault that its members write. -/
theorem Fault.parse_eq_ofTree {text : String} {tree : Value} (h : parseTree text = .ok tree) :
    (Fault.parse text).toOption = Fault.ofTree tree := by
  rw [← Fault.view_eq]
  exact Fault.views.follows.readAll h

/-- A fault is read back from its text. -/
theorem Fault.parse_text (fault : Fault) : Fault.parse fault.text = .ok fault := by
  have hparse := Fault.parse_eq_ofTree (parseTree_faultText fault)
  rw [Fault.ofTree_toValue] at hparse
  exact toOption_eq_some_iff.mp hparse

/-! ## Texts that are read as one fault -/

/-- An optional member that is left out or null. -/
def AbsentOrNull (vs : List Value) : Prop := vs = [] ∨ vs = [.null]

/-- What two texts give for an optional member: nothing in either, or values that are equal or
write the same. -/
def SameOptional (same : Value → Value → Prop) (vs ws : List Value) : Prop :=
  AbsentOrNull vs ∧ AbsentOrNull ws ∨ List.Forall₂ (fun v w => v = w ∨ same v w) vs ws

/-- Two trees write records with fields of the given names whose members agree. Both may be objects
or written by position; the order of the members does not count, nor do members of other names. -/
def SameRecord (names : List String)
    (agree : List (String × Value) → List (String × Value) → Prop) (tree tree' : Value) : Prop :=
  ∃ members members', recordMembers? names tree = some members ∧
    recordMembers? names tree' = some members' ∧ agree members members'

/-- Two trees write the same trace. -/
def SameTrace : Value → Value → Prop :=
  SameRecord ["class"] fun members members' =>
    SameOptional (fun _ _ => False) (entries "class" members) (entries "class" members')

/-- Two trees write the same details. -/
def SameDetails : Value → Value → Prop :=
  SameRecord ["error", "errname", "reason", "trace"] fun members members' =>
    (∀ name ∈ ["error", "errname", "reason"],
        SameOptional (fun _ _ => False) (entries name members) (entries name members')) ∧
      SameOptional SameTrace (entries "trace" members) (entries "trace" members')

/-- Two trees write the same fault. -/
def SameFault : Value → Value → Prop :=
  SameRecord ["code", "message", "data"] fun members members' =>
    entries "code" members = entries "code" members' ∧
      entries "message" members = entries "message" members' ∧
      SameOptional SameDetails (entries "data" members) (entries "data" members')

/-- A record is not null. -/
theorem SameRecord.ne_null {names : List String}
    {agree : List (String × Value) → List (String × Value) → Prop} {tree tree' : Value}
    (h : SameRecord names agree tree tree') : tree ≠ .null ∧ tree' ≠ .null := by
  obtain ⟨members, members', hmembers, hmembers', -⟩ := h
  constructor
  · rintro rfl
    cases hmembers
  · rintro rfl
    cases hmembers'

section Views

variable {α : Type} {view : Value → Option α} {same : Value → Value → Prop}

/-- Members that give the same are read the same by a view that reads what writes the same alike. -/
theorem SameOptional.optionalMember_eq {vs ws : List Value} (h : SameOptional same vs ws)
    (hnull : ∀ {v w}, same v w → v ≠ .null ∧ w ≠ .null)
    (hview : ∀ {v w}, same v w → view v = view w) :
    optionalMember view vs = optionalMember view ws := by
  rcases h with ⟨hvs, hws⟩ | h
  · rw [optionalMember_eq_some_none_iff.mpr hvs, optionalMember_eq_some_none_iff.mpr hws]
  have hoptionally {v w : Value} (h : v = w ∨ same v w) :
      v.optionally view = w.optionally view := by
    rcases h with rfl | h
    · rfl
    · obtain ⟨hv, hw⟩ := hnull h
      have hcommon := hview h
      cases v <;> cases w <;> first
        | exact absurd rfl hv
        | exact absurd rfl hw
        | simp only [Value.optionally, hcommon]
  cases h with
  | nil => rfl
  | cons hhead htail =>
    cases htail with
    | nil => simp only [optionalMember, soleMember, hoptionally hhead]
    | cons _ _ => rfl

/-- Members that agree are read alike. -/
theorem SameOptional.optionalMember_eq_of_eq {vs ws : List Value}
    (h : SameOptional (fun _ _ => False) vs ws) :
    optionalMember view vs = optionalMember view ws :=
  h.optionalMember_eq (fun h => h.elim) fun h => h.elim

end Views

/-- Trees of one trace are read as one trace. -/
theorem ofTree_of_sameTrace {tree tree' : Value} (h : SameTrace tree tree') :
    FaultTrace.ofTree tree = FaultTrace.ofTree tree' := by
  obtain ⟨members, members', hmembers, hmembers', hclass⟩ := h
  simp only [FaultTrace.ofTree, hmembers, hmembers', Option.bind_some, FaultTrace.ofMembers,
    hclass.optionalMember_eq_of_eq]

/-- Trees of the same details are read as the same details. -/
theorem ofTree_of_sameDetails {tree tree' : Value} (h : SameDetails tree tree') :
    FaultData.ofTree tree = FaultData.ofTree tree' := by
  obtain ⟨members, members', hmembers, hmembers', htexts, htrace⟩ := h
  simp only [FaultData.ofTree, hmembers, hmembers', Option.bind_some, FaultData.ofMembers,
    (htexts "error" (by simp)).optionalMember_eq_of_eq,
    (htexts "errname" (by simp)).optionalMember_eq_of_eq,
    (htexts "reason" (by simp)).optionalMember_eq_of_eq,
    htrace.optionalMember_eq SameRecord.ne_null ofTree_of_sameTrace]

/-- Trees that write the same fault stand for the same fault, or for none. -/
theorem ofTree_of_sameFault {tree tree' : Value} (h : SameFault tree tree') :
    Fault.ofTree tree = Fault.ofTree tree' := by
  obtain ⟨members, members', hmembers, hmembers', hcode, hmessage, hdata⟩ := h
  simp only [Fault.ofTree, hmembers, hmembers', Option.bind_some, Fault.ofMembers, hcode, hmessage,
    hdata.optionalMember_eq SameRecord.ne_null ofTree_of_sameDetails]

/-! ## The normal form -/

/-- A fault is read back from its text, so its text tells it, and what it is taken for: its reason
and its class. Every text that is read as the fault has this one normal form, and so has every text
that writes the same members: null or left out, by name or by position, among whatever others. -/
theorem wire_form (fault : Fault) :
    Fault.parse fault.text = .ok fault ∧
      (∀ other : Fault, other.text = fault.text → other = fault) ∧
      (∀ decoded, Fault.parse fault.text = .ok decoded →
        decoded.reason = fault.reason ∧ CallError.ofFault decoded = CallError.ofFault fault) ∧
      ∀ text, Fault.parse text = .ok fault →
        Fault.parse fault.text = Fault.parse text ∧
          ∀ text' tree tree', parseTree text = .ok tree → parseTree text' = .ok tree' →
            SameFault tree tree' → Fault.parse text' = .ok fault := by
  have hparse := fault.parse_text
  refine ⟨hparse, fun other hother => ?_, fun decoded hdecoded => ?_, fun text htext => ?_⟩
  · have hread := other.parse_text
    rw [hother, hparse] at hread
    exact (Except.ok.inj hread).symm
  · obtain rfl := Except.ok.inj (hparse.symm.trans hdecoded)
    exact ⟨rfl, rfl⟩
  · refine ⟨hparse.trans htext.symm, fun text' tree tree' htree htree' hsame => ?_⟩
    have hfault := Fault.parse_eq_ofTree htree
    have hfault' := Fault.parse_eq_ofTree htree'
    rw [htext, toOption_ok, ofTree_of_sameFault hsame] at hfault
    exact toOption_eq_some_iff.mp (hfault'.trans hfault.symm)

example :
    Fault.parse "[1,\"m\",\x7b\"hint\":[1e999],\"reason\":null\x7d]" =
      .ok ⟨1, "m", some ⟨none, none, none, none⟩⟩ := by
  decide +kernel

end FailoverControl.Rpc
