import FailoverControl.Proofs.Json.Records
import FailoverControl.Rpc.Message

/-!
# What responses and faults are read from

The members that make up a trace, the details of a fault, a fault and a response. A member that is
optional may be absent or null, none may be given twice, and members of other names do not count.
Each of the four may also be written by position.

The main statement: a message that has a tree is read as the response that its members write
(`parse_eq_ofTree`).
-/

set_option autoImplicit false

namespace FailoverControl.Rpc

open FailoverControl.Json

/-! ## Traces -/

/-- The trace that some members make. -/
def FaultTrace.ofMembers (members : List (String × Value)) : Option FaultTrace := do
  let className ← optionalMember Value.string? (entries "class" members)
  return ⟨className⟩

/-- The trace that a tree writes. -/
def FaultTrace.ofTree (tree : Value) : Option FaultTrace :=
  (recordMembers? ["class"] tree).bind ofMembers

/-- The fields of a trace with their views. -/
def FaultTrace.views : FaultTrace.shape.Views where
  fields :=
    [.ofSlot "class" true (·.className) (fun v d => { d with className := v })
      follows_readText.optional fun _ _ => rfl]
  fields_eq := rfl
  coherent := List.pairwise_singleton _ _
  blank := by simp [FieldView.ofSlot, Field.ofSlot, shape]
  required := by simp [FieldView.ofSlot, Field.ofSlot]

/-- The view of a trace is what its members write. -/
theorem FaultTrace.view_eq : FaultTrace.views.view = FaultTrace.ofTree := by
  funext tree
  refine congrArg (Option.bind _) (funext fun members => ?_)
  simp (disch := rfl) only [RecordShape.Views.ofMembers, views, shape, takeFields_ofSlot]
  simp [takeFields, ofMembers, optionalMember_bind, Option.bind_assoc]

/-! ## Details -/

/-- The details that some members make. -/
def FaultData.ofMembers (members : List (String × Value)) : Option FaultData := do
  let errno ← optionalMember Value.int32? (entries "error" members)
  let errname ← optionalMember Value.string? (entries "errname" members)
  let reason ← optionalMember Value.string? (entries "reason" members)
  let trace ← optionalMember FaultTrace.ofTree (entries "trace" members)
  return ⟨errno, errname, reason, trace⟩

/-- The details that a tree writes. -/
def FaultData.ofTree (tree : Value) : Option FaultData :=
  (recordMembers? ["error", "errname", "reason", "trace"] tree).bind ofMembers

/-- The fields of the details with their views. -/
def FaultData.views : FaultData.shape.Views where
  fields :=
    [.ofSlot "error" true (·.errno) (fun v d => { d with errno := v })
        follows_readInt32.optional fun _ _ => rfl,
      .ofSlot "errname" true (·.errname) (fun v d => { d with errname := v })
        follows_readText.optional fun _ _ => rfl,
      .ofSlot "reason" true (·.reason) (fun v d => { d with reason := v })
        follows_readText.optional fun _ _ => rfl,
      .ofSlot "trace" true (·.trace) (fun v d => { d with trace := v })
        FaultTrace.views.follows.optional fun _ _ => rfl]
  fields_eq := rfl
  coherent := by
    simp only [Coherent, List.pairwise_cons, List.mem_cons, List.not_mem_nil, or_false,
      forall_eq_or_imp, forall_eq, List.Pairwise.nil, and_true, false_imp_iff, implies_true]
    and_intros <;>
      exact FieldView.apart_ofSlot (by decide) (fun _ _ _ => rfl) (fun _ _ => rfl) fun _ _ => rfl
  blank := by simp [FieldView.ofSlot, Field.ofSlot, shape]
  required := by simp [FieldView.ofSlot, Field.ofSlot]

/-- The view of the details is what their members write. -/
theorem FaultData.view_eq : FaultData.views.view = FaultData.ofTree := by
  funext tree
  refine congrArg (Option.bind _) (funext fun members => ?_)
  simp (disch := rfl) only [RecordShape.Views.ofMembers, views, shape, takeFields_ofSlot]
  simp [takeFields, ofMembers, optionalMember_bind, Option.bind_assoc, FaultTrace.view_eq]

/-! ## Faults -/

/-- The fault that some members make; code and message are required. -/
def Fault.ofMembers (members : List (String × Value)) : Option Fault := do
  let code ← requiredMember Value.int64? (entries "code" members)
  let message ← requiredMember Value.string? (entries "message" members)
  let data ← optionalMember FaultData.ofTree (entries "data" members)
  return ⟨code, message, data⟩

/-- The fault that a tree writes. -/
def Fault.ofTree (tree : Value) : Option Fault :=
  (recordMembers? ["code", "message", "data"] tree).bind ofMembers

/-- The fields of a fault with their views. -/
def Fault.views : Fault.shape.Views where
  fields :=
    [.ofSlot "code" false (·.code) (fun v d => { d with code := v })
        follows_readInt64 fun _ _ => rfl,
      .ofSlot "message" false (·.message) (fun v d => { d with message := v })
        follows_readText fun _ _ => rfl,
      .ofSlot "data" true (·.data) (fun v d => { d with data := v })
        FaultData.views.follows.optional fun _ _ => rfl]
  fields_eq := rfl
  coherent := by
    simp only [Coherent, List.pairwise_cons, List.mem_cons, List.not_mem_nil, or_false,
      forall_eq_or_imp, forall_eq, List.Pairwise.nil, and_true, false_imp_iff, implies_true]
    and_intros <;>
      exact FieldView.apart_ofSlot (by decide) (fun _ _ _ => rfl) (fun _ _ => rfl) fun _ _ => rfl
  blank := by simp [FieldView.ofSlot, Field.ofSlot, shape]
  required := by
    simp only [List.mem_cons, List.not_mem_nil, or_false, forall_eq_or_imp, forall_eq]
    refine ⟨fun _ draft h => ?_, fun _ draft h => ?_, fun h => nomatch h⟩
    · have hcode : draft.code = none :=
        Option.isSome_eq_false_iff.mp h |> Option.isNone_iff_eq_none.mp
      simp only [shape, hcode, toOption_error]
    · have hmessage : draft.message = none :=
        Option.isSome_eq_false_iff.mp h |> Option.isNone_iff_eq_none.mp
      cases hcode : draft.code <;> simp only [shape, hcode, hmessage, toOption_error]

/-- The view of a fault is what its members write. -/
theorem Fault.view_eq : Fault.views.view = Fault.ofTree := by
  funext tree
  refine congrArg (Option.bind _) (funext fun members => ?_)
  simp (disch := rfl) only [RecordShape.Views.ofMembers, views, shape, takeFields_ofSlot]
  simp [takeFields, ofMembers, optionalMember_bind, requiredMember_eq, Option.bind_assoc,
    FaultData.view_eq]
  -- A missing code or message is missed once all members have been read.
  rcases soleMember Value.int64? (entries "code" members) with _ | _ | code <;>
    rcases soleMember Value.string? (entries "message" members) with _ | _ | message <;>
    cases soleMember (Value.optionally FaultData.ofTree) (entries "data" members) <;> rfl

/-! ## Responses -/

/-- The response that some members make. -/
def Response.ofMembers (members : List (String × Value)) : Option Response := do
  let id ← optionalMember Value.uint64? (entries "id" members)
  let result ← optionalMember (fun v => some v.settled) (entries "result" members)
  let error ← optionalMember Fault.ofTree (entries "error" members)
  return ⟨id, result, error⟩

/-- The response that a tree writes. -/
def Response.ofTree (tree : Value) : Option Response :=
  (recordMembers? ["id", "result", "error"] tree).bind ofMembers

/-- The fields of a response with their views. -/
def Response.views : Response.shape.Views where
  fields :=
    [.ofSlot "id" true (·.id) (fun v d => { d with id := v })
        follows_readUInt64.optional fun _ _ => rfl,
      .ofSlot "result" true (·.result) (fun v d => { d with result := v })
        follows_readValue.optional fun _ _ => rfl,
      .ofSlot "error" true (·.error) (fun v d => { d with error := v })
        Fault.views.follows.optional fun _ _ => rfl]
  fields_eq := rfl
  coherent := by
    simp only [Coherent, List.pairwise_cons, List.mem_cons, List.not_mem_nil, or_false,
      forall_eq_or_imp, forall_eq, List.Pairwise.nil, and_true, false_imp_iff, implies_true]
    and_intros <;>
      exact FieldView.apart_ofSlot (by decide) (fun _ _ _ => rfl) (fun _ _ => rfl) fun _ _ => rfl
  blank := by simp [FieldView.ofSlot, Field.ofSlot, shape]
  required := by simp [FieldView.ofSlot, Field.ofSlot]

/-- The view of a response is what its members write. -/
theorem Response.view_eq : Response.views.view = Response.ofTree := by
  funext tree
  refine congrArg (Option.bind _) (funext fun members => ?_)
  simp (disch := rfl) only [RecordShape.Views.ofMembers, views, shape, takeFields_ofSlot]
  simp [takeFields, ofMembers, optionalMember_bind, Option.bind_assoc, Fault.view_eq]

/-- A message that has a tree is read as the response that its members write, and as none where
they write none. -/
theorem parse_eq_ofTree {text : String} {tree : Value} (h : parseTree text = .ok tree) :
    (Response.parse text).toOption = Response.ofTree tree := by
  rw [← Response.view_eq]
  exact Response.views.follows.readAll h

end FailoverControl.Rpc
