import FailoverControl.Text.Quoted

/-!
# Environments

The variables of a process. A variable that is set is never overwritten, and none can be set to a
value that holds a NUL. The main statement: what was set stays, and what is put in is found unless
something was there before.
-/

set_option autoImplicit false

namespace FailoverControl.Settings

/-- The variables of a process; of two with the same name the first one counts. -/
structure Environment where
  bindings : List (String × String)
deriving DecidableEq, Repr

/-- An assignment that the system does not take, because the value holds a NUL. -/
structure Unsettable where
  name : String
  value : String
deriving DecidableEq, Repr

/-- What a program says that is stopped by such an assignment. -/
def Unsettable.message (assignment : Unsettable) : String :=
  "failed to set environment variable `" ++ Text.quoted assignment.name ++ "` to `" ++
    Text.quoted assignment.value ++ "`: file name contained an unexpected NUL byte"

namespace Environment

/-- The value of a variable. -/
def get? (env : Environment) (name : String) : Option String :=
  env.bindings.lookup name

/-- What stands behind an equals sign in a binding that begins with a name and that sign. A name
that holds equals signs itself reaches into the value. -/
def behindName? (name : String) (binding : String × String) : Option String :=
  let written := binding.1.toList ++ '=' :: binding.2.toList
  ((name.toList ++ ['=']).isPrefixOf? written).map String.ofList

/-- What a reference to a variable stands for. -/
def refer? (env : Environment) (name : String) : Option String :=
  if name = "" then none else env.bindings.findSome? (behindName? name)

/-- Sets a variable that is not set, unless the system does not take the value. -/
def setDefault (env : Environment) (name value : String) : Except Unsettable Environment :=
  match env.get? name with
  | some _ => .ok env
  | none =>
    if '\x00' ∈ value.toList then .error ⟨name, value⟩
    else .ok ⟨env.bindings ++ [(name, value)]⟩

/-- An assignment is not taken exactly when the variable is not set and the value holds a NUL. -/
theorem setDefault_eq_error_iff {env : Environment} {name value : String} {u : Unsettable} :
    env.setDefault name value = .error u ↔
      env.get? name = none ∧ '\x00' ∈ value.toList ∧ u = ⟨name, value⟩ := by
  unfold setDefault
  cases env.get? name with
  | some old => simp
  | none =>
    by_cases hnul : '\x00' ∈ value.toList
    · simp [hnul, eq_comm]
    · simp [hnul]

/-- What was set stays, and what is put in is found unless something was there before. -/
theorem get?_setDefault {env env' : Environment} {name value : String}
    (h : env.setDefault name value = .ok env') (other : String) :
    env'.get? other = (env.get? other <|> if other = name then some value else none) := by
  unfold setDefault at h
  split at h
  · next old hold =>
    obtain rfl := Except.ok.inj h
    by_cases hother : other = name
    · simp [hother, hold]
    · simp [hother]
  · next hnone =>
    split at h
    · cases h
    · obtain rfl := Except.ok.inj h
      rw [get?, List.lookup_append]
      by_cases hother : other = name
      · rw [if_pos hother, hother, hnone, show env.bindings.lookup name = none from hnone,
          List.lookup_cons_self]
        rfl
      · simp [get?, hother, List.lookup_cons, beq_eq_false_iff_ne.mpr hother]

end Environment

end FailoverControl.Settings
