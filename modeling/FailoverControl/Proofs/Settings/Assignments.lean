import FailoverControl.Settings.DotEnv

/-!
# What a file of variables sets

A file amounts to the assignments of its lines, up to the first malformed one or to one that the
system does not take. Loading it makes them one after another and never touches a variable that is
set: a variable has the value that the process was started with, else the one that the file assigns
to it first.

Main statements: loading makes the assignments (`Environment.load_eq_assign`), what a variable
stands for afterwards (`Environment.get?_load`), and which files cannot be loaded
(`Environment.stuck_iff`).
-/

set_option autoImplicit false

namespace FailoverControl.Settings

open FailoverControl.Text (isBlank)

/-! ## Lines and assignments -/

/-- The lines of a file without comments. A line reaches across line feeds that are quoted, and
what stands in a quotation that is never closed is no line. -/
def wholeLines : List (Option (List Char)) → (before : List Char) → Quoting → List (List Char)
  | [], _, _ => []
  | none :: _, _, _ => []
  | some raw :: rest, before, quoting =>
    let whole := before ++ raw
    if (whole.dropWhile isBlank).head? = some '#' then wholeLines rest [] .plain
    else
      match scanLine quoting raw with
      | .error kept => (before ++ kept) :: wholeLines rest [] .plain
      | .ok .plain => chomp whole :: wholeLines rest [] .plain
      | .ok quoting => wholeLines rest whole quoting

namespace Environment

/-- The assignments of lines up to a malformed one, or to one that the system does not take. A value
may refer to what has been assigned before. -/
def assignmentsOf (env : Environment) : List (List Char) → List (String × String)
  | [] => []
  | line :: rest =>
    match readLine env line with
    | .nothing => env.assignmentsOf rest
    | .assignment name value =>
      (name, value) ::
        match env.setDefault name value with
        | .ok env => env.assignmentsOf rest
        | .error _ => []
    | .malformed => []

/-- The assignments of a file. -/
def assignments (env : Environment) (file : List UInt8) : List (String × String) :=
  let file := if file.take 3 = byteOrderMark then file.drop 3 else file
  let raws := (Text.splitLines file).map fun line => (Text.ofBytes? line).map String.toList
  env.assignmentsOf (wholeLines raws [] .plain)

/-- Makes assignments in turn. -/
def assign (env : Environment) (assignments : List (String × String)) :
    Except Unsettable Environment :=
  assignments.foldlM (fun env assignment => env.setDefault assignment.1 assignment.2) env

/-- The first assignment is made before the others. -/
theorem assign_cons (env : Environment) (assignment : String × String)
    (rest : List (String × String)) :
    env.assign (assignment :: rest) =
      match env.setDefault assignment.1 assignment.2 with
      | .ok env => env.assign rest
      | .error stuck => .error stuck := by
  rw [assign, List.foldlM_cons]
  cases env.setDefault assignment.1 assignment.2 <;> rfl

/-- What is set stays; of several assignments to a variable that is not set the first one counts. -/
theorem get?_assign {env env' : Environment} {assignments : List (String × String)}
    (h : env.assign assignments = .ok env') (name : String) :
    env'.get? name = (env.get? name <|> assignments.lookup name) := by
  induction assignments generalizing env with
  | nil =>
    obtain rfl := Except.ok.inj h
    simp
  | cons assignment rest ih =>
    rw [assign_cons] at h
    cases hset : env.setDefault assignment.1 assignment.2 with
    | error stuck =>
      rw [hset] at h
      cases h
    | ok next =>
      rw [hset] at h
      rw [ih h, get?_setDefault hset, List.lookup_cons]
      by_cases hname : name = assignment.1
      · cases env.get? name <;> simp [hname]
      · cases env.get? name <;> simp [hname, beq_eq_false_iff_ne.mpr hname]

/-- Assignments cannot all be made exactly when a variable that is not set gets a value with a NUL
by the first one that it gets. -/
theorem assign_eq_error_iff {env : Environment} {assignments : List (String × String)} :
    (∃ stuck, env.assign assignments = .error stuck) ↔
      ∃ name value, env.get? name = none ∧ assignments.lookup name = some value ∧
        '\x00' ∈ value.toList := by
  induction assignments generalizing env with
  | nil =>
    refine iff_of_false ?_ ?_
    · rintro ⟨stuck, ⟨⟩⟩
    · rintro ⟨name, value, -, ⟨⟩, -⟩
  | cons assignment rest ih =>
    obtain ⟨own, text⟩ := assignment
    rw [assign_cons]
    cases hset : env.setDefault own text with
    | error stuck =>
      obtain ⟨hunset, hnul, -⟩ := setDefault_eq_error_iff.mp hset
      exact ⟨fun _ => ⟨own, text, hunset, List.lookup_cons_self, hnul⟩, fun _ => ⟨stuck, rfl⟩⟩
    | ok next =>
      -- A variable with the name of the first assignment is set once that has been made.
      have htaken : env.get? own = none → '\x00' ∉ text.toList := fun hunset hnul =>
        nomatch hset.symm.trans (setDefault_eq_error_iff.mpr ⟨hunset, hnul, rfl⟩)
      refine ih.trans (exists_congr fun name => exists_congr fun value => ?_)
      rw [get?_setDefault hset, List.lookup_cons]
      by_cases hname : name = own
      · subst hname
        simp only [if_pos, beq_self_eq_true, Option.some.injEq]
        constructor
        · rintro ⟨hunset, -, -⟩
          cases hold : env.get? name <;> simp [hold] at hunset
        · rintro ⟨hunset, rfl, hnul⟩
          exact absurd hnul (htaken hunset)
      · simp [hname, beq_eq_false_iff_ne.mpr hname]

end Environment

/-! ## Loading -/

/-- What a reading comes to: an environment, unless an assignment is not taken. -/
def reached : Environment × Loading → Except Unsettable Environment
  | (_, .stuck assignment) => .error assignment
  | (env, _) => .ok env

namespace Environment

/-- Loading cuts the file into lines and makes their assignments. -/
theorem loadLines_eq_assign (env : Environment) (raws : List (Option (List Char)))
    (before : List Char) (quoting : Quoting) :
    reached (loadLines raws before quoting env) =
      env.assign (env.assignmentsOf (wholeLines raws before quoting)) := by
  induction raws generalizing before quoting env with
  | nil =>
    simp only [loadLines]
    split <;> rfl
  | cons raw rest ih =>
    cases raw with
    | none => rfl
    | some raw =>
      -- Wherever a line ends, it makes its assignment before the next one begins.
      have hline (line : List Char) :
          reached (match readLine env line with
            | .nothing => loadLines rest [] .plain env
            | .assignment name value =>
              match env.setDefault name value with
              | .ok env => loadLines rest [] .plain env
              | .error assignment => (env, .stuck assignment)
            | .malformed => (env, .malformed)) =
          env.assign (env.assignmentsOf (line :: wholeLines rest [] .plain)) := by
        rw [assignmentsOf]
        cases readLine env line with
        | nothing => exact ih env [] .plain
        | assignment name value =>
          simp only [assign_cons]
          cases env.setDefault name value with
          | error stuck => rfl
          | ok next => exact ih next [] .plain
        | malformed => rfl
      simp only [loadLines, wholeLines]
      by_cases hcomment : ((before ++ raw).dropWhile isBlank).head? = some '#'
      · rw [if_pos hcomment, if_pos hcomment]
        exact ih env [] .plain
      · rw [if_neg hcomment, if_neg hcomment]
        rcases scanLine quoting raw with kept | (_ | _)
        · exact hline _
        · exact hline _
        all_goals exact ih env _ _

/-- Loading a file makes its assignments. -/
theorem load_eq_assign (env : Environment) (file : List UInt8) :
    reached (env.load file) = env.assign (env.assignments file) :=
  loadLines_eq_assign env _ _ _

/-- A variable stands for what it stood for before a file was loaded, else for what the file
assigns to it first. -/
theorem get?_load {env : Environment} {file : List UInt8}
    (h : ∀ assignment, (env.load file).2 ≠ .stuck assignment) (name : String) :
    (env.load file).1.get? name = (env.get? name <|> (env.assignments file).lookup name) := by
  refine get?_assign ?_ name
  rw [← load_eq_assign]
  rcases hload : env.load file with ⟨env', _ | _ | assignment⟩
  · rfl
  · rfl
  · exact absurd (congrArg Prod.snd hload) (h assignment)

/-- A file cannot be loaded exactly when a variable that is not set gets a value with a NUL by the
first assignment of the file to it. -/
theorem stuck_iff {env : Environment} {file : List UInt8} :
    (∃ assignment, (env.load file).2 = .stuck assignment) ↔
      ∃ name value, env.get? name = none ∧ (env.assignments file).lookup name = some value ∧
        '\x00' ∈ value.toList := by
  rw [← assign_eq_error_iff, ← load_eq_assign]
  rcases env.load file with ⟨env', _ | _ | assignment⟩ <;> simp [reached]

end Environment

end FailoverControl.Settings
