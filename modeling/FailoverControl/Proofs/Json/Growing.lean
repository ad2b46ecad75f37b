import FailoverControl.Proofs.Json.RecordText

/-!
# Records of a newer kind

An object may say more than a reader of records knows, and in any order. It is grown from another
one when members with other names have been put in, members have changed places, and the values of
some fields have grown in their turn. A reader of records makes the same of both.

The main statement: `RecordGrown.alone_eq`.
-/

set_option autoImplicit false

namespace FailoverControl.Json

/-! ## Objects that have grown -/

/-- A member has a key, however the key is spelled. -/
def Member.Has (m : Member) (key : String) : Prop := Spells m.keyBody key.toList

/-- The key of a member is what its characters spell. -/
theorem Member.Has.key?_eq {m : Member} {key : String} (h : m.Has key) : m.key? = some key := by
  rw [Member.key?, spelled?_of_spells h, String.ofList_toList]

section Growth

variable (names : List String) (Newer : String → List Char → List Char → Prop)

/-- Members that have grown: others have been put in anywhere whose keys are none of some names,
they have been put in another order, or the value of one of them is newer. -/
inductive MembersGrown : List Member → List Member → Prop
  | refl (members : List Member) : MembersGrown members members
  | inserted {xs ys : List Member} {m : Member} {key : String} (hkey : m.Has key)
      (hname : key ∉ names) (hvalue : IsJson m.value.core) : MembersGrown (xs ++ ys) (xs ++ m :: ys)
  | permuted {members members' : List Member} (h : members.Perm members') :
      MembersGrown members members'
  | within {xs ys : List Member} {m m' : Member} {key : String} (hkey : m.Has key)
      (hkey' : m'.Has key) (h : Newer key m.value.core m'.value.core) :
      MembersGrown (xs ++ m :: ys) (xs ++ m' :: ys)
  | trans {first second third : List Member} (h : MembersGrown first second)
      (h' : MembersGrown second third) : MembersGrown first third

/-- A record that has grown. In the positional form a field may have a newer value. -/
inductive RecordGrown : List Char → List Char → Prop
  | object {lead lead' : List Char} {members members' : List Member} (hlead : Blanks lead)
      (hlead' : Blanks lead') (hjson : ∀ m ∈ members, IsJson m.value.core)
      (h : MembersGrown names Newer members members') :
      RecordGrown (objectText lead members) (objectText lead' members')
  | positional {lead : List Char} {xs ys : List Padded} {i i' : Padded} {key : String}
      (hlead : Blanks lead) (hjson : ∀ j ∈ xs ++ i :: ys, IsJson j.core)
      (hkey : names[xs.length]? = some key) (h : Newer key i.core i'.core) :
      RecordGrown (arrayText lead (xs ++ i :: ys)) (arrayText lead (xs ++ i' :: ys))

end Growth

section Json

variable {names : List String} {Newer : String → List Char → List Char → Prop}

/-- What holds of all elements still does when one is replaced by another of which it holds. -/
theorem forall_mem_replaced {α : Type} {p : α → Prop} {xs ys : List α} {a a' : α} (ha' : p a')
    (h : ∀ b ∈ xs ++ a :: ys, p b) : ∀ b ∈ xs ++ a' :: ys, p b := by
  obtain ⟨hbefore, hfrom⟩ := List.forall_mem_append.mp h
  have hafter := (List.forall_mem_cons.mp hfrom).2
  exact List.forall_mem_append.mpr ⟨hbefore, List.forall_mem_cons.mpr ⟨ha', hafter⟩⟩

/-- Members that have grown hold values of the grammar. -/
theorem MembersGrown.isJson (hnewer : ∀ ⦃key v v'⦄, Newer key v v' → IsJson v')
    {members members' : List Member} (h : MembersGrown names Newer members members')
    (hjson : ∀ m ∈ members, IsJson m.value.core) : ∀ m ∈ members', IsJson m.value.core := by
  induction h with
  | refl => exact hjson
  | inserted hkey hname hvalue =>
    obtain ⟨hbefore, hafter⟩ := List.forall_mem_append.mp hjson
    exact List.forall_mem_append.mpr ⟨hbefore, List.forall_mem_cons.mpr ⟨hvalue, hafter⟩⟩
  | permuted h => exact fun k hk => hjson k (h.mem_iff.mpr hk)
  | within hkey hkey' h => exact forall_mem_replaced (hnewer h) hjson
  | trans _ _ ih ih' => exact ih' (ih hjson)

/-- A record that has grown is a value as the grammar has it. -/
theorem RecordGrown.isJson (hnewer : ∀ ⦃key v v'⦄, Newer key v v' → IsJson v')
    {v v' : List Char} (h : RecordGrown names Newer v v') : IsJson v' := by
  cases h with
  | object hlead hlead' hjson h => exact .object hlead' (h.isJson hnewer hjson)
  | positional hlead hjson hkey h => exact .array hlead (forall_mem_replaced (hnewer h) hjson)

/-- A record that may grow is a value as the grammar has it. -/
theorem RecordGrown.isJson_left {v v' : List Char} (h : RecordGrown names Newer v v') :
    IsJson v := by
  cases h with
  | object hlead hlead' hjson h => exact .object hlead hjson
  | positional hlead hjson hkey h => exact .array hlead hjson

end Json

/-! ## Fields in any order -/

section Fields

variable {α β δ ρ : Type}

/-- A draft has a field once it has been completed by it. -/
def Field.Fills (f : Field δ) : Prop :=
  ∀ (depth : Nat) (cs rest : List Char) (complete : δ → δ),
    f.read depth cs = .ok (complete, rest) → ∀ draft, f.given (complete draft) = true

/-- Two fields complete different parts of a draft. -/
structure Field.Apart (f g : Field δ) : Prop where
  spares : f.Spares g
  spared : g.Spares f
  comm : ∀ {depth depth' : Nat} {cs cs' rest rest' : List Char} {c k : δ → δ},
    f.read depth cs = .ok (c, rest) → g.read depth' cs' = .ok (k, rest') →
      ∀ draft, c (k draft) = k (c draft)

/-- Two fields are apart from each other. -/
theorem Field.Apart.symm {f g : Field δ} (h : f.Apart g) : g.Apart f :=
  ⟨h.spared, h.spares, fun hg hf draft => (h.comm hf hg draft).symm⟩

instance : Std.Symm (Field.Apart (δ := δ)) := ⟨fun _ _ => Field.Apart.symm⟩

section Slots

variable {name name' : String} {optional optional' : Bool} {reader : Nat → Reader α}
  {reader' : Nat → Reader β} {slot : δ → Option α} {slot' : δ → Option β} {fill : α → δ → δ}
  {fill' : β → δ → δ}

/-- A field fills its slot. -/
theorem fills_ofSlot (h : ∀ a draft, slot (fill a draft) = some a) :
    (Field.ofSlot name optional reader slot fill).Fills := by
  intro _ _ _ complete hread draft
  obtain ⟨a, rfl, -⟩ := exists_fill hread
  simp only [Field.ofSlot, h, Option.isSome_some]

/-- Fields with slots of their own are apart. -/
theorem apart_ofSlot (hright : ∀ a draft, slot' (fill a draft) = slot' draft)
    (hleft : ∀ b draft, slot (fill' b draft) = slot draft)
    (hcomm : ∀ a b draft, fill a (fill' b draft) = fill' b (fill a draft)) :
    (Field.ofSlot name optional reader slot fill).Apart
      (Field.ofSlot name' optional' reader' slot' fill') where
  spares := spares_ofSlot hright
  spared := spares_ofSlot hleft
  comm hf hg draft := by
    obtain ⟨a, rfl, -⟩ := exists_fill hf
    obtain ⟨b, rfl, -⟩ := exists_fill hg
    exact hcomm a b draft

end Slots

/-- A field that can be given once, and whose reader reads every value in the same way wherever it
stands. -/
structure Field.Regular (f : Field δ) : Prop where
  fills : f.Fills
  steady : SteadyReader f.read

/-- A field with a steady reader that fills its slot is regular. -/
theorem regular_ofSlot {name : String} {optional : Bool} {reader : Nat → Reader α}
    {slot : δ → Option α} {fill : α → δ → δ} (hsteady : SteadyReader reader)
    (h : ∀ a draft, slot (fill a draft) = some a) :
    (Field.ofSlot name optional reader slot fill).Regular :=
  ⟨fills_ofSlot h, hsteady.ofSlot name optional slot fill⟩

/-- The fields of a kind of record can be given in any order. -/
structure RecordShape.Orderly (shape : RecordShape δ ρ) : Prop where
  regular : ∀ f ∈ shape.fields, f.Regular
  apart : shape.fields.Pairwise Field.Apart

/-- The fields of an orderly record have steady readers. -/
theorem RecordShape.Orderly.steady {shape : RecordShape δ ρ} (h : shape.Orderly) :
    ∀ f ∈ shape.fields, SteadyReader f.read :=
  fun f hf => (h.regular f hf).steady

/-- An orderly record is read in the same way everywhere. -/
theorem RecordShape.Orderly.steady_read {shape : RecordShape δ ρ} (h : shape.Orderly) :
    SteadyReader shape.read :=
  RecordShape.steady_read h.steady

end Fields

namespace RecordShape

variable {δ ρ : Type} {shape : RecordShape δ ρ} {depth : Nat}

/-- What is made of a value alone is read from it. -/
theorem exists_read_of_alone {f : Field δ} {v : List Char} {complete : δ → δ}
    (h : (f.read depth).alone v = some complete) : ∃ rest, f.read depth v = .ok (complete, rest) := by
  obtain ⟨⟨_, rest⟩, hread, rfl⟩ := Option.map_eq_some_iff.mp h
  exact ⟨rest, toOption_eq_some_iff.mp hread⟩

/-- A field is found by its own name. -/
theorem name_of_field? {f : Field δ} {key : String} (h : shape.field? key = some f) :
    f.name = key := by
  simpa using List.find?_some h

/-- Fields of different names are apart. -/
theorem Orderly.apart_of_name_ne (h : shape.Orderly) {key key' : String} {f g : Field δ}
    (hf : shape.field? key = some f) (hg : shape.field? key' = some g) (hne : key ≠ key') :
    f.Apart g := by
  have hdifferent : f ≠ g := by
    rintro rfl
    exact hne ((name_of_field? hf).symm.trans (name_of_field? hg))
  exact h.apart.forall (List.mem_of_find?_eq_some hf) (List.mem_of_find?_eq_some hg) hdifferent

/-- A member counts by its key and by what is made of its value. -/
theorem step_of_key {m : Member} {key : String} (hkey : m.key? = some key) (draft : δ) :
    shape.step depth m draft =
      match shape.field? key with
      | none => some draft
      | some f =>
        if f.given draft then none
        else ((f.read depth).alone m.value.core).map fun complete => complete draft :=
  congrArg (Option.bind · _) hkey

/-- The second member of one name is refused. -/
theorem steps_twice (h : shape.Orderly) {m m' : Member} {key : String} (hkey : m.key? = some key)
    (hkey' : m'.key? = some key) {f : Field δ} (hf : shape.field? key = some f) (draft : δ) :
    (shape.step depth m draft).bind (shape.step depth m') = none := by
  have hfills := (h.regular f (List.mem_of_find?_eq_some hf)).fills
  simp only [step_of_key hkey, hf]
  by_cases hgiven : f.given draft = true
  · rw [if_pos hgiven, Option.bind_none]
  rw [if_neg hgiven]
  cases halone : (f.read depth).alone m.value.core with
  | none => rfl
  | some complete =>
    obtain ⟨rest, hread⟩ := exists_read_of_alone halone
    rw [Option.map_some, Option.bind_some, step_of_key hkey']
    simp only [hf, hfills _ _ _ _ hread, if_true]

/-- What two members of different names do to a draft, the first of them first. -/
theorem steps_apart {m m' : Member} {key key' : String} (hkey : m.key? = some key)
    (hkey' : m'.key? = some key') {f g : Field δ} (hf : shape.field? key = some f)
    (hg : shape.field? key' = some g) (hspares : f.Spares g) (draft : δ) :
    (shape.step depth m draft).bind (shape.step depth m') =
      if f.given draft ∨ g.given draft then none
      else ((f.read depth).alone m.value.core).bind fun c =>
        ((g.read depth).alone m'.value.core).map fun k => k (c draft) := by
  simp only [step_of_key hkey, hf]
  by_cases hgiven : f.given draft = true
  · rw [if_pos hgiven, if_pos (.inl hgiven), Option.bind_none]
  rw [if_neg hgiven]
  cases halone : (f.read depth).alone m.value.core with
  | none => simp
  | some c =>
    obtain ⟨rest, hread⟩ := exists_read_of_alone halone
    rw [Option.map_some, Option.bind_some, step_of_key hkey']
    simp only [hg, hspares _ _ _ _ hread, hgiven, false_or, Bool.false_eq_true, Option.bind_some]

/-- A member that no field is named after is passed over. -/
theorem step_of_no_field {m : Member} {key : String} (hkey : m.key? = some key)
    (hfind : shape.field? key = none) : shape.step depth m = some := by
  funext draft
  rw [step_of_key hkey, hfind]

/-- Two members that are fields of different names may change places. -/
theorem step_comm_of_ne (h : shape.Orderly) {m m' : Member} {key key' : String}
    (hkey : m.key? = some key) (hkey' : m'.key? = some key') {f g : Field δ}
    (hf : shape.field? key = some f) (hg : shape.field? key' = some g) (hne : key ≠ key')
    (draft : δ) :
    (shape.step depth m draft).bind (shape.step depth m') =
      (shape.step depth m' draft).bind (shape.step depth m) := by
  have hapart := h.apart_of_name_ne hf hg hne
  rw [steps_apart hkey hkey' hf hg hapart.spares, steps_apart hkey' hkey hg hf hapart.spared]
  simp only [or_comm]
  split
  · rfl
  cases halone : (f.read depth).alone m.value.core with
  | none => simp
  | some c =>
    cases halone' : (g.read depth).alone m'.value.core with
    | none => rfl
    | some k =>
      obtain ⟨rest, hread⟩ := exists_read_of_alone halone
      obtain ⟨rest', hread'⟩ := exists_read_of_alone halone'
      exact congrArg some (hapart.comm hread hread' draft).symm

/-- Two members may change places. -/
theorem step_comm (h : shape.Orderly) (m m' : Member) (draft : δ) :
    (shape.step depth m draft).bind (shape.step depth m') =
      (shape.step depth m' draft).bind (shape.step depth m) := by
  have hunread (k : Member) (hkey : k.key? = none) : shape.step depth k = fun _ => none := by
    funext draft
    rw [step, hkey, Option.bind_none]
  -- A key that cannot be read is refused in both places, and a member that is no field does not
  -- count in either, so two fields remain.
  cases hkey : m.key? with
  | none => simp [hunread m hkey]
  | some key =>
  cases hkey' : m'.key? with
  | none => simp [hunread m' hkey']
  | some key' =>
  cases hf : shape.field? key with
  | none => simp [step_of_no_field hkey hf]
  | some f =>
  cases hg : shape.field? key' with
  | none => simp [step_of_no_field hkey' hg]
  | some g =>
  by_cases hsame : key = key'
  · subst hsame
    rw [steps_twice h hkey hkey' hf, steps_twice h hkey' hkey hf]
  · exact step_comm_of_ne h hkey hkey' hf hg hsame draft

/-- Members of an orderly record may stand in any order. -/
theorem steps_perm (h : shape.Orderly) {members members' : List Member}
    (hperm : members.Perm members') (draft : δ) :
    shape.steps depth members draft = shape.steps depth members' draft := by
  induction hperm generalizing draft with
  | nil => rfl
  | cons m _ ih =>
    simp only [steps]
    congr 1
    funext draft
    exact ih draft
  | swap m m' members =>
    simp only [steps, ← Option.bind_assoc]
    rw [step_comm h]
  | trans _ _ ih ih' => exact (ih draft).trans (ih' draft)

/-- Members are taken one after the other. -/
theorem steps_append (xs ys : List Member) (draft : δ) :
    shape.steps depth (xs ++ ys) draft =
      (shape.steps depth xs draft).bind (shape.steps depth ys) := by
  induction xs generalizing draft with
  | nil => rfl
  | cons m xs ih =>
    rw [List.cons_append, steps, steps, Option.bind_assoc]
    congr 1
    funext draft
    exact ih draft

/-- A member that is no field changes nothing, whatever its value is. -/
theorem step_of_other {m : Member} {key : String} (hkey : m.Has key)
    (hname : key ∉ shape.fields.map Field.name) : shape.step depth m = some := by
  have hfind : shape.field? key = none := by
    rw [field?, List.find?_eq_none]
    intro f hf heq
    exact hname (List.mem_map.mpr ⟨f, hf, of_decide_eq_true heq⟩)
  exact step_of_no_field hkey.key?_eq hfind

/-- A member counts by what the reader of its field makes of its value. -/
theorem step_congr {m m' : Member} {key : String} (hkey : m.Has key) (hkey' : m'.Has key)
    (h : ∀ f ∈ shape.fields, f.name = key →
      (f.read depth).alone m'.value.core = (f.read depth).alone m.value.core) :
    shape.step depth m' = shape.step depth m := by
  funext draft
  rw [step_of_key hkey.key?_eq, step_of_key hkey'.key?_eq]
  cases hfind : shape.field? key with
  | none => rfl
  | some f =>
    simp only [h f (List.mem_of_find?_eq_some hfind) (name_of_field? hfind)]

/-- So does a value of the positional form by what the reader of its place makes of it. -/
theorem positions_congr {fields : List (Field δ)} {xs ys : List Padded} {i i' : Padded}
    (h : ∀ f, fields[xs.length]? = some f →
      (f.read depth).alone i'.core = (f.read depth).alone i.core) (draft : δ) :
    positions depth fields (xs ++ i' :: ys) draft =
      positions depth fields (xs ++ i :: ys) draft := by
  induction xs generalizing fields draft with
  | nil =>
    cases fields with
    | nil => rfl
    | cons f fields =>
      have hf : (f.read depth).alone i'.core = (f.read depth).alone i.core := h f rfl
      rw [List.nil_append, List.nil_append, positions, positions, hf]
  | cons x xs ih =>
    cases fields with
    | nil => rfl
    | cons f fields =>
      rw [List.cons_append, List.cons_append, positions, positions]
      congr 1
      funext complete
      exact ih h (complete draft)

end RecordShape

/-! ## What is made of a record that has grown -/

section Grown

variable {δ ρ : Type} {shape : RecordShape δ ρ} {names : List String}
  {Newer : String → List Char → List Char → Prop}

/-- The reader of each field makes the same of a newer value of it. -/
def RecordShape.Unmoved (shape : RecordShape δ ρ) (Newer : String → List Char → List Char → Prop) :
    Prop :=
  ∀ ⦃key v v'⦄, Newer key v v' → ∀ f ∈ shape.fields, f.name = key →
    ∀ depth, (f.read depth).alone v' = (f.read depth).alone v

variable (horderly : shape.Orderly) (hnames : shape.fields.map Field.name = names)
  (hunmoved : shape.Unmoved Newer)

include horderly hnames hunmoved

/-- Members that have grown are taken for what they were. -/
theorem MembersGrown.steps_eq {members members' : List Member}
    (h : MembersGrown names Newer members members') (depth : Nat) (draft : δ) :
    shape.steps depth members' draft = shape.steps depth members draft := by
  induction h generalizing draft with
  | refl => rfl
  | @inserted xs ys m key hkey hname hvalue =>
    have hm : shape.steps depth (m :: ys) = shape.steps depth ys := by
      funext draft
      rw [RecordShape.steps, RecordShape.step_of_other hkey (hnames ▸ hname), Option.bind_some]
    rw [RecordShape.steps_append, RecordShape.steps_append, hm]
  | permuted hperm => exact (RecordShape.steps_perm horderly hperm draft).symm
  | @within xs ys m m' key hkey hkey' h =>
    have hstep : shape.step depth m' = shape.step depth m :=
      RecordShape.step_congr hkey hkey' fun f hf hname => hunmoved h f hf hname depth
    have hm : shape.steps depth (m' :: ys) = shape.steps depth (m :: ys) := by
      funext draft
      rw [RecordShape.steps, RecordShape.steps, hstep]
    rw [RecordShape.steps_append, RecordShape.steps_append, hm]
  | trans _ _ ih ih' => exact (ih' draft).trans (ih draft)

/-- A reader of records makes the same of a record that has grown. -/
theorem RecordGrown.alone_eq (hjson : ∀ ⦃key v v'⦄, Newer key v v' → IsJson v')
    {v v' : List Char} (h : RecordGrown names Newer v v') (depth : Nat) :
    (shape.read depth).alone v' = (shape.read depth).alone v := by
  cases depth with
  | zero => simp only [Reader.alone, RecordShape.read_zero]
  | succ depth =>
    cases h with
    | object hlead hlead' hmembers hgrown =>
      rw [RecordShape.alone_objectText hlead hmembers horderly.steady,
        RecordShape.alone_objectText hlead' (hgrown.isJson hjson hmembers) horderly.steady,
        hgrown.steps_eq horderly hnames hunmoved]
    | @positional lead xs ys i i' key hlead hitems hkey hnewer =>
      rw [RecordShape.alone_arrayText hlead hitems horderly.steady,
        RecordShape.alone_arrayText hlead (forall_mem_replaced (hjson hnewer) hitems)
          horderly.steady,
        RecordShape.positions_congr]
      intro f hf
      have hname : f.name = key := by
        rw [← hnames, List.getElem?_map, hf] at hkey
        exact Option.some.inj hkey
      exact hunmoved hnewer f (List.mem_of_getElem? hf) hname depth

/-- Where a record may be left out, it is there before it has grown and after. -/
theorem RecordGrown.alone_optional_eq (hjson : ∀ ⦃key v v'⦄, Newer key v v' → IsJson v')
    {v v' : List Char} (h : RecordGrown names Newer v v') (depth : Nat) :
    (readOptional (shape.read depth)).alone v' = (readOptional (shape.read depth)).alone v := by
  have halone := h.alone_eq horderly hnames hunmoved hjson depth
  cases h with
  | object hlead hlead' hmembers hgrown =>
    have hoptional (lead : List Char) (members : List Member) :
        (readOptional (shape.read depth)).alone (objectText lead members) =
          ((shape.read depth).alone (objectText lead members)).map some :=
      Reader.alone_optional _ rfl (by decide)
    rw [hoptional, hoptional, halone]
  | positional hlead hitems hkey hnewer =>
    have hoptional (lead : List Char) (items : List Padded) :
        (readOptional (shape.read depth)).alone (arrayText lead items) =
          ((shape.read depth).alone (arrayText lead items)).map some :=
      Reader.alone_optional _ rfl (by decide)
    rw [hoptional, hoptional, halone]

end Grown

end FailoverControl.Json
