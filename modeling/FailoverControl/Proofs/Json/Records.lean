import FailoverControl.Proofs.Json.Views

/-!
# What records are read from

A record is read from the values of its fields, wherever they stand among the members of an object:
each field is completed by the one member that has its name, a field with two is refused, and a
member that is no field changes nothing. The positional form is the object of the fields in order.

The main statement: the reader of a record follows the view that looks at the members by field name
only (`RecordShape.Views.follows`).
-/

set_option autoImplicit false

namespace FailoverControl.Json

/-- The values of the members with a key, in the order of the text. -/
def entries (key : String) : List (String × Value) → List Value
  | [] => []
  | (k, v) :: rest => if k = key then v :: entries key rest else entries key rest

/-- A field with what it makes of a tree. -/
structure FieldView (δ : Type) where
  field : Field δ
  view : Value → Option (δ → δ)
  follows : Follows field.read view
  /-- A draft has a field once it has been completed by it. -/
  given : ∀ {v : Value} {c : δ → δ}, view v = some c → ∀ draft, field.given (c draft) = true

namespace FieldView

variable {δ : Type}

/-- A draft after the members that have the name of a field. -/
def take (f : FieldView δ) : List Value → δ → Option δ
  | [], draft => some draft
  | [v], draft =>
    if f.field.given draft then none else (f.view v).map fun complete => complete draft
  | _ :: _ :: _, _ => none

/-- Two fields have different names and do not get in each other's way. -/
structure Apart (f g : FieldView δ) : Prop where
  name_ne : f.field.name ≠ g.field.name
  comm : ∀ {v w : Value} {c k : δ → δ}, f.view v = some c → g.view w = some k →
    ∀ draft, c (k draft) = k (c draft)
  given_right : ∀ {v : Value} {c : δ → δ}, f.view v = some c →
    ∀ draft, g.field.given (c draft) = g.field.given draft
  given_left : ∀ {w : Value} {k : δ → δ}, g.view w = some k →
    ∀ draft, f.field.given (k draft) = f.field.given draft

/-- A field without a value stays as it is. -/
@[simp]
theorem take_nil (f : FieldView δ) (draft : δ) : f.take [] draft = some draft :=
  rfl

/-- A field that is given twice is refused. -/
@[simp]
theorem take_two (f : FieldView δ) (v w : Value) (vs : List Value) (draft : δ) :
    f.take (v :: w :: vs) draft = none :=
  rfl

/-- A field that is given once is filled with its value. -/
theorem take_one (f : FieldView δ) (v : Value) (draft : δ) :
    f.take [v] draft =
      if f.field.given draft then none else (f.view v).map fun complete => complete draft :=
  rfl

/-- Fields that are apart may be filled in any order. -/
theorem take_comm {f g : FieldView δ} (h : f.Apart g) (vs ws : List Value) (draft : δ) :
    (f.take vs draft).bind (g.take ws) = (g.take ws draft).bind (f.take vs) := by
  match vs, ws with
  | [], ws => cases htake : g.take ws draft <;> simp [htake]
  | _ :: _ :: _, ws => cases g.take ws draft <;> simp
  | vs, [] => cases htake : f.take vs draft <;> simp [htake]
  | vs, _ :: _ :: _ => cases f.take vs draft <;> simp
  | [v], [w] =>
    cases hv : f.view v with
    | none => cases g.take [w] draft <;> simp [take_one, hv]
    | some c =>
      cases hw : g.view w with
      | none => cases f.take [v] draft <;> simp [take_one, hw]
      | some k =>
        have hf := h.given_left hw draft
        have hg := h.given_right hv draft
        by_cases hfd : f.field.given draft = true <;> by_cases hgd : g.field.given draft = true <;>
          simp [take_one, hv, hw, hf, hg, hfd, hgd, h.comm hv hw]

/-- A field that has been completed by one member takes no other one. -/
theorem take_cons (f : FieldView δ) (v : Value) (vs : List Value) (draft : δ) :
    f.take (v :: vs) draft = (f.take [v] draft).bind (f.take vs) := by
  cases vs with
  | nil => cases f.take [v] draft <;> simp
  | cons w vs =>
    rw [take_two, take_one]
    split
    · rfl
    cases hv : f.view v with
    | none => rfl
    | some c => cases vs <;> simp [take_one, f.given hv]

end FieldView

/-! ## Fields with slots of their own -/

section Slots

variable {α β δ : Type}

/-- What the one member of a name stands for, if there is one; two are refused. -/
def soleMember (view : Value → Option α) : List Value → Option (Option α)
  | [] => some none
  | [v] => (view v).map some
  | _ :: _ :: _ => none

/-- What an optional member stands for; null is the same as no member. -/
def optionalMember (view : Value → Option α) (vs : List Value) : Option (Option α) :=
  (soleMember (Value.optionally view) vs).map Option.join

/-- An optional member is the sole one of its name, or is left out. -/
theorem optionalMember_bind {β : Type} (view : Value → Option α) (vs : List Value)
    (f : Option α → Option β) :
    (optionalMember view vs).bind f =
      (soleMember (Value.optionally view) vs).bind fun found => f found.join := by
  rw [optionalMember, Option.bind_map]
  rfl

/-- What a required member stands for. -/
def requiredMember (view : Value → Option α) : List Value → Option α
  | [v] => view v
  | _ => none

/-- A member is required exactly when having none is refused too. -/
theorem requiredMember_eq (view : Value → Option α) (vs : List Value) :
    requiredMember view vs = (soleMember view vs).join := by
  rcases vs with _ | ⟨v, _ | ⟨w, vs⟩⟩
  · rfl
  · cases h : view v <;> simp [requiredMember, soleMember, h]
  · rfl

/-- An optional member is left out when it is absent or null. -/
theorem optionalMember_eq_some_none_iff {view : Value → Option α} {vs : List Value} :
    optionalMember view vs = some none ↔ vs = [] ∨ vs = [.null] := by
  rcases vs with _ | ⟨v, _ | ⟨w, vs⟩⟩
  · simp [optionalMember, soleMember]
  · cases v <;> simp [optionalMember, soleMember, Value.optionally]
  · simp [optionalMember, soleMember]

/-- An optional member is present when it is given once, not as null. -/
theorem optionalMember_eq_some_some_iff {view : Value → Option α} {vs : List Value} {a : α} :
    optionalMember view vs = some (some a) ↔ ∃ v, vs = [v] ∧ v ≠ .null ∧ view v = some a := by
  rcases vs with _ | ⟨v, _ | ⟨w, vs⟩⟩
  · simp [optionalMember, soleMember]
  · cases v <;> simp [optionalMember, soleMember, Value.optionally]
  · simp [optionalMember, soleMember]

namespace FieldView

/-- The view of a field that has a slot of its own. -/
def ofSlot (name : String) (optional : Bool) {reader : Nat → Reader α} {view : Value → Option α}
    (slot : δ → Option α) (set : Option α → δ → δ) (h : Follows reader view)
    (hslot : ∀ a draft, slot (set (some a) draft) = some a) : FieldView δ where
  field := .ofSlot name optional reader slot fun a => set (some a)
  view v := (view v).map fun a => set (some a)
  follows := h.map fun a => set (some a)
  given hview draft := by
    obtain ⟨a, -, rfl⟩ := Option.map_eq_some_iff.mp hview
    simp [Field.ofSlot, hslot]

variable {name name' : String} {optional optional' : Bool} {reader : Nat → Reader α}
  {view : Value → Option α} {slot : δ → Option α} {set : Option α → δ → δ}
  {h : Follows reader view} {hslot : ∀ a draft, slot (set (some a) draft) = some a}
  {reader' : Nat → Reader β} {view' : Value → Option β} {slot' : δ → Option β}
  {set' : Option β → δ → δ} {h' : Follows reader' view'}
  {hslot' : ∀ b draft, slot' (set' (some b) draft) = some b}

/-- An empty slot is set to what the one member of the name stands for. -/
theorem take_ofSlot {draft : δ} (hempty : slot draft = none) (hset : set none draft = draft)
    (vs : List Value) :
    (ofSlot name optional slot set h hslot).take vs draft =
      (soleMember view vs).map fun found => set found draft := by
  rcases vs with _ | ⟨v, _ | ⟨w, vs⟩⟩
  · simp [soleMember, hset]
  · cases hview : view v <;> simp [take_one, ofSlot, Field.ofSlot, hempty, soleMember, hview]
  · rfl

/-- Fields of different names with slots of their own are apart. -/
theorem apart_ofSlot (hname : name ≠ name')
    (hcomm : ∀ a b draft, set a (set' b draft) = set' b (set a draft))
    (hright : ∀ a draft, slot' (set a draft) = slot' draft)
    (hleft : ∀ b draft, slot (set' b draft) = slot draft) :
    (ofSlot name optional slot set h hslot).Apart
      (ofSlot name' optional' slot' set' h' hslot') where
  name_ne := hname
  comm hc hk draft := by
    obtain ⟨a, -, rfl⟩ := Option.map_eq_some_iff.mp hc
    obtain ⟨b, -, rfl⟩ := Option.map_eq_some_iff.mp hk
    exact hcomm _ _ draft
  given_right hc draft := by
    obtain ⟨a, -, rfl⟩ := Option.map_eq_some_iff.mp hc
    simp only [ofSlot, Field.ofSlot, hright]
  given_left hk draft := by
    obtain ⟨b, -, rfl⟩ := Option.map_eq_some_iff.mp hk
    simp only [ofSlot, Field.ofSlot, hleft]

end FieldView

end Slots

/-! ## Members by name -/

section Fields

variable {δ : Type}

/-- A draft after one member: the field of that name takes it, if there is one. -/
def takeMember (fields : List (FieldView δ)) (key : String) (v : Value) (draft : δ) : Option δ :=
  match fields.find? fun f => f.field.name = key with
  | none => some draft
  | some f => f.take [v] draft

/-- A draft after all members, one after the other as the text has them. -/
def takeMembers (fields : List (FieldView δ)) : List (String × Value) → δ → Option δ
  | [], draft => some draft
  | (key, v) :: rest, draft => (takeMember fields key v draft).bind (takeMembers fields rest)

/-- A draft after all fields, each with the members of its name. -/
def takeFields (members : List (String × Value)) : List (FieldView δ) → δ → Option δ
  | [], draft => some draft
  | f :: fields, draft =>
    (f.take (entries f.field.name members) draft).bind (takeFields members fields)

/-- Fields of which any two are apart. -/
abbrev Coherent (fields : List (FieldView δ)) : Prop :=
  fields.Pairwise FieldView.Apart

variable {f : FieldView δ} {fields : List (FieldView δ)}

/-- Without members every field stays as it is. -/
theorem takeFields_nil (fields : List (FieldView δ)) (draft : δ) :
    takeFields [] fields draft = some draft := by
  induction fields with
  | nil => rfl
  | cons f fields ih => simp [takeFields, entries, ih]

/-- The first field is filled with the sole member of its name, if there is one. -/
theorem takeFields_ofSlot {α : Type} {name : String} {optional : Bool} {reader : Nat → Reader α}
    {view : Value → Option α} {slot : δ → Option α} {set : Option α → δ → δ}
    {h : Follows reader view} {hslot : ∀ a draft, slot (set (some a) draft) = some a} {draft : δ}
    (hempty : slot draft = none) (hset : set none draft = draft)
    (members : List (String × Value)) :
    takeFields members (.ofSlot name optional slot set h hslot :: fields) draft =
      (soleMember view (entries name members)).bind fun found =>
        takeFields members fields (set found draft) := by
  rw [takeFields, FieldView.take_ofSlot hempty hset, Option.bind_map]
  rfl

/-- A member that is none of some fields is not seen by them. -/
theorem takeFields_cons_of_ne {key : String} (hne : ∀ g ∈ fields, g.field.name ≠ key) (v : Value)
    (members : List (String × Value)) (draft : δ) :
    takeFields ((key, v) :: members) fields draft = takeFields members fields draft := by
  induction fields generalizing draft with
  | nil => rfl
  | cons f fields ih =>
    obtain ⟨hf, hfields⟩ := List.forall_mem_cons.mp hne
    simp only [takeFields, entries, if_neg hf.symm]
    congr 1
    funext draft
    exact ih hfields draft

/-- Filling the first field does not interfere with members of the others. -/
theorem takeMember_comm (h : Coherent (f :: fields)) (key : String) (v : Value)
    (vs : List Value) (draft : δ) :
    (takeMember fields key v draft).bind (f.take vs) =
      (f.take vs draft).bind (takeMember fields key v) := by
  unfold takeMember
  cases hfind : fields.find? fun g => g.field.name = key with
  | none => cases htake : f.take vs draft <;> simp [htake]
  | some g =>
    have hapart := List.rel_of_pairwise_cons h (List.mem_of_find?_eq_some hfind)
    exact (FieldView.take_comm hapart vs [v] draft).symm

/-- Taking one more member first is the same as giving it to the field of its name. -/
theorem takeFields_cons (h : Coherent fields) (key : String) (v : Value)
    (members : List (String × Value)) (draft : δ) :
    takeFields ((key, v) :: members) fields draft =
      (takeMember fields key v draft).bind (takeFields members fields) := by
  induction fields generalizing draft with
  | nil => rfl
  | cons f fields ih =>
    by_cases hname : f.field.name = key
    · have hne : ∀ g ∈ fields, g.field.name ≠ key := fun g hg =>
        hname ▸ (List.rel_of_pairwise_cons h hg).name_ne.symm
      have hmember : takeMember (f :: fields) key v draft = f.take [v] draft := by
        simp [takeMember, hname]
      rw [takeFields, entries, if_pos hname.symm, hmember,
        FieldView.take_cons, Option.bind_assoc]
      congr 1
      funext draft
      congr 1
      funext draft
      exact takeFields_cons_of_ne hne v members draft
    · have hmember : takeMember (f :: fields) key v draft = takeMember fields key v draft := by
        simp [takeMember, hname]
      have hentries : entries f.field.name ((key, v) :: members) = entries f.field.name members :=
        if_neg (Ne.symm hname)
      calc takeFields ((key, v) :: members) (f :: fields) draft
          = (f.take (entries f.field.name members) draft).bind
              fun draft => (takeMember fields key v draft).bind (takeFields members fields) := by
            simp only [takeFields, hentries]
            congr 1
            funext draft
            exact ih h.of_cons draft
        _ = ((f.take (entries f.field.name members) draft).bind (takeMember fields key v)).bind
              (takeFields members fields) := (Option.bind_assoc _ _ _).symm
        _ = ((takeMember fields key v draft).bind (f.take (entries f.field.name members))).bind
              (takeFields members fields) := by rw [takeMember_comm h]
        _ = (takeMember (f :: fields) key v draft).bind (takeFields members (f :: fields)) := by
            rw [hmember, Option.bind_assoc]
            rfl

/-- The order in which the members stand does not count. -/
theorem takeMembers_eq_takeFields (h : Coherent fields) (members : List (String × Value))
    (draft : δ) : takeMembers fields members draft = takeFields members fields draft := by
  induction members generalizing draft with
  | nil => exact (takeFields_nil fields draft).symm
  | cons m members ih =>
    obtain ⟨key, v⟩ := m
    rw [takeFields_cons h, takeMembers]
    congr 1
    funext draft
    exact ih draft

end Fields

/-! ## Records -/

/-- The members of a tree that writes a record with fields of some names, as an object or by
position. -/
def recordMembers? (names : List String) : Value → Option (List (String × Value))
  | .object members => some members
  | .array items => if items.length ≤ names.length then some (names.zip items) else none
  | _ => none

/-- The members of an object have been gone through one by one: those that have one of some names
have been read, and all others have been passed over, whatever they hold. -/
inductive MembersPicked (names : List String) (depth : Nat) :
    Bool → List Char → List (String × Value) → List Char → Prop
  | done {first : Bool} {cs rest : List Char} (hnext : nextKey? first cs = .ok none)
      (hend : endOfObject cs = .ok rest) : MembersPicked names depth first cs [] rest
  | named {first : Bool} {cs behind front after rest : List Char} {key : String} {v : Value}
      {members : List (String × Value)} (hnext : nextKey? first cs = .ok (some (key, behind)))
      (hname : key ∈ names) (hcolon : skipColon behind = .ok front)
      (hread : readTree depth front = .ok (v, after))
      (hmembers : MembersPicked names depth false after members rest) :
      MembersPicked names depth first cs ((key, v) :: members) rest
  | other {first : Bool} {cs behind front after rest : List Char} {key : String}
      {members : List (String × Value)} (hnext : nextKey? first cs = .ok (some (key, behind)))
      (hname : key ∉ names) (hcolon : skipColon behind = .ok front)
      (hskip : skipValue front = .ok after)
      (hmembers : MembersPicked names depth false after members rest) :
      MembersPicked names depth first cs members rest

/-- A text begins with a record that has fields of some names: an object, of which the members with
these names count, or an array of as many items at most, which are the fields by position. -/
inductive RecordPicked (names : List String) :
    Nat → List Char → List (String × Value) → List Char → Prop
  | object {depth : Nat} {cs inner rest : List Char} {members : List (String × Value)}
      (hfront : skipBlank cs = '\x7b' :: inner)
      (hmembers : MembersPicked names depth true inner members rest) :
      RecordPicked names (depth + 1) cs members rest
  | positional {depth : Nat} {cs inner rest : List Char} {items : List Value}
      (hfront : skipBlank cs = '[' :: inner)
      (hitems : ItemsRead (readTree depth) true inner items rest)
      (hlength : items.length ≤ names.length) :
      RecordPicked names (depth + 1) cs (names.zip items) rest

/-- Where all members of an object have been read, those with some names can be picked. -/
theorem membersPicked_of_membersRead (names : List String) {depth : Nat} {first : Bool}
    {cs rest : List Char} {members : List (String × Value)}
    (h : MembersRead (readTree depth) first cs members rest) :
    MembersPicked names depth first cs (members.filter fun m => m.1 ∈ names) rest := by
  induction h with
  | done hnext hend => exact .done hnext hend
  | @more _ _ _ _ _ _ key v members hnext hcolon hread _ ih =>
    by_cases hname : key ∈ names
    · rw [List.filter_cons_of_pos (by simpa using hname)]
      exact .named hnext hname hcolon hread ih
    · rw [List.filter_cons_of_neg (by simpa using hname)]
      exact .other hnext hname hcolon (skipValue_of_readTree hread) ih

/-- The fields of a kind of record with what they make of trees. -/
structure RecordShape.Views {δ ρ : Type} (shape : RecordShape δ ρ) where
  fields : List (FieldView δ)
  fields_eq : shape.fields = fields.map FieldView.field
  coherent : Coherent fields
  blank : ∀ f ∈ fields, f.field.given shape.empty = false
  required : ∀ f ∈ fields, f.field.optional = false → ∀ draft, f.field.given draft = false →
    (shape.finish draft).toOption = none

namespace RecordShape.Views

variable {δ ρ : Type} {shape : RecordShape δ ρ} (views : shape.Views)

/-- The names of the fields in the order of the positional form. -/
def names : List String :=
  views.fields.map fun f => f.field.name

/-- The record that the members of an object write. -/
def ofMembers (members : List (String × Value)) : Option ρ :=
  (takeFields members views.fields shape.empty).bind fun draft => (shape.finish draft).toOption

/-- The record that a tree writes. -/
def view (tree : Value) : Option ρ :=
  (recordMembers? views.names tree).bind views.ofMembers

/-- A field is found where its view is found. -/
theorem field?_eq (key : String) :
    shape.field? key = (views.fields.find? fun f => f.field.name = key).map FieldView.field := by
  rw [RecordShape.field?, views.fields_eq, List.find?_map]
  rfl

/-! ### The object form -/

variable {depth : Nat} {cs rest : List Char}

/-- One member is read as the field of its name takes it; a member that is no field is passed
over. -/
theorem readMember_follows {key : String} {behind front after : List Char} {v : Value}
    (hcolon : skipColon behind = .ok front) (hread : readTree depth front = .ok (v, after))
    (draft : δ) :
    (shape.readMember depth key draft behind).toOption =
      (takeMember views.fields key v draft).map fun draft => (draft, after) := by
  unfold readMember takeMember
  rw [views.field?_eq]
  cases hfind : views.fields.find? fun f => f.field.name = key with
  | none =>
    simp only [Option.map_none, hcolon, skipValue_of_readTree hread, bind, Except.bind]
    rfl
  | some f =>
    have hfield := f.follows depth front after v hread
    simp only [Option.map_some, FieldView.take_one]
    cases hgiven : f.field.given draft with
    | true => rfl
    | false =>
      simp [hcolon, hfield]
      rfl

/-- No view is found for a name exactly when no field has it. -/
theorem find?_eq_none_iff {key : String} :
    (views.fields.find? fun f => f.field.name = key) = none ↔ key ∉ views.names := by
  simp [names]

/-- A member that is no field is passed over, whatever it holds. -/
theorem readMember_of_other (depth : Nat) {key : String} {behind front after : List Char}
    (hname : key ∉ views.names) (hcolon : skipColon behind = .ok front)
    (hskip : skipValue front = .ok after) (draft : δ) :
    shape.readMember depth key draft behind = .ok (draft, after) := by
  have hfind := views.find?_eq_none_iff.mpr hname
  unfold readMember
  rw [views.field?_eq, hfind]
  simp only [Option.map_none, hcolon, hskip, bind, Except.bind, pure, Except.pure]

/-- The members of an object that are fields are taken one after the other. -/
theorem readMembers_follows {first : Bool} {members : List (String × Value)}
    (h : MembersPicked views.names depth first cs members rest) {count : Nat}
    (hcount : cs.length < count) (draft : δ) :
    ((shape.readMembers depth count first draft cs).toOption.bind fun read =>
        (endOfObject read.2).toOption.map fun cs => (read.1, cs)) =
      (takeMembers views.fields members draft).map fun draft => (draft, rest) := by
  induction h generalizing count draft with
  | @done first cs rest hnext hend =>
    obtain ⟨count, rfl⟩ : ∃ k, count = k + 1 := ⟨count - 1, by omega⟩
    simp [readMembers, hnext, hend, takeMembers, pure, Except.pure]
  | @named first cs behind front after rest key v members hnext hname hcolon hread _ ih =>
    obtain ⟨count, rfl⟩ : ∃ k, count = k + 1 := ⟨count - 1, by omega⟩
    have hmember : (shape.readMember depth key draft behind).toOption = _ :=
      views.readMember_follows hcolon hread draft
    have hfront := length_front_lt hnext hcolon
    have hafter := (passed_of_readTree hread).shorter
    simp only [readMembers, takeMembers, hnext, bind, Except.bind]
    cases htaken : takeMember views.fields key v draft with
    | none =>
      rw [htaken] at hmember
      cases hread : shape.readMember depth key draft behind <;> simp_all
    | some taken =>
      rw [htaken] at hmember
      have hok : shape.readMember depth key draft behind = .ok (taken, after) := by
        cases hread : shape.readMember depth key draft behind <;> simp_all
      simp only [hok]
      exact ih (by omega) taken
  | @other first cs behind front after rest key members hnext hname hcolon hskip _ ih =>
    obtain ⟨count, rfl⟩ : ∃ k, count = k + 1 := ⟨count - 1, by omega⟩
    have hfront := length_front_lt hnext hcolon
    have hafter := length_skipValue_lt hskip
    have hmember := views.readMember_of_other depth hname hcolon hskip draft
    simp only [readMembers, hnext, bind, Except.bind, hmember]
    exact ih (by omega) draft

/-- Members that are no fields do not count. -/
theorem takeMembers_filter (members : List (String × Value)) (draft : δ) :
    takeMembers views.fields (members.filter fun m => m.1 ∈ views.names) draft =
      takeMembers views.fields members draft := by
  induction members generalizing draft with
  | nil => rfl
  | cons m members ih =>
    obtain ⟨key, v⟩ := m
    by_cases hname : key ∈ views.names
    · rw [List.filter_cons_of_pos (by simpa using hname), takeMembers, takeMembers]
      congr 1
      funext draft
      exact ih draft
    · have hmember : takeMember views.fields key v draft = some draft := by
        rw [takeMember, views.find?_eq_none_iff.mpr hname]
      rw [List.filter_cons_of_neg (by simpa using hname), takeMembers, hmember, ih]
      rfl

/-- Members of other names do not count. -/
theorem ofMembers_filter (members : List (String × Value)) :
    views.ofMembers (members.filter fun m => m.1 ∈ views.names) = views.ofMembers members := by
  simp only [ofMembers, ← takeMembers_eq_takeFields views.coherent, takeMembers_filter]

/-- Whether a draft amounts to a record is found out before the bracket or brace is closed, which
is only a matter of which refusal comes first. -/
theorem finish_before_end (shape : RecordShape δ ρ) {read : Option (δ × List Char)}
    {drafts : Option δ} {close : List Char → Except DecodeError (List Char)}
    (h : (read.bind fun r => (close r.2).toOption.map fun cs => (r.1, cs)) =
      drafts.map fun draft => (draft, rest)) :
    (read.bind fun r => (shape.finish r.1).toOption.bind fun record =>
        (close r.2).toOption.map fun cs => (record, cs)) =
      (drafts.bind fun draft => (shape.finish draft).toOption).map
        fun record => (record, rest) := by
  cases read with
  | none =>
    have hnone : drafts = none := by simpa using h.symm
    rw [hnone]
    rfl
  | some r =>
    cases hclose : (close r.2).toOption with
    | none =>
      have hnone : drafts = none := by simpa [hclose] using h.symm
      cases hfinish : (shape.finish r.1).toOption <;> simp [hclose, hnone, hfinish]
    | some cs =>
      have hsome : drafts = some r.1 ∧ cs = rest := by
        cases drafts <;> simp_all
      obtain ⟨rfl, rfl⟩ := hsome
      cases hfinish : (shape.finish r.1).toOption <;> simp [hclose, hfinish]

/-! ### The positional form -/

/-- A draft after the items of the positional form. -/
def takePositions : List (FieldView δ) → List Value → δ → Option δ
  | [], [], draft => some draft
  | [], _ :: _, _ => none
  | f :: fields, [], draft => if f.field.optional then takePositions fields [] draft else none
  | f :: fields, v :: items, draft =>
    (f.view v).bind fun complete => takePositions fields items (complete draft)

/-- Items in front of the closing bracket keep an array open. -/
theorem endOfArray_of_nextItem? {first : Bool} {front : List Char}
    (h : nextItem? first cs = .ok (some front)) : (endOfArray cs).toOption = none := by
  unfold endOfArray
  cases first with
  | true =>
    obtain ⟨-, c, inner, hfront, hbracket⟩ := nextItem?_first h
    rw [hfront]
    split
    · rfl
    next heq => exact absurd (List.cons.inj heq).1 hbracket
    · split <;> rfl
    · rfl
  | false =>
    obtain ⟨inner, hfront, -⟩ := nextItem?_later h
    simp only [hfront]
    split <;> rfl

/-- What is read by position follows the items in order. -/
theorem readPositions_follows (shape : RecordShape δ ρ) (fields : List (FieldView δ))
    (index : Nat) {items : List Value}
    (h : ItemsRead (readTree depth) (index == 0) cs items rest) (draft : δ) :
    ((shape.readPositions depth (fields.map FieldView.field) index draft cs).toOption.bind
        fun read => (endOfArray read.2).toOption.map fun cs => (read.1, cs)) =
      (takePositions fields items draft).map fun draft => (draft, rest) := by
  induction fields generalizing index items cs draft with
  | nil =>
    simp only [List.map_nil, readPositions, toOption_ok, Option.bind_some]
    cases h with
    | done hnext hend => simp [hend, takePositions]
    | more hnext hread hitems => simp [endOfArray_of_nextItem? hnext, takePositions]
  | cons f fields ih =>
    cases h with
    | done hnext hend =>
      simp only [List.map_cons, readPositions, hnext, bind, Except.bind, takePositions]
      cases f.field.optional with
      | true => exact ih index (.done hnext hend) draft
      | false => rfl
    | @more _ _ front after _ v items hnext hread hitems =>
      have hfield := f.follows depth front after v hread
      simp only [List.map_cons, readPositions, hnext, bind, Except.bind, takePositions]
      cases hview : f.view v with
      | none =>
        rw [hview] at hfield
        cases hcomplete : f.field.read depth front <;> simp_all
      | some complete =>
        rw [hview] at hfield
        have hok : f.field.read depth front = .ok (complete, after) := by
          cases hcomplete : f.field.read depth front <;> simp_all
        simp only [hok, Option.bind_some]
        exact ih (index + 1) hitems (complete draft)

/-- Nothing stands under a name that no member has. -/
theorem entries_eq_nil {key : String} {members : List (String × Value)}
    (h : ∀ m ∈ members, m.1 ≠ key) : entries key members = [] := by
  induction members with
  | nil => rfl
  | cons m members ih =>
    obtain ⟨hm, hmembers⟩ := List.forall_mem_cons.mp h
    rw [entries, if_neg hm, ih hmembers]

/-- The positional form is the object of the fields in order, since fields that are left out at the
end and are not optional are missed in both. -/
theorem takePositions_finish {fields : List (FieldView δ)} (hcoherent : Coherent fields)
    (hrequired : ∀ f ∈ fields, f.field.optional = false → ∀ draft, f.field.given draft = false →
      (shape.finish draft).toOption = none)
    (items : List Value) (draft : δ) (hblank : ∀ f ∈ fields, f.field.given draft = false) :
    ((takePositions fields items draft).bind fun draft => (shape.finish draft).toOption) =
      if items.length ≤ fields.length then
        (takeFields ((fields.map fun f => f.field.name).zip items) fields draft).bind
          fun draft => (shape.finish draft).toOption
      else none := by
  induction fields generalizing items draft with
  | nil => cases items <;> simp [takePositions, takeFields]
  | cons f fields ih =>
    obtain ⟨hf, hfields⟩ := List.forall_mem_cons.mp hblank
    have htail := ih hcoherent.of_cons fun g hg => hrequired g (List.mem_cons_of_mem f hg)
    cases items with
    | nil =>
      simp only [takePositions, List.zip_nil_right, takeFields_nil]
      cases hoptional : f.field.optional with
      | true => simpa [takeFields_nil] using htail [] draft hfields
      | false => simpa using (hrequired f List.mem_cons_self hoptional draft hf).symm
    | cons v items =>
      have hne : ∀ g ∈ fields, g.field.name ≠ f.field.name :=
        fun g hg => (List.rel_of_pairwise_cons hcoherent hg).name_ne.symm
      have hothers : ∀ m ∈ (fields.map fun f => f.field.name).zip items, m.1 ≠ f.field.name := by
        intro m hm
        obtain ⟨g, hg, hname⟩ := List.mem_map.mp (List.of_mem_zip hm).1
        exact hname ▸ hne g hg
      simp only [takePositions, List.map_cons, List.zip_cons_cons, takeFields, entries, if_true,
        entries_eq_nil hothers, FieldView.take_one, hf]
      cases hview : f.view v with
      | none => simp
      | some complete =>
        have hkept : ∀ g ∈ fields, g.field.given (complete draft) = false := by
          intro g hg
          rw [(List.rel_of_pairwise_cons hcoherent hg).given_right hview]
          exact hfields g hg
        have hseen : takeFields ((f.field.name, v) :: (fields.map fun f => f.field.name).zip items)
            fields = takeFields ((fields.map fun f => f.field.name).zip items) fields :=
          funext fun draft => takeFields_cons_of_ne hne v _ draft
        simpa [hseen] using htail items (complete draft) hkept

/-! ### Both forms -/

/-- The reader of a record looks at the members by field name only, or at the items of the
positional form as if they had the names of the fields. -/
theorem read_of_recordPicked {members : List (String × Value)}
    (h : RecordPicked views.names depth cs members rest) :
    (shape.read depth cs).toOption =
      (views.ofMembers members).map fun record => (record, rest) := by
  cases h with
  | @object depth _ inner _ _ hfront hmembers =>
    have htaken := finish_before_end shape
      (views.readMembers_follows hmembers (Nat.lt_succ_self _) shape.empty)
    rw [takeMembers_eq_takeFields views.coherent] at htaken
    simp only [RecordShape.read, hfront]
    simpa [ofMembers] using htaken
  | @positional depth _ inner _ items hfront hitems hlength =>
    have hfew : items.length ≤ views.fields.length := by simpa [names] using hlength
    have hpositions := finish_before_end shape
      (readPositions_follows shape views.fields 0 hitems shape.empty)
    rw [takePositions_finish views.coherent views.required items shape.empty views.blank,
      ← views.fields_eq, if_pos hfew] at hpositions
    simp only [RecordShape.read, hfront]
    simpa [ofMembers, names] using hpositions

/-- An array with more items than there are fields is no record. -/
theorem read_of_surplus {inner : List Char} {items : List Value}
    (hfront : skipBlank cs = '[' :: inner)
    (hitems : ItemsRead (readTree depth) true inner items rest)
    (hlength : views.names.length < items.length) :
    (shape.read (depth + 1) cs).toOption = none := by
  have hmany : ¬ items.length ≤ views.fields.length := by simpa [names] using hlength
  have hpositions := finish_before_end shape
    (readPositions_follows shape views.fields 0 hitems shape.empty)
  rw [takePositions_finish views.coherent views.required items shape.empty views.blank,
    ← views.fields_eq, if_neg hmany] at hpositions
  simp only [RecordShape.read, hfront]
  simpa using hpositions

/-- A record is read as its view of the tree. -/
theorem follows : Follows shape.read views.view := by
  intro depth cs rest tree htree
  have hread := treeRead_of_readTree htree
  cases hread with
  | @array depth _ inner _ items hfront hitems =>
    by_cases hlength : items.length ≤ views.names.length
    · have hview : views.view (.array items) = views.ofMembers (views.names.zip items) := by
        simp only [view, recordMembers?, if_pos hlength, Option.bind_some]
      rw [hview]
      exact views.read_of_recordPicked (.positional hfront hitems hlength)
    · have hview : views.view (.array items) = none := by
        simp only [view, recordMembers?, if_neg hlength, Option.bind_none]
      rw [hview]
      exact views.read_of_surplus hfront hitems (Nat.lt_of_not_le hlength)
  | @object depth _ inner _ members hfront hmembers =>
    have hpicked := membersPicked_of_membersRead views.names hmembers
    have hview : views.view (.object members) = views.ofMembers members := rfl
    rw [hview, ← views.ofMembers_filter]
    exact views.read_of_recordPicked (.object hfront hpicked)
  | scalar harray hobject hscalar =>
    have hview : views.view tree = none := by
      generalize skipBlank cs = front at hscalar
      cases hscalar with
      | @negative _ _ n hread => cases n <;> rfl
      | @positive _ _ _ n hdigit hread => cases n <;> rfl
      | _ => rfl
    have hrefused : (shape.read depth cs).toOption = none := by
      unfold RecordShape.read
      split
      · rfl
      next inner hfront => exact absurd hfront (harray inner)
      next inner hfront => exact absurd hfront (hobject inner)
      · exact toOption_refuseValue _ _
    rw [hrefused, hview]
    rfl

end RecordShape.Views

end FailoverControl.Json
