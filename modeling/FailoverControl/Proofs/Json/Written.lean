import FailoverControl.Proofs.Json.Records

/-!
# Texts that write a record

A text writes a record when the fields of the record can be picked out of it. The members that are
no fields need not have trees for that: they may be nested deeper than a value may be, or hold
numerals that are out of range. So what a record has been read from can be said of texts that have
no tree themselves.

The main statements: a text that writes some members is read as the record of these members
(`RecordShape.Views.parse_of_writes`), and the fields can be picked out of every text that a record
has been read from, as long as what the fields were read from has trees (`exists_writes`).
-/

set_option autoImplicit false

namespace FailoverControl.Json

/-- A whole text writes the members of a record with fields of some names. -/
def Writes (names : List String) (text : String) (members : List (String × Value)) : Prop :=
  ∃ rest, RecordPicked names maxDepth text.toList members rest ∧ skipBlank rest = []

/-! ## Reading what is written -/

section Reading

variable {α : Type}

/-- A text is read as a whole when only blanks stand behind what is read. -/
theorem readAll_eq_ok_iff {reader : Reader α} {text : String} {a : α} :
    readAll reader text = .ok a ↔
      ∃ rest, reader text.toList = .ok (a, rest) ∧ skipBlank rest = [] := by
  unfold readAll
  cases hread : reader text.toList with
  | error e => simp
  | ok found =>
    obtain ⟨b, left⟩ := found
    cases hend : skipBlank left <;> simp [hend]

/-- What is there is the result. -/
theorem toOption_eq_some_iff {ε : Type} {x : Except ε α} {a : α} :
    x.toOption = some a ↔ x = .ok a := by
  cases x <;> simp

/-- A text that writes members is read as the record that they make. -/
theorem RecordShape.Views.parse_of_writes {δ ρ : Type} {shape : RecordShape δ ρ}
    (views : shape.Views) {text : String} {members : List (String × Value)}
    (h : Writes views.names text members) {record : ρ} :
    shape.parse text = .ok record ↔ views.ofMembers members = some record := by
  obtain ⟨rest, hpicked, hend⟩ := h
  have hread := views.read_of_recordPicked hpicked
  rw [RecordShape.parse, readAll_eq_ok_iff]
  constructor
  · rintro ⟨rest', hok, -⟩
    rw [hok, toOption_ok] at hread
    obtain ⟨record', hrecord, hsame⟩ := Option.map_eq_some_iff.mp hread.symm
    rw [hrecord, (Prod.mk.inj hsame).1]
  · intro hrecord
    rw [hrecord, Option.map_some, toOption_eq_some_iff] at hread
    exact ⟨rest, hread, hend⟩

end Reading

/-! ## Readers that read trees -/

/-- Whatever a reader reads is a tree. -/
def ReadsTrees {α : Type} (reader : Nat → Reader α) : Prop :=
  ∀ {depth : Nat} {cs rest : List Char} {a : α}, reader depth cs = .ok (a, rest) →
    ∃ tree, readTree depth cs = .ok (tree, rest)

section Readers

variable {α : Type} {reader : Nat → Reader α} {depth : Nat} {cs rest : List Char}

/-- Whatever is read as a value is a tree. -/
theorem readsTrees_readValue : ReadsTrees readValue := by
  intro depth cs rest v h
  rw [readValue_eq_settled, Reader.mapped] at h
  cases htree : readTree depth cs with
  | error e => simp [htree, Except.map] at h
  | ok found =>
    rw [htree] at h
    obtain ⟨-, rfl⟩ := Prod.mk.inj (Except.ok.inj h)
    exact ⟨found.1, rfl⟩

/-- A scalar in front of a text is a tree there. -/
theorem readTree_of_readScalar {c : Char} {inner : List Char} {v : Value}
    (hfront : skipBlank cs = c :: inner) (harray : c ≠ '[') (hobject : c ≠ '\x7b')
    (h : readScalar (c :: inner) = .ok (v, rest)) : readTree depth cs = .ok (v, rest) := by
  have hnoArray : ∀ left, skipBlank cs ≠ '[' :: left := by
    intro left heq
    exact harray (List.cons.inj (hfront.symm.trans heq)).1
  have hnoObject : ∀ left, skipBlank cs ≠ '\x7b' :: left := by
    intro left heq
    exact hobject (List.cons.inj (hfront.symm.trans heq)).1
  rw [readTree_of_scalar depth hnoArray hnoObject, hfront, h]

/-- Whatever is read as a bounded integer is a tree. -/
theorem readsTrees_readIntegerIn (lower upper : Int) (expected : String) :
    ReadsTrees fun _ => readIntegerIn lower upper expected := by
  intro depth cs rest n h
  change readIntegerIn lower upper expected cs = .ok (n, rest) at h
  unfold readIntegerIn at h
  split at h
  · simp at h
  next c inner hfront =>
    split at h
    next hnumeral =>
      have harray : c ≠ '[' := by
        rintro rfl
        simp at hnumeral
      have hobject : c ≠ '\x7b' := by
        rintro rfl
        simp at hnumeral
      split at h
      · simp at h
      next m left hscalar =>
        split at h
        · obtain ⟨-, rfl⟩ := Prod.mk.inj (Except.ok.inj h)
          exact ⟨_, readTree_of_readScalar hfront harray hobject hscalar⟩
        · simp at h
      · simp at h
    · have hrefused : Except.toOption (Except.ok (n, rest)) = none :=
        h ▸ toOption_refuseValue expected (c :: inner)
      cases hrefused

/-- Whatever is read as an unsigned number of 64 bits is a tree. -/
theorem readsTrees_readUInt64 : ReadsTrees fun _ => readUInt64 := by
  intro depth cs rest n h
  change readUInt64 cs = .ok (n, rest) at h
  unfold readUInt64 at h
  cases hread : readIntegerIn 0 18446744073709551615 "u64" cs with
  | error e => simp [hread, Except.map] at h
  | ok found =>
    rw [hread] at h
    obtain ⟨-, rfl⟩ := Prod.mk.inj (Except.ok.inj h)
    exact readsTrees_readIntegerIn _ _ _ hread

/-- Whatever is read as a text is a tree. -/
theorem readsTrees_readText : ReadsTrees fun _ => readText := by
  intro depth cs rest s h
  change readText cs = .ok (s, rest) at h
  unfold readText at h
  split at h
  · simp at h
  next inner hfront =>
    refine ⟨.string s, readTree_of_readScalar hfront (by decide) (by decide) ?_⟩
    simp only [readScalar, h, Except.map]
  next front _ _ =>
    have hrefused : Except.toOption (Except.ok (s, rest)) = none :=
      h ▸ toOption_refuseValue "a string" (skipBlank cs)
    cases hrefused

/-- Where nothing is read, null is. -/
theorem readTree_of_readOptional_none {reader : Reader α}
    (h : readOptional reader cs = .ok (none, rest)) : readTree depth cs = .ok (.null, rest) := by
  unfold readOptional at h
  split at h
  next inner hfront =>
    refine readTree_of_readScalar hfront (by decide) (by decide) ?_
    cases hword : skipWord ['u', 'l', 'l'] inner with
    | error e => simp [hword, Except.map] at h
    | ok left =>
      rw [hword] at h
      obtain ⟨-, rfl⟩ := Prod.mk.inj (Except.ok.inj h)
      simp only [readScalar, hword, Except.map]
  · obtain ⟨a, hnone, -⟩ := exists_of_map_eq_ok h
    simp at hnone

/-- Null and whatever else is read as an optional value are trees. -/
theorem ReadsTrees.optional (h : ReadsTrees reader) :
    ReadsTrees fun depth => readOptional (reader depth) := by
  intro depth cs rest found hread
  change readOptional (reader depth) cs = .ok (found, rest) at hread
  cases found with
  | none => exact ⟨.null, readTree_of_readOptional_none hread⟩
  | some a =>
    unfold readOptional at hread
    split at hread
    next inner hfront =>
      cases hword : skipWord ['u', 'l', 'l'] inner <;> simp [hword, Except.map] at hread
    · obtain ⟨_, -, hfound⟩ := exists_of_map_eq_ok hread
      obtain ⟨tree, htree⟩ := h hfound
      exact ⟨tree, by rw [← htree, readTree_skipBlank]⟩

end Readers

/-! ## Picking the fields out of what has been read -/

section Picking

variable {δ ρ : Type} {shape : RecordShape δ ρ} {Sound : δ → Prop} {depth : Nat}
  {cs after rest : List Char}

/-- A field whose completion leaves a draft sound has been read from a tree, and the draft has been
sound before. -/
def Field.TreesWhile (Sound : δ → Prop) (f : Field δ) : Prop :=
  ∀ (depth : Nat) (cs rest : List Char) (complete : δ → δ) (draft : δ), f.given draft = false →
    f.read depth cs = .ok (complete, rest) → Sound (complete draft) →
      Sound draft ∧ ∃ tree, readTree depth cs = .ok (tree, rest)

/-- Completing a draft by one field leaves another one as it is. -/
def Field.Spares (f g : Field δ) : Prop :=
  ∀ (depth : Nat) (cs rest : List Char) (complete : δ → δ), f.read depth cs = .ok (complete, rest) →
    ∀ draft, g.given (complete draft) = g.given draft

section Slots

variable {α β : Type} {name name' : String} {optional optional' : Bool} {reader : Nat → Reader α}
  {reader' : Nat → Reader β} {slot : δ → Option α} {slot' : δ → Option β} {fill : α → δ → δ}
  {fill' : β → δ → δ}

/-- A field that has a slot of its own fills it with what it reads. -/
theorem exists_fill {complete : δ → δ}
    (h : (Field.ofSlot name optional reader slot fill).read depth cs = .ok (complete, rest)) :
    ∃ a, complete = fill a ∧ reader depth cs = .ok (a, rest) := by
  change ((reader depth cs).map fun found => (fill found.1, found.2)) = .ok (complete, rest) at h
  cases hread : reader depth cs with
  | error e => simp [hread, Except.map] at h
  | ok found =>
    rw [hread] at h
    obtain ⟨rfl, rfl⟩ := Prod.mk.inj (Except.ok.inj h)
    exact ⟨found.1, rfl, rfl⟩

/-- Filling one slot leaves the other one as it is. -/
theorem spares_ofSlot (hkeeps : ∀ a draft, slot' (fill a draft) = slot' draft) :
    (Field.ofSlot name optional reader slot fill).Spares
      (Field.ofSlot name' optional' reader' slot' fill') := by
  intro depth cs rest complete hread draft
  obtain ⟨a, rfl, -⟩ := exists_fill hread
  simp only [Field.ofSlot, hkeeps]

/-- A field that reads trees only, and does not make a draft sound or unsound. -/
theorem treesWhile_ofSlot (hreader : ReadsTrees reader)
    (hsound : ∀ a draft, Sound (fill a draft) → Sound draft) :
    (Field.ofSlot name optional reader slot fill).TreesWhile Sound := by
  intro depth cs rest complete draft _ hread hfilled
  obtain ⟨a, rfl, hfound⟩ := exists_fill hread
  exact ⟨hsound a draft hfilled, hreader hfound⟩

end Slots

/-- No field is found for a name exactly when none has it. -/
theorem field?_eq_none_iff {key : String} :
    shape.field? key = none ↔ key ∉ shape.fields.map Field.name := by
  simp [RecordShape.field?]

/-- Members of a record that have been read stand in an object. -/
theorem exists_membersPicked (hfields : ∀ f ∈ shape.fields, f.TreesWhile Sound) {count : Nat}
    {first : Bool} {draft filled : δ}
    (h : shape.readMembers depth count first draft cs = .ok (filled, after))
    (hend : endOfObject after = .ok rest) (hsound : Sound filled) :
    Sound draft ∧
      ∃ members, MembersPicked (shape.fields.map Field.name) depth first cs members rest := by
  induction count generalizing first draft cs with
  | zero => simp [RecordShape.readMembers] at h
  | succ count ih =>
    simp only [RecordShape.readMembers, bind, Except.bind] at h
    rcases hnext : nextKey? first cs with e | _ | ⟨key, behind⟩
    · simp [hnext] at h
    · obtain ⟨rfl, rfl⟩ : draft = filled ∧ cs = after := by
        simpa [hnext, pure, Except.pure] using h
      exact ⟨hsound, [], .done hnext hend⟩
    rcases hmember : shape.readMember depth key draft behind with e | ⟨taken, left⟩
    · simp [hnext, hmember] at h
    simp only [hnext, hmember] at h
    obtain ⟨hbefore, members, hmembers⟩ := ih h
    simp only [RecordShape.readMember, bind, Except.bind] at hmember
    cases hfield : shape.field? key with
    | none =>
      rcases hcolon : skipColon behind with e | front
      · simp [hfield, hcolon] at hmember
      rcases hskip : skipValue front with e | passed
      · simp [hfield, hcolon, hskip] at hmember
      obtain ⟨rfl, rfl⟩ : draft = taken ∧ passed = left := by
        simpa [hfield, hcolon, hskip, pure, Except.pure] using hmember
      have hname := field?_eq_none_iff.mp hfield
      exact ⟨hbefore, members, .other hnext hname hcolon hskip hmembers⟩
    | some f =>
      have hmem : f ∈ shape.fields := List.mem_of_find?_eq_some hfield
      have hname : f.name = key := by simpa using List.find?_some hfield
      cases hgiven : f.given draft with
      | true => simp [hfield, hgiven, throw, throwThe, MonadExceptOf.throw] at hmember
      | false =>
        rcases hcolon : skipColon behind with e | front
        · simp [hfield, hgiven, hcolon] at hmember
        rcases hread : f.read depth front with e | ⟨complete, passed⟩
        · simp [hfield, hgiven, hcolon, hread] at hmember
        obtain ⟨rfl, rfl⟩ : complete draft = taken ∧ passed = left := by
          simpa [hfield, hgiven, hcolon, hread, pure, Except.pure] using hmember
        obtain ⟨hdraft, tree, htree⟩ := hfields f hmem _ _ _ _ _ hgiven hread hbefore
        have hpicked : key ∈ shape.fields.map Field.name := hname ▸ List.mem_map_of_mem hmem
        exact ⟨hdraft, (key, tree) :: members, .named hnext hpicked hcolon htree hmembers⟩

/-- Nothing more is found in front of the bracket that closes an array. -/
theorem nextItem?_of_endOfArray (first : Bool) (h : endOfArray cs = .ok rest) :
    nextItem? first cs = .ok none := by
  unfold endOfArray at h
  split at h
  · simp at h
  next inner hfront => simp only [nextItem?, hfront]
  · split at h <;> simp at h
  · simp at h

/-- Positions of a record that have been read stand in an array of trees. -/
theorem exists_itemsRead {fields : List (Field δ)} (hfields : ∀ f ∈ fields, f.TreesWhile Sound)
    (hapart : fields.Pairwise Field.Spares) {index : Nat} {draft filled : δ}
    (hblank : ∀ f ∈ fields, f.given draft = false)
    (h : shape.readPositions depth fields index draft cs = .ok (filled, after))
    (hend : endOfArray after = .ok rest) (hsound : Sound filled) :
    Sound draft ∧ ∃ items, ItemsRead (readTree depth) (index == 0) cs items rest ∧
      items.length ≤ fields.length := by
  induction fields generalizing index draft cs with
  | nil =>
    obtain ⟨rfl, rfl⟩ : draft = filled ∧ cs = after := by simpa [RecordShape.readPositions] using h
    exact ⟨hsound, [], .done (nextItem?_of_endOfArray _ hend) hend, Nat.le_refl 0⟩
  | cons f fields ih =>
    obtain ⟨hf, hothers⟩ := List.forall_mem_cons.mp hfields
    obtain ⟨hgiven, hlater⟩ := List.forall_mem_cons.mp hblank
    obtain ⟨hspares, hrest⟩ := List.pairwise_cons.mp hapart
    simp only [RecordShape.readPositions, bind, Except.bind] at h
    rcases hnext : nextItem? (index == 0) cs with e | _ | front
    · simp [hnext] at h
    · rw [hnext] at h
      simp only at h
      split at h
      · obtain ⟨hdraft, items, hitems, hlength⟩ := ih hothers hrest hlater h
        exact ⟨hdraft, items, hitems, Nat.le_succ_of_le hlength⟩
      · simp [throw, throwThe, MonadExceptOf.throw] at h
    · rcases hread : f.read depth front with e | ⟨complete, left⟩
      · simp [hnext, hread] at h
      simp only [hnext, hread] at h
      have hkept : ∀ g ∈ fields, g.given (complete draft) = false := by
        intro g hg
        rw [hspares g hg _ _ _ _ hread]
        exact hlater g hg
      obtain ⟨hcompleted, items, hitems, hlength⟩ := ih hothers hrest hkept h
      obtain ⟨hdraft, tree, htree⟩ := hf _ _ _ _ _ hgiven hread hcompleted
      exact ⟨hdraft, tree :: items, .more hnext htree hitems, Nat.succ_le_succ hlength⟩

/-- A record whose draft was sound has been read from a text that writes it. -/
theorem exists_writes (hfields : ∀ f ∈ shape.fields, f.TreesWhile Sound)
    (hapart : shape.fields.Pairwise Field.Spares)
    (hblank : ∀ f ∈ shape.fields, f.given shape.empty = false) {text : String} {record : ρ}
    (h : shape.parse text = .ok record)
    (hsound : ∀ draft, shape.finish draft = .ok record → Sound draft) :
    ∃ members, Writes (shape.fields.map Field.name) text members := by
  obtain ⟨rest, hread, hrest⟩ := readAll_eq_ok_iff.mp h
  obtain ⟨depth, hdepth⟩ : ∃ depth, maxDepth = depth + 1 := ⟨_, rfl⟩
  suffices hpicked : ∃ members,
      RecordPicked (shape.fields.map Field.name) (depth + 1) text.toList members rest by
    obtain ⟨members, hmembers⟩ := hpicked
    exact ⟨members, rest, by rwa [hdepth], hrest⟩
  rw [hdepth] at hread
  unfold RecordShape.read at hread
  split at hread
  · simp at hread
  next inner hfront =>
    simp only [bind, Except.bind] at hread
    rcases hpositions : shape.readPositions depth shape.fields 0 shape.empty inner with
      e | ⟨filled, after⟩
    · simp [hpositions] at hread
    rcases hfinish : shape.finish filled with e | found
    · simp [hpositions, hfinish] at hread
    rcases hend : endOfArray after with e | left
    · simp [hpositions, hfinish, hend] at hread
    obtain ⟨rfl, rfl⟩ : found = record ∧ left = rest := by
      simpa [hpositions, hfinish, hend, pure, Except.pure] using hread
    obtain ⟨-, items, hitems, hlength⟩ := exists_itemsRead hfields hapart hblank hpositions hend
      (hsound filled hfinish)
    exact ⟨_, .positional hfront hitems (by simpa using hlength)⟩
  next inner hfront =>
    simp only [bind, Except.bind] at hread
    rcases hmembers : shape.readMembers depth (inner.length + 1) true shape.empty inner with
      e | ⟨filled, after⟩
    · simp [hmembers] at hread
    rcases hfinish : shape.finish filled with e | found
    · simp [hmembers, hfinish] at hread
    rcases hend : endOfObject after with e | left
    · simp [hmembers, hfinish, hend] at hread
    obtain ⟨rfl, rfl⟩ : found = record ∧ left = rest := by
      simpa [hmembers, hfinish, hend, pure, Except.pure] using hread
    obtain ⟨-, members, hpicked⟩ := exists_membersPicked hfields hmembers hend
      (hsound filled hfinish)
    exact ⟨members, .object hfront hpicked⟩
  · have hrefused : Except.toOption (Except.ok (record, rest)) = none :=
      hread ▸ toOption_refuseValue shape.expected (skipBlank text.toList)
    cases hrefused

end Picking

end FailoverControl.Json
