import FailoverControl.Json.Record
import FailoverControl.Proofs.Json.Scalars
import FailoverControl.Proofs.Text.OneLine

/-!
# How refusals of JSON texts are worded

A refusal is worded on one line when the names that it mentions are, for what it shows of the text
itself is a number or quoted. The readers mention nothing but the kinds and fields that they expect,
so no text makes them fail on more than one line.

The main statements: `isLine_message` and `RecordShape.Mentions.parse`.
-/

set_option autoImplicit false

namespace FailoverControl.Json

open FailoverControl.Text (IsLine isLine_append_iff isLine_ofList)

/-! ## Wordings -/

/-- The name that a refusal mentions, if it mentions one. -/
def DecodeError.mentions : DecodeError → String
  | .typeMismatch _ expected => expected
  | .outOfRange _ expected => expected
  | .missingField name => name
  | .duplicateField name => name
  | .wrongLength _ expected => expected
  | _ => ""

/-- What is found in place of something else is described on one line. -/
theorem isLine_describe (found : Found) : IsLine found.describe := by
  cases found with
  | bool value => cases value <;> exact isLine_ofList (by decide)
  | integer value =>
    have hwording : IsLine ("integer `" ++ Decimal.signedText value ++ "`") := by
      rw [isLine_append_iff, isLine_append_iff]
      exact ⟨⟨isLine_ofList (by decide), Text.isLine_signedText value⟩, isLine_ofList (by decide)⟩
    exact hwording
  | float value =>
    have hwording : IsLine ("floating point `" ++ String.ofList value.text ++ "`") := by
      rw [isLine_append_iff, isLine_append_iff]
      exact ⟨⟨isLine_ofList (by decide), isLine_ofList
        (Text.not_mem_of_isNumeric fun _ => Decimal.isNumeric_of_mem_text)⟩,
        isLine_ofList (by decide)⟩
    exact hwording
  | string value =>
    have hwording : IsLine ("string " ++ Text.quoted value) := by
      rw [isLine_append_iff]
      exact ⟨isLine_ofList (by decide), Text.isLine_quoted value⟩
    exact hwording
  | _ => exact isLine_ofList (by decide)

/-- A refusal is worded on one line when the name that it mentions is. -/
theorem isLine_message (e : DecodeError) (h : IsLine e.mentions) : IsLine e.message := by
  cases e with
  | typeMismatch found expected =>
    have hwording : IsLine ("invalid type: " ++ found.describe ++ ", expected " ++ expected) := by
      rw [isLine_append_iff, isLine_append_iff, isLine_append_iff]
      exact ⟨⟨⟨isLine_ofList (by decide), isLine_describe found⟩, isLine_ofList (by decide)⟩, h⟩
    exact hwording
  | outOfRange n expected =>
    have hwording : IsLine ("invalid value: integer `" ++ Decimal.signedText n ++
        "`, expected " ++ expected) := by
      rw [isLine_append_iff, isLine_append_iff, isLine_append_iff]
      exact ⟨⟨⟨isLine_ofList (by decide), Text.isLine_signedText n⟩, isLine_ofList (by decide)⟩, h⟩
    exact hwording
  | missingField name =>
    have hwording : IsLine ("missing field `" ++ name ++ "`") := by
      rw [isLine_append_iff, isLine_append_iff]
      exact ⟨⟨isLine_ofList (by decide), h⟩, isLine_ofList (by decide)⟩
    exact hwording
  | duplicateField name =>
    have hwording : IsLine ("duplicate field `" ++ name ++ "`") := by
      rw [isLine_append_iff, isLine_append_iff]
      exact ⟨⟨isLine_ofList (by decide), h⟩, isLine_ofList (by decide)⟩
    exact hwording
  | wrongLength length expected =>
    have hwording : IsLine ("invalid length " ++ Decimal.text length ++ ", expected " ++
        expected) := by
      rw [isLine_append_iff, isLine_append_iff, isLine_append_iff]
      exact ⟨⟨⟨isLine_ofList (by decide), Text.isLine_text length⟩, isLine_ofList (by decide)⟩, h⟩
    exact hwording
  | _ => exact isLine_ofList (by decide)

/-! ## Readers that mention nothing -/

variable {α β : Type} {cs : List Char}

/-- Whatever fails mentions only names of one line. -/
def Plain (x : Except DecodeError α) : Prop :=
  ∀ e, x = .error e → IsLine e.mentions

/-- What does not fail mentions nothing. -/
theorem plain_ok (a : α) : Plain (.ok a : Except DecodeError α) := nofun

/-- A refusal is plain when the name that it mentions is of one line. -/
theorem plain_error {e : DecodeError} (h : IsLine e.mentions) :
    Plain (.error e : Except DecodeError α) := by
  rintro _ ⟨⟩
  exact h

/-- A refusal that mentions nothing. -/
theorem plain_silent {e : DecodeError} (h : e.mentions = "") :
    Plain (.error e : Except DecodeError α) :=
  plain_error (h ▸ Text.isLine_empty)

/-- Steps that are plain are plain one after the other. -/
theorem Plain.bind {x : Except DecodeError α} {f : α → Except DecodeError β} (hx : Plain x)
    (hf : ∀ a, Plain (f a)) : Plain (x >>= f) := by
  cases x with
  | error e => exact plain_error (hx e rfl)
  | ok a => exact hf a

/-- What is made of a plain reading is plain. -/
theorem Plain.map {x : Except DecodeError α} (hx : Plain x) (f : α → β) : Plain (x.map f) := by
  cases x with
  | error e => exact plain_error (hx e rfl)
  | ok a => exact plain_ok _

/-- A choice between plain readings is plain. -/
theorem plain_ite {p : Prop} [Decidable p] {x y : Except DecodeError α} (hx : Plain x)
    (hy : Plain y) : Plain (if p then x else y) := by
  split
  · exact hx
  · exact hy

/-- Passing over a word is plain. -/
theorem plain_skipWord (word : List Char) : Plain (skipWord word cs) := by
  fun_induction skipWord word cs with
  | case1 cs => exact plain_ok cs
  | case2 w ws => exact plain_silent rfl
  | case3 w ws cs ih => exact ih
  | case4 w ws c cs h => exact plain_silent rfl

/-- A float that is out of range is refused plainly. -/
theorem plain_floatNumeral (negative : Bool) (significand : Nat) (exponent : Int) :
    Plain (floatNumeral negative significand exponent) := by
  unfold floatNumeral
  split
  · exact plain_ok _
  · exact plain_silent rfl

/-- A whole numeral is refused plainly. -/
theorem plain_wholeNumeral (negative : Bool) (n : Nat) : Plain (wholeNumeral negative n) := by
  unfold wholeNumeral
  split
  · exact plain_ok _
  · split
    · exact plain_ok _
    · exact plain_floatNumeral _ _ _

/-- A refusal for want of digits. -/
theorem plain_noDigits : Plain
    (.error (if cs.isEmpty then .endInValue else .invalidNumber) : Except DecodeError α) := by
  split <;> exact plain_silent rfl

/-- An exponent is refused plainly. -/
theorem plain_readExponent (negative : Bool) (significand : Nat) (start : Int) :
    Plain (readExponent negative significand start cs) := by
  have hdigits (negativeExponent : Bool) (cs : List Char) :
      Plain (readExponentDigits negative significand start negativeExponent cs) := by
    unfold readExponentDigits
    refine plain_ite plain_noDigits (plain_ite ?_ ?_)
    · exact plain_ite (plain_silent rfl) (plain_ok _)
    · exact (plain_floatNumeral _ _ _).map _
  unfold readExponent
  split <;> exact hdigits _ _

/-- What follows a fraction is refused plainly. -/
theorem plain_readAfterFraction (negative : Bool) (significand : Nat) (exponent : Int) :
    Plain (readAfterFraction negative significand exponent cs) := by
  unfold readAfterFraction
  split
  · exact plain_readExponent _ _ _
  · exact plain_readExponent _ _ _
  · exact (plain_floatNumeral _ _ _).map _

/-- What follows a whole part is refused plainly. -/
theorem plain_readAfterWhole (negative : Bool) (significand dropped : Nat) :
    Plain (readAfterWhole negative significand dropped cs) := by
  unfold readAfterWhole
  split
  · unfold readFraction
    exact plain_ite plain_noDigits (plain_readAfterFraction _ _ _)
  · exact plain_readExponent _ _ _
  · exact plain_readExponent _ _ _
  · split
    · exact (plain_wholeNumeral _ _).map _
    · exact (plain_floatNumeral _ _ _).map _

/-- A numeral is refused plainly. -/
theorem plain_readNumeral (negative : Bool) : Plain (readNumeral negative cs) := by
  unfold readNumeral
  split
  · exact plain_silent rfl
  · split
    · exact plain_silent rfl
    · exact plain_readAfterWhole _ _ _
  · split
    · exact plain_readAfterWhole _ _ _
    · exact plain_silent rfl

/-- The reasons to refuse a string mention nothing. -/
theorem plain_refused {e : DecodeError} (h : e ∈ stringRefusals) :
    Plain (.error e : Except DecodeError α) := by
  have hsilent : ∀ e ∈ stringRefusals, e.mentions = "" := by decide
  exact plain_silent (hsilent e h)

/-- A string that is read is refused plainly. -/
theorem StringRead.plain {read : Except DecodeError (List Char × List Char)}
    (h : StringRead cs read) : Plain read := by
  cases h with
  | closed hcs hspells => exact plain_ok _
  | refused hrefusal => exact plain_refused hrefusal

/-- A string that is passed over is refused plainly. -/
theorem StringSkipped.plain {skipped : Except DecodeError (List Char)}
    (h : StringSkipped cs skipped) : Plain skipped := by
  cases h with
  | closed hcs hbody => exact plain_ok _
  | refused hrefusal => exact plain_refused hrefusal

/-- Reading a string is plain. -/
theorem plain_readString : Plain (readString cs) := (stringRead cs).plain.map _

/-- Passing over a numeral is plain. -/
theorem plain_skipNumeral : Plain (skipNumeral cs) := by
  have hdigits (cs : List Char) : Plain (skipExponentDigits cs) :=
    plain_ite (plain_ok _) (plain_silent rfl)
  have hexponent (cs : List Char) : Plain (skipOptionalExponent cs) := by
    unfold skipOptionalExponent skipExponent
    split
    · split <;> exact hdigits _
    · split <;> exact hdigits _
    · exact plain_ok _
  have hwhole (cs : List Char) : Plain (skipAfterWhole cs) := by
    unfold skipAfterWhole
    split
    · exact plain_ite (hexponent _) (plain_silent rfl)
    · exact hexponent _
  unfold skipNumeral
  split
  · exact plain_ite (plain_silent rfl) (hwhole _)
  · exact plain_ite (hwhole _) (plain_silent rfl)
  · exact plain_silent rfl

/-- Passing over a scalar is plain. -/
theorem plain_skipScalar : Plain (skipScalar cs) := by
  unfold skipScalar
  split
  · exact plain_silent rfl
  · exact plain_skipWord _
  · exact plain_skipWord _
  · exact plain_skipWord _
  · exact (stringSkipped _).plain
  · exact plain_skipNumeral
  · exact plain_ite plain_skipNumeral (plain_silent rfl)

/-- Reading a scalar is plain. -/
theorem plain_readScalar : Plain (readScalar cs) := by
  unfold readScalar
  split
  · exact plain_silent rfl
  · exact (plain_skipWord _).map _
  · exact (plain_skipWord _).map _
  · exact (plain_skipWord _).map _
  · exact plain_readString.map _
  · exact (plain_readNumeral _).map _
  · exact plain_ite ((plain_readNumeral _).map _) (plain_silent rfl)

/-! ## Brackets and commas -/

/-- Looking for a further item is plain. -/
theorem plain_nextItem? (first : Bool) : Plain (nextItem? first cs) := by
  unfold nextItem?
  split
  · exact plain_silent rfl
  · exact plain_ok _
  · refine plain_ite (plain_ok _) (plain_ite ?_ (plain_silent rfl))
    split
    · exact plain_silent rfl
    · exact plain_silent rfl
    · exact plain_ok _

/-- Looking for the end of an array is plain. -/
theorem plain_endOfArray : Plain (endOfArray cs) := by
  unfold endOfArray
  split
  · exact plain_silent rfl
  · exact plain_ok _
  · split <;> exact plain_silent rfl
  · exact plain_silent rfl

/-- Looking for a further member is plain. -/
theorem plain_nextKey? (first : Bool) : Plain (nextKey? first cs) := by
  unfold nextKey?
  split
  · exact plain_silent rfl
  · exact plain_ok _
  · refine plain_ite (plain_ite (plain_readString.map _) (plain_silent rfl))
      (plain_ite ?_ (plain_silent rfl))
    split
    · exact plain_silent rfl
    · exact plain_readString.map _
    · exact plain_silent rfl
    · exact plain_silent rfl

/-- Looking for the end of an object is plain. -/
theorem plain_endOfObject : Plain (endOfObject cs) := by
  unfold endOfObject
  split
  · exact plain_silent rfl
  · exact plain_ok _
  · exact plain_silent rfl
  · exact plain_silent rfl

/-- Looking for the colon behind a key is plain. -/
theorem plain_skipColon : Plain (skipColon cs) := by
  unfold skipColon
  split
  · exact plain_silent rfl
  · exact plain_ok _
  · exact plain_silent rfl

/-! ## Values -/

/-- Passing over items is plain when passing over each of them is. -/
theorem plain_skipItems {item : List Char → Except DecodeError (List Char)}
    (hitem : ∀ cs, Plain (item cs)) (count : Nat) : Plain (skipItems item count cs) := by
  induction count generalizing cs with
  | zero => exact plain_silent rfl
  | succ count ih =>
    refine (hitem cs).bind fun behind => ?_
    split
    · exact plain_silent rfl
    · exact plain_ok _
    · exact ih
    · exact plain_silent rfl

/-- Passing over members is plain when passing over their values is. -/
theorem plain_skipMembers {item : List Char → Except DecodeError (List Char)}
    (hitem : ∀ cs, Plain (item cs)) (count : Nat) : Plain (skipMembers item count cs) := by
  have hkey (cs : List Char) : Plain (skipKey cs) := by
    unfold skipKey
    split
    · exact plain_silent rfl
    · exact (stringSkipped _).plain.bind fun _ => plain_skipColon
    · exact plain_silent rfl
  induction count generalizing cs with
  | zero => exact plain_silent rfl
  | succ count ih =>
    refine (hkey cs).bind fun front => (hitem front).bind fun behind => ?_
    split
    · exact plain_silent rfl
    · exact plain_ok _
    · exact ih
    · exact plain_silent rfl

/-- Passing over a value of bounded length is plain. -/
theorem plain_skipWithin (size : Nat) : Plain (skipWithin size cs) := by
  induction size generalizing cs with
  | zero => exact plain_silent rfl
  | succ size ih =>
    unfold skipWithin
    split
    · split
      · exact plain_silent rfl
      · exact plain_ok _
      · exact plain_skipItems (fun _ => ih) size
    · split
      · exact plain_silent rfl
      · exact plain_ok _
      · exact plain_skipMembers (fun _ => ih) size
    · exact plain_skipScalar

/-- Reading an array is plain when reading its items is. -/
theorem plain_readArray {item : Reader α} (hitem : ∀ cs, Plain (item cs)) :
    Plain (readArray item cs) := by
  have hitems (count : Nat) (first : Bool) (cs : List Char) :
      Plain (readItems item count first cs) := by
    induction count generalizing first cs with
    | zero => exact plain_silent rfl
    | succ count ih =>
      refine (plain_nextItem? first).bind fun next => ?_
      cases next with
      | none => exact plain_ok _
      | some front =>
        exact (hitem front).bind fun _ => (ih false _).bind fun _ => plain_ok _
  exact (hitems _ _ _).bind fun _ => plain_endOfArray.bind fun _ => plain_ok _

/-- Reading an object is plain when reading its values is. -/
theorem plain_readObject {item : Reader α} (hitem : ∀ cs, Plain (item cs)) :
    Plain (readObject item cs) := by
  have hmembers (count : Nat) (first : Bool) (cs : List Char) :
      Plain (readMembers item count first cs) := by
    induction count generalizing first cs with
    | zero => exact plain_silent rfl
    | succ count ih =>
      refine (plain_nextKey? first).bind fun next => ?_
      cases next with
      | none => exact plain_ok _
      | some key =>
        exact plain_skipColon.bind fun _ => (hitem _).bind fun _ =>
          (ih false _).bind fun _ => plain_ok _
  exact (hmembers _ _ _).bind fun _ => plain_endOfObject.bind fun _ => plain_ok _

/-- Reading a value is plain. -/
theorem plain_readValue (depth : Nat) : Plain (readValue depth cs) := by
  induction depth generalizing cs with
  | zero =>
    unfold readValue
    split
    · exact plain_silent rfl
    · exact plain_silent rfl
    · exact plain_readScalar
  | succ depth ih =>
    unfold readValue
    split
    · exact (plain_readArray fun _ => ih).map _
    · exact (plain_readObject fun _ => ih).map _
    · exact plain_readScalar

/-- A text that goes on behind what is read is refused plainly. -/
theorem plain_readAll {reader : Reader α} (hreader : ∀ cs, Plain (reader cs)) (text : String) :
    Plain (readAll reader text) := by
  unfold readAll
  have hread := hreader text.toList
  split
  · next e heq => exact plain_error (hread e heq)
  · split
    · exact plain_ok _
    · exact plain_silent rfl

/-! ## Values of an expected kind -/

/-- A value that is not of the expected kind is refused plainly when the kind is of one line. -/
theorem plain_refuseValue {expected : String} (h : IsLine expected) :
    Plain (refuseValue expected cs : Except DecodeError α) := by
  unfold refuseValue
  split
  · exact plain_error h
  · exact plain_error h
  · split
    · next e heq => exact plain_error (plain_readScalar e heq)
    · exact plain_error h

/-- A bounded integer is refused plainly when its kind is of one line. -/
theorem plain_readIntegerIn (lower upper : Int) {expected : String} (h : IsLine expected) :
    Plain (readIntegerIn lower upper expected cs) := by
  unfold readIntegerIn
  split
  · exact plain_silent rfl
  · refine plain_ite ?_ (plain_refuseValue h)
    split
    · next e heq => exact plain_error (plain_readScalar e heq)
    · exact plain_ite (plain_ok _) (plain_error h)
    · exact plain_error h

/-- Reading a signed number of 64 bits is plain. -/
theorem plain_readInt64 : Plain (readInt64 cs) :=
  (plain_readIntegerIn _ _ (isLine_ofList (by decide))).map _

/-- Reading a signed number of 32 bits is plain. -/
theorem plain_readInt32 : Plain (readInt32 cs) :=
  (plain_readIntegerIn _ _ (isLine_ofList (by decide))).map _

/-- Reading an unsigned number of 64 bits is plain. -/
theorem plain_readUInt64 : Plain (readUInt64 cs) :=
  (plain_readIntegerIn _ _ (isLine_ofList (by decide))).map _

/-- Reading a text is plain. -/
theorem plain_readText : Plain (readText cs) := by
  unfold readText
  split
  · exact plain_silent rfl
  · exact plain_readString
  · exact plain_refuseValue (isLine_ofList (by decide))

/-- Reading a value that may be null is plain when reading the value is. -/
theorem plain_readOptional {reader : Reader α} (hreader : ∀ cs, Plain (reader cs)) :
    Plain (readOptional reader cs) := by
  unfold readOptional
  split
  · exact (plain_skipWord _).map _
  · exact (hreader _).map _

namespace Value

/-- A value is refused plainly when the expected kind is of one line. -/
theorem plain_refuse (v : Value) {expected : String} (h : IsLine expected) :
    Plain (v.refuse expected : Except DecodeError α) := plain_error h

/-- Taking a value for a boolean is plain. -/
theorem plain_asBool (v : Value) : Plain v.asBool := by
  unfold asBool
  split
  · exact plain_ok _
  · exact plain_refuse _ (isLine_ofList (by decide))

/-- Taking a value for a text is plain. -/
theorem plain_asText (v : Value) : Plain v.asText := by
  unfold asText
  split
  · exact plain_ok _
  · exact plain_refuse _ (isLine_ofList (by decide))

/-- Taking a value for a list of texts is plain. -/
theorem plain_asTexts (v : Value) : Plain v.asTexts := by
  unfold asTexts
  split
  · next items =>
    induction items with
    | nil => exact plain_ok _
    | cons item items ih =>
      rw [List.mapM_cons]
      exact (plain_asText item).bind fun _ => ih.bind fun _ => plain_ok _
  · exact plain_refuse _ (isLine_ofList (by decide))

end Value

/-! ## Records -/

/-- A field whose name is one line and whose reader mentions only such names. -/
structure Field.Mentions {δ : Type} (f : Field δ) : Prop where
  name : IsLine f.name
  read : ∀ depth cs, Plain (f.read depth cs)

/-- A field mentions its own name only. -/
theorem Field.mentions_ofSlot {δ : Type} {name : String} {optional : Bool}
    {reader : Nat → Reader α} {slot : δ → Option α} {fill : α → δ → δ} (hname : IsLine name)
    (hreader : ∀ depth cs, Plain (reader depth cs)) :
    (Field.ofSlot name optional reader slot fill).Mentions where
  name := hname
  read depth cs := (hreader depth cs).map _

namespace RecordShape

variable {δ ρ : Type} {shape : RecordShape δ ρ}

/-- A kind of record that mentions only names of one line: its own and those of its fields. -/
structure Mentions (shape : RecordShape δ ρ) : Prop where
  name : IsLine shape.name
  fields : ∀ f ∈ shape.fields, f.Mentions
  finish : ∀ draft, Plain (shape.finish draft)

/-- The members of a record are refused plainly. -/
theorem Mentions.readMembers (h : shape.Mentions) (depth count : Nat) (first : Bool) (draft : δ) :
    Plain (shape.readMembers depth count first draft cs) := by
  have hmember (key : String) (draft : δ) (cs : List Char) :
      Plain (shape.readMember depth key draft cs) := by
    unfold readMember
    split
    · exact plain_skipColon.bind fun _ => (plain_skipWithin _).bind fun _ => plain_ok _
    · next f heq =>
      have hf := List.mem_of_find?_eq_some heq
      refine plain_ite ?_ ?_
      · exact plain_error (h.fields f hf).name
      · exact plain_skipColon.bind fun _ => ((h.fields f hf).read depth _).bind fun _ => plain_ok _
  -- The induction is on the bound of the members that are left.
  induction count generalizing first draft cs with
  | zero => exact plain_silent rfl
  | succ count ih =>
    refine (plain_nextKey? first).bind fun next => ?_
    cases next with
    | none => exact plain_ok _
    | some key => exact (hmember _ _ _).bind fun _ => ih false _

/-- The kind of a record is of one line. -/
theorem Mentions.expected (h : shape.Mentions) : IsLine shape.expected :=
  isLine_append_iff.mpr ⟨isLine_ofList (by decide), h.name⟩

/-- The number of positions of a record is told on one line. -/
theorem Mentions.expectedLength (h : shape.Mentions) : IsLine shape.expectedLength := by
  unfold RecordShape.expectedLength
  rw [isLine_append_iff, isLine_append_iff, isLine_append_iff]
  refine ⟨⟨⟨h.expected, isLine_ofList (by decide)⟩, Text.isLine_text _⟩, ?_⟩
  split <;> exact isLine_ofList (by decide)

/-- A record by position is refused plainly. -/
theorem Mentions.readPositions (h : shape.Mentions) (depth : Nat) {fields : List (Field δ)}
    (hfields : fields ⊆ shape.fields) (index : Nat) (draft : δ) :
    Plain (shape.readPositions depth fields index draft cs) := by
  induction fields generalizing index draft cs with
  | nil => exact plain_ok _
  | cons f fields ih =>
    obtain ⟨hf, hrest⟩ := List.cons_subset.mp hfields
    have hlength : Plain (.error (.wrongLength index shape.expectedLength) :
        Except DecodeError (δ × List Char)) := plain_error h.expectedLength
    refine (plain_nextItem? _).bind fun next => ?_
    cases next with
    | none => exact plain_ite (ih hrest index draft) hlength
    | some cs => exact ((h.fields f hf).read depth cs).bind fun _ => ih hrest _ _

/-- A record is refused plainly. -/
theorem Mentions.read (h : shape.Mentions) (depth : Nat) : Plain (shape.read depth cs) := by
  unfold RecordShape.read
  split
  · exact plain_silent rfl
  · split
    · exact plain_silent rfl
    · exact (h.readPositions _ (List.Subset.refl _) _ _).bind fun drafted =>
        (h.finish drafted.1).bind fun _ => plain_endOfArray.bind fun _ => plain_ok _
  · split
    · exact plain_silent rfl
    · exact (h.readMembers _ _ _ _).bind fun drafted =>
        (h.finish drafted.1).bind fun _ => plain_endOfObject.bind fun _ => plain_ok _
  · exact plain_refuseValue h.expected

/-- A text that is no record of a kind is refused in one line. -/
theorem Mentions.parse (h : shape.Mentions) (text : String) : Plain (shape.parse text) :=
  plain_readAll (fun _ => h.read maxDepth) text

end RecordShape

end FailoverControl.Json
