import FailoverControl.Operator.Desk

/-!
# Consent on standard input

An operator consents when the first line of input that is no text, or that is a plain yes or no,
is a yes. Nothing else counts: no other text, no bytes that are no text, and no end of the input.

The main statement: a question at a terminal whose output works is confirmed exactly when the lines
that have not been read yet consent (`confirm_eq_true_iff`); whatever the output does, it is not
confirmed without (`consents_of_confirm`).
-/

set_option autoImplicit false

namespace FailoverControl.Operator

open FailoverControl.Text

/-! ## Lines that consent -/

/-- The word that a text says, without the blanks around it and in lower case. -/
def plainWord (s : String) : String :=
  String.ofList ((trim s.toList).map Char.toLower)

/-- Whether a line is no text, or a plain yes or no. -/
def Decisive (line : List UInt8) : Prop :=
  ∀ s, ofBytes? line = some s → plainWord s ∈ ["y", "yes", "n", "no"]

/-- The first decisive line is a yes. -/
def LinesConsent (lines : List (List UInt8)) : Prop :=
  ∃ before line after s, lines = before ++ line :: after ∧ (∀ l ∈ before, ¬ Decisive l) ∧
    ofBytes? line = some s ∧ plainWord s ∈ ["y", "yes"]

/-- Input whose first decisive line is a yes. -/
def Consents (input : List UInt8) : Prop :=
  LinesConsent (splitLines input)

/-! ## What a line says -/

/-- A reply is told by its word without blanks and in small letters. -/
theorem ofText_eq (s : String) :
    Reply.ofText s =
      if plainWord s = "y" ∨ plainWord s = "yes" then .yes
      else if plainWord s = "n" ∨ plainWord s = "no" then .no
      else .unclear := rfl

/-- A line consents when it is text and its word is one of the two for yes. -/
theorem ofLine_eq_yes_iff {line : List UInt8} :
    Reply.ofLine line = .yes ↔ ∃ s, ofBytes? line = some s ∧ plainWord s ∈ ["y", "yes"] := by
  cases htext : ofBytes? line with
  | none => simp [Reply.ofLine, htext]
  | some s =>
    simp only [Reply.ofLine, htext, ofText_eq, Option.some.injEq, exists_eq_left']
    split
    · simp_all
    · split <;> simp_all

/-- A line is unclear exactly when it does not decide. -/
theorem ofLine_eq_unclear_iff {line : List UInt8} :
    Reply.ofLine line = .unclear ↔ ¬ Decisive line := by
  cases htext : ofBytes? line with
  | none => simp [Reply.ofLine, htext, Decisive]
  | some s =>
    simp only [Reply.ofLine, htext, ofText_eq, Decisive, Option.some.injEq, forall_eq']
    split
    · rename_i hyes
      rcases hyes with hyes | hyes <;> simp [hyes]
    · split
      · rename_i hno
        rcases hno with hno | hno <;> simp [hno]
      · simp_all

/-- Without lines there is no consent. -/
theorem not_linesConsent_nil : ¬ LinesConsent [] := by
  rintro ⟨before, line, after, _, hlines, -⟩
  simp at hlines

/-- The first line consents, or it decides nothing and the others consent. -/
theorem linesConsent_cons_iff {line : List UInt8} {rest : List (List UInt8)} :
    LinesConsent (line :: rest) ↔
      Reply.ofLine line = .yes ∨ (Reply.ofLine line = .unclear ∧ LinesConsent rest) := by
  constructor
  · rintro ⟨before, first, after, s, hlines, hbefore, hs⟩
    cases before with
    | nil =>
      obtain ⟨rfl, -⟩ := List.cons.inj hlines
      exact .inl (ofLine_eq_yes_iff.mpr ⟨s, hs⟩)
    | cons unclear others =>
      obtain ⟨rfl, hrest⟩ := List.cons.inj hlines
      obtain ⟨hunclear, hothers⟩ := List.forall_mem_cons.mp hbefore
      exact .inr ⟨ofLine_eq_unclear_iff.mpr hunclear, others, first, after, s, hrest, hothers, hs⟩
  · rintro (hyes | ⟨hunclear, before, first, after, s, rfl, hbefore, hs⟩)
    · obtain ⟨s, hs⟩ := ofLine_eq_yes_iff.mp hyes
      exact ⟨[], line, rest, s, rfl, fun _ h => absurd h List.not_mem_nil, hs⟩
    · have hall : ∀ l ∈ line :: before, ¬ Decisive l :=
        List.forall_mem_cons.mpr ⟨ofLine_eq_unclear_iff.mp hunclear, hbefore⟩
      exact ⟨line :: before, first, after, s, rfl, hall, hs⟩

/-! ## Questions -/

/-- A sink that takes everything. -/
def Sink.Works (sink : Sink) : Prop :=
  sink.room = none ∧ sink.flushFails = false

/-- A sink that works goes on working. -/
theorem Sink.Works.write {sink : Sink} (h : sink.Works) (bs : List UInt8) :
    (sink.write bs).Works := by
  obtain ⟨hroom, hflush⟩ := h
  simp [Sink.Works, Sink.write, hroom, hflush]

/-- A sink that works has room for everything. -/
theorem Sink.Works.fits {sink : Sink} (h : sink.Works) (count : Nat) : sink.fits count = true := by
  simp [Sink.fits, h.1]

/-- A question is not confirmed without consent. -/
theorem linesConsent_of_askLines {prompt : String} {lines : List (List UInt8)} {sink : Sink}
    (h : (askLines prompt lines sink).1 = true) : LinesConsent lines := by
  induction lines generalizing sink with
  | nil =>
    rw [askLines] at h
    split at h <;> cases h
  | cons line rest ih =>
    rw [askLines] at h
    split at h
    · cases h
    rw [linesConsent_cons_iff]
    cases hline : Reply.ofLine line with
    | yes => exact .inl rfl
    | unclear =>
      simp only [hline] at h
      split at h
      · exact .inr ⟨rfl, ih h⟩
      · cases h
    | no =>
      simp only [hline] at h
      cases h
    | garbled =>
      simp only [hline] at h
      cases h

/-- Where output works, a question is confirmed when there is consent. -/
theorem askLines_of_linesConsent {prompt : String} {lines : List (List UInt8)} {sink : Sink}
    (hsink : sink.Works) (h : LinesConsent lines) : (askLines prompt lines sink).1 = true := by
  induction lines generalizing sink with
  | nil => exact absurd h not_linesConsent_nil
  | cons line rest ih =>
    have hasked := hsink.write (bytes prompt)
    rw [askLines]
    simp only [hsink.fits, hsink.2, Bool.not_true, Bool.or_false, Bool.false_eq_true, if_false]
    rcases linesConsent_cons_iff.mp h with hline | ⟨hline, hrest⟩
    · simp only [hline]
    · simp only [hline, hasked.fits, if_true]
      exact ih (hasked.write _) hrest

/-- Whoever has been asked and agrees has typed the consent. -/
theorem consents_of_confirm {prompt : String} {terminal : Terminal}
    (h : (terminal.confirm prompt).1 = true) : LinesConsent terminal.unread :=
  linesConsent_of_askLines h

/-- A question at a terminal whose output works is confirmed exactly when the lines that have not
been read yet consent. -/
theorem confirm_eq_true_iff {prompt : String} {terminal : Terminal} (h : terminal.sink.Works) :
    (terminal.confirm prompt).1 = true ↔ LinesConsent terminal.unread :=
  ⟨consents_of_confirm, askLines_of_linesConsent h⟩

end FailoverControl.Operator
