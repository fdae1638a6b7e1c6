import Groundwork.Proofs.Edit.Idempotency
import Groundwork.Proofs.Text.Occurrence

/-!
How edits end. An edit that reports a change leaves other content than it met, more of it in the
case of an insertion, and each fault belongs to its own case: another file in place of the one to
be written, or no file, no text or no anchor where an edit of a text needs one.
-/

namespace Groundwork.Edit

open Groundwork.Text

variable {edit : Edit} {current : Option ByteArray} {content : ByteArray} {fault : EditFault}
  {placement : Placement} {anchor : Anchor} {payload : String} {lenient : Bool} {span : Span}

-----------------------------------------------------------------------------------------
-- Payloads that stand somewhere in a text
-----------------------------------------------------------------------------------------

/-- A payload stands somewhere in a text: as a part of it or, if it consists of whole lines, as a
run of whole lines of it, but for what is blank at the ends of the lines.
-/
inductive Contains (text payload : List Char) : Prop
  | part (found : payload <:+: text)
  | lines (whole : isLinePayload payload = true)
    (found : (rawLines payload).map trimEnd <:+: (rawLines text).map trimEnd)

theorem containsPayload_iff {text payload : List Char}
    : containsPayload text payload = true ↔ Contains text payload := by
  rw [containsPayload, Bool.or_eq_true, Bool.and_eq_true, isSome_find?_iff, isRun_iff_infix,
    plainLines_eq, plainLines_eq]
  constructor
  · rintro (part | ⟨whole, run⟩)
    · exact .part part
    · exact .lines whole run
  · rintro (part | ⟨whole, run⟩)
    · exact .inl part
    · exact .inr ⟨whole, run⟩

-----------------------------------------------------------------------------------------
-- Faults
-----------------------------------------------------------------------------------------

/-- An edit of a text, as opposed to a whole file that is written. -/
inductive OfText : Edit → Prop
  | insert {placement : Placement} {anchor : Anchor} {payload : String} {lenient : Bool}
    : OfText (.insert placement anchor payload lenient)
  | replace {anchor : Anchor} {replacement : String} {firstOnly : Bool}
    : OfText (.replace anchor replacement firstOnly)

/-- The cases in which an edit cannot be applied to what is in a file, if there is one, and the
fault that belongs to each of them.
-/
inductive FailsOn : Edit → Option ByteArray → EditFault → Prop
  | conflict {content existing : ByteArray} (other : existing ≠ content)
    : FailsOn (.write content) (some existing) .writeConflict
  | missing {edit : Edit} (ofText : edit.OfText) : FailsOn edit none .fileMissing
  | garbled {edit : Edit} {bytes : ByteArray} (ofText : edit.OfText)
    (noText : ∀ text : String, bytes ≠ text.toUTF8)
    : FailsOn edit (some bytes) .notUtf8
  | lost {placement : Placement} {anchor : Anchor} {payload : String} {lenient : Bool}
    {text : String} (nowhere : anchor.locate text.toList = none)
    (needed : ¬ (lenient = true ∧ Contains text.toList payload.toList))
    : FailsOn (.insert placement anchor payload lenient) (some text.toUTF8)
        (.anchorNotFound anchor.toString)

theorem fromUTF8?_eq_none_iff {bytes : ByteArray}
    : String.fromUTF8? bytes = none ↔ ∀ text : String, bytes ≠ text.toUTF8 := by
  simp only [Option.eq_none_iff_forall_ne_some, Ne, fromUTF8?_eq_some_iff]

/-- An edit of a text does nothing without a file, nothing with a file that holds no text, and what
it does to the text of the file otherwise.
-/
theorem OfText.apply_cases (ofText : edit.OfText) (current : Option ByteArray)
    : (current = none ∧ edit.apply current = .error .fileMissing)
      ∨ (∃ bytes, current = some bytes ∧ (∀ text : String, bytes ≠ text.toUTF8)
        ∧ edit.apply current = .error .notUtf8)
      ∨ ∃ text : String, current = some text.toUTF8 ∧ edit.apply current = edit.applyText text := by
  cases current with
  | none => exact .inl ⟨rfl, by cases ofText <;> rfl⟩
  | some bytes =>
      cases spelled : String.fromUTF8? bytes with
      | none =>
          refine .inr (.inl ⟨bytes, rfl, fromUTF8?_eq_none_iff.mp spelled, ?_⟩)
          cases ofText <;> simp only [apply, spelled]
      | some text =>
          obtain rfl := fromUTF8?_eq_some_iff.mp spelled
          exact .inr (.inr ⟨text, rfl, apply_toUTF8 edit text⟩)

/-- An insertion fails on a text for one reason only. -/
theorem applyInsert_eq_error_iff {text payload : List Char}
    : applyInsert text placement anchor payload lenient = .error fault
      ↔ fault = .anchorNotFound anchor.toString ∧ anchor.locate text = none
        ∧ ¬ (lenient = true ∧ Contains text payload) := by
  rw [← containsPayload_iff, ← Bool.and_eq_true, applyInsert]
  cases located : anchor.locate text with
  | some span => simp
  | none =>
      dsimp only
      split
      · next there => simp [there]
      · next absent => simp [absent, eq_comm]

/-- Only a file that is another one is not written. -/
theorem applyWrite_eq_error_iff
    : applyWrite current content = .error fault
      ↔ fault = .writeConflict ∧ ∃ existing, current = some existing ∧ existing ≠ content := by
  cases current with
  | none => simp [applyWrite]
  | some existing =>
      rw [applyWrite]
      split
      · next same => simp [eq_of_beq same]
      · next other =>
          have other : existing ≠ content := fun same => other (beq_iff_eq.mpr same)
          exact ⟨fun failed => ⟨(Except.error.inj failed).symm, existing, rfl, other⟩,
            fun fails => congrArg Except.error fails.1.symm⟩

theorem ofText_or_write (edit : Edit) : edit.OfText ∨ ∃ content, edit = .write content := by
  cases edit with
  | insert => exact .inl .insert
  | replace => exact .inl .replace
  | write content => exact .inr ⟨content, rfl⟩

/-- An edit fails exactly in the cases given, each with its fault. -/
theorem apply_eq_error_iff : edit.apply current = .error fault ↔ edit.FailsOn current fault := by
  constructor
  · intro failed
    obtain ofText | ⟨content, rfl⟩ := edit.ofText_or_write
    · obtain ⟨rfl, same⟩ | ⟨bytes, rfl, noText, same⟩ | ⟨text, rfl, same⟩ :=
        ofText.apply_cases current
      · obtain rfl := Except.error.inj (same.symm.trans failed)
        exact .missing ofText
      · obtain rfl := Except.error.inj (same.symm.trans failed)
        exact .garbled ofText noText
      · cases ofText with
        | insert =>
            obtain ⟨rfl, nowhere, needed⟩ := applyInsert_eq_error_iff.mp (same.symm.trans failed)
            exact .lost nowhere needed
        | replace => cases same.symm.trans failed
    · obtain ⟨rfl, existing, rfl, other⟩ := applyWrite_eq_error_iff.mp failed
      exact .conflict other
  · intro fails
    cases fails with
    | conflict other => exact applyWrite_eq_error_iff.mpr ⟨rfl, _, rfl, other⟩
    | missing ofText => cases ofText <;> rfl
    | garbled ofText noText =>
        have spelled := fromUTF8?_eq_none_iff.mpr noText
        cases ofText <;> simp only [apply, spelled]
    | lost nowhere needed =>
        exact (apply_toUTF8 _ _).trans (applyInsert_eq_error_iff.mpr ⟨rfl, nowhere, needed⟩)

-----------------------------------------------------------------------------------------
-- Changes
-----------------------------------------------------------------------------------------

/-- What is inserted is not empty: nothing is there already, wherever it is looked for. -/
theorem ne_nil_of_insertAt {text new payload : List Char}
    (done : insertAt text span payload placement = some new) : payload ≠ [] := by
  rintro rfl
  obtain ⟨absent, -⟩ := insertAt_eq_some_iff.mp done
  cases placement with
  | after => simp [isPresent] at absent
  | before => simp [isPresent] at absent

/-- An insertion that changes a file makes it longer, as its payload is not empty. -/
theorem size_lt_of_insert
    (changed : (insert placement anchor payload lenient).apply current = .ok (.changed content))
    : ∃ bytes, current = some bytes ∧ bytes.size < content.size := by
  obtain ⟨text, rfl, span, new, -, inserted, rfl⟩ := apply_insert_eq_changed changed
  refine ⟨text.toUTF8, rfl, ?_⟩
  have filled : 0 < byteLength payload.toList := by
    rw [byteLength_eq, String.ofList_toList]
    exact Nat.pos_of_ne_zero fun empty => ne_nil_of_insertAt inserted
      (String.toList_eq_nil_iff.mpr (String.utf8ByteSize_eq_zero_iff.mp empty))
  obtain ⟨-, rfl⟩ := insertAt_eq_some_iff.mp inserted
  change text.utf8ByteSize < (String.ofList _).utf8ByteSize
  generalize insertionPoint text.toList span placement (isLinePayload payload.toList) = position
  have whole := congrArg byteLength (List.take_append_drop position text.toList)
  simp only [byteLength_eq, String.ofList_append, String.ofList_toList,
    String.utf8ByteSize_append] at whole filled ⊢
  omega

/-- An edit that changes a file leaves other content than it met. -/
theorem ne_of_changed (changed : edit.apply current = .ok (.changed content))
    : current ≠ some content := by
  rintro rfl
  cases edit with
  | insert placement anchor payload lenient =>
      obtain ⟨bytes, same, longer⟩ := size_lt_of_insert changed
      obtain rfl := Option.some.inj same
      exact Nat.lt_irrefl _ longer
  | replace anchor replacement firstOnly =>
      obtain ⟨none, -⟩ | ⟨bytes, -, -, same⟩ | ⟨text, spelled, same⟩ :=
        OfText.replace.apply_cases (some content)
      · cases none
      · cases same.symm.trans changed
      · obtain rfl := Option.some.inj spelled
        have changed := Except.ok.inj (same.symm.trans changed)
        rw [applyReplace] at changed
        split at changed
        · cases changed
        · next other =>
            have same := congrArg String.toList (toUTF8_inj.mp (EditOutcome.changed.inj changed))
            rw [String.toList_ofList] at same
            exact other (beq_iff_eq.mpr same)
  | write written =>
      change applyWrite (some content) written = _ at changed
      rw [applyWrite] at changed
      split at changed
      · cases changed
      · cases changed

-----------------------------------------------------------------------------------------
-- Outcomes
-----------------------------------------------------------------------------------------

/-- How every edit ends on every content: it changes only what it leaves different, and makes it
longer if it inserts; it fails in the cases given, with the fault of the case, and a replacement
fails on no text; and on a text it does what it does on the bytes of the text.
-/
theorem apply_outcome (edit : Edit) (current : Option ByteArray)
    : (∀ content, edit.apply current = .ok (.changed content)
        → current ≠ some content
          ∧ ∀ placement anchor payload lenient, edit = .insert placement anchor payload lenient
            → ∃ bytes, current = some bytes ∧ bytes.size < content.size)
      ∧ (∀ fault, edit.apply current = .error fault ↔ edit.FailsOn current fault)
      ∧ (∀ anchor replacement firstOnly, edit = .replace anchor replacement firstOnly
        → ∀ text : String, ∃ outcome, edit.apply (some text.toUTF8) = .ok outcome)
      ∧ ∀ text : String, edit.applyText text = edit.apply (some text.toUTF8) := by
  refine ⟨fun content changed => ⟨ne_of_changed changed, ?_⟩, fun fault => apply_eq_error_iff, ?_,
    fun text => (apply_toUTF8 edit text).symm⟩
  · rintro placement anchor payload lenient rfl
    exact size_lt_of_insert changed
  · rintro anchor replacement firstOnly rfl text
    exact ⟨_, apply_toUTF8 _ text⟩

end Groundwork.Edit
