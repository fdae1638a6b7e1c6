import Groundwork.Proofs.Edit.Insertion
import Groundwork.Proofs.Pattern.Search
import Groundwork.Proofs.Text.Lines

/-!
Insertions made twice. After its own insertion an edit finds its anchor where it was, or where the
insertion moved it to, and has nothing left to do; an insertion before an anchor may also make an
earlier place that the anchor is found at, and then inserts there.
-/

namespace Groundwork

open Groundwork.Text

variable {anchor : Anchor} {sought payload : String} {placement : Placement} {lenient : Bool}
  {text new : List Char} {span : Span} {current : Option ByteArray} {content : ByteArray}

-----------------------------------------------------------------------------------------
-- Places of an anchor
-----------------------------------------------------------------------------------------

namespace Anchor

theorem locate_literal_eq_some
    : (literal sought).locate text = some span
      ↔ sought.toList ≠ [] ∧ ∃ start, find? sought.toList text = some start
        ∧ span = ⟨start, start + sought.toList.length⟩ := by
  simp only [locate, Option.ite_none_left_eq_some, Option.map_eq_some_iff, List.isEmpty_iff,
    @eq_comm _ span]

/-- A literal anchor is found within the text. -/
theorem locate_literal_bounds (found : (literal sought).locate text = some span)
    : span.start ≤ span.stop ∧ span.stop ≤ text.length := by
  obtain ⟨-, start, first, rfl⟩ := locate_literal_eq_some.mp found
  exact ⟨Nat.le_add_right _ _, stop_le_of_find? first⟩

/-- Whatever an anchor looks for is found within the text. -/
theorem locate_within (found : anchor.locate text = some span)
    : span.start ≤ text.length ∧ span.stop ≤ text.length := by
  cases anchor with
  | literal sought =>
      obtain ⟨ordered, within⟩ := locate_literal_bounds found
      exact ⟨Nat.le_trans ordered within, within⟩
  | pattern sought =>
      obtain ⟨place, finds, rfl⟩ := Option.map_eq_some_iff.mp found
      exact SearchPattern.find?_within finds

/-- A literal anchor is found at the same place in a text that is the same up to its end. -/
theorem locate_literal_of_take (found : (literal sought).locate text = some span)
    (same : new.take span.stop = text.take span.stop) : (literal sought).locate new = some span := by
  obtain ⟨filled, start, first, rfl⟩ := locate_literal_eq_some.mp found
  exact locate_literal_eq_some.mpr
    ⟨filled, start, find?_of_take first (Nat.le_refl _) same, rfl⟩

/-- A literal anchor is found further on after an insertion before it that has none of its
characters.
-/
theorem locate_literal_insert (found : (literal sought).locate text = some span) {place : Nat}
    (upTo : place ≤ span.start) {inserted : List Char}
    (disjoint : ∀ c ∈ inserted, c ∉ sought.toList)
    : (literal sought).locate (text.take place ++ inserted ++ text.drop place)
      = some (span.moved inserted.length) := by
  obtain ⟨filled, start, first, rfl⟩ := locate_literal_eq_some.mp found
  refine locate_literal_eq_some.mpr
    ⟨filled, _, find?_insert_of_disjoint first filled upTo disjoint, ?_⟩
  simp only [Span.moved, Nat.add_right_comm]

end Anchor

namespace Edit

-----------------------------------------------------------------------------------------
-- Outcomes of insertions
-----------------------------------------------------------------------------------------

/-- An edit of a text is applied to the bytes of the text. -/
theorem apply_toUTF8 (edit : Edit) (text : String)
    : edit.apply (some text.toUTF8) = edit.applyText text := by
  cases edit <;> simp only [apply, applyText, fromUTF8?_toUTF8]

/-- An insertion beside what some search finds in the text of a file; messages call it `name`. -/
def insertBeside (search : List Char → Option Span) (name : String) (placement : Placement)
    (payload : String) (lenient : Bool) (current : Option ByteArray)
    : Except EditFault EditOutcome :=
  match current with
  | none => .error .fileMissing
  | some bytes =>
      match String.fromUTF8? bytes with
      | none => .error .notUtf8
      | some text =>
          match search text.toList with
          | none =>
              if lenient && containsPayload text.toList payload.toList then .ok .unchanged
              else .error (.anchorNotFound name)
          | some span => .ok (outcomeOf (insertAt text.toList span payload.toList placement))

/-- An insertion is made beside what the search for its anchor finds. -/
theorem apply_insert (anchor : Anchor) (placement : Placement) (payload : String) (lenient : Bool)
    (current : Option ByteArray)
    : (insert placement anchor payload lenient).apply current
      = insertBeside anchor.locate anchor.toString placement payload lenient current := rfl

theorem insertBeside_toUTF8 (search : List Char → Option Span) (name : String)
    (placement : Placement) (payload : String) (lenient : Bool) {text : String}
    (found : search text.toList = some span)
    : insertBeside search name placement payload lenient (some text.toUTF8)
      = .ok (outcomeOf (insertAt text.toList span payload.toList placement)) := by
  simp only [insertBeside, fromUTF8?_toUTF8, found]

/-- An insertion that changed a file was made beside the place that was found. -/
theorem insertBeside_eq_changed {search : List Char → Option Span} {name : String}
    (changed : insertBeside search name placement payload lenient current = .ok (.changed content))
    : ∃ text : String, current = some text.toUTF8
      ∧ ∃ span new, search text.toList = some span
        ∧ insertAt text.toList span payload.toList placement = some new
        ∧ content = (String.ofList new).toUTF8 := by
  cases current with
  | none => cases changed
  | some bytes =>
      cases spelled : String.fromUTF8? bytes with
      | none => simp only [insertBeside, spelled, reduceCtorEq] at changed
      | some text =>
          refine ⟨text, congrArg some (fromUTF8?_eq_some_iff.mp spelled), ?_⟩
          simp only [insertBeside, spelled] at changed
          cases found : search text.toList with
          | none =>
              rw [found] at changed
              dsimp only at changed
              split at changed <;> cases changed
          | some span =>
              rw [found] at changed
              cases inserted : insertAt text.toList span payload.toList placement with
              | none =>
                  simp only [inserted, outcomeOf, Except.ok.injEq, reduceCtorEq] at changed
              | some new =>
                  simp only [inserted, outcomeOf, Except.ok.injEq, EditOutcome.changed.injEq] at changed
                  exact ⟨span, new, rfl, inserted, changed.symm⟩

/-- An insertion that changed a file was made beside the place where its anchor is found. -/
theorem apply_insert_eq_changed
    (changed : (insert placement anchor payload lenient).apply current = .ok (.changed content))
    : ∃ text : String, current = some text.toUTF8
      ∧ ∃ span new, anchor.locate text.toList = some span
        ∧ insertAt text.toList span payload.toList placement = some new
        ∧ content = (String.ofList new).toUTF8 :=
  insertBeside_eq_changed ((apply_insert ..).symm.trans changed)

/-- An insertion whose anchor is found fails in no case. -/
theorem apply_insert_of_located {text : String} (found : anchor.locate text.toList = some span)
    : (insert placement anchor payload lenient).apply (some text.toUTF8)
      = .ok (outcomeOf (insertAt text.toList span payload.toList placement)) := by
  rw [apply_insert, insertBeside_toUTF8 _ _ _ _ _ found]

/-- An insertion that is not made beside the place where its anchor is found changes nothing. -/
theorem apply_insert_unchanged (found : anchor.locate new = some span)
    (there : insertAt new span payload.toList placement = none)
    : (insert placement anchor payload lenient).apply (some (String.ofList new).toUTF8)
      = .ok .unchanged := by
  rw [← String.toList_ofList (l := new)] at found there
  rw [apply_insert_of_located found, there, outcomeOf]

-----------------------------------------------------------------------------------------
-- Insertions made twice
-----------------------------------------------------------------------------------------

/-- An insertion after a literal anchor that changed a file leaves nothing to insert: the anchor is
still found where it was, and the payload right after the place that it was inserted at.
-/
theorem apply_insertAfter_again
    (changed : (insert .after (.literal sought) payload lenient).apply current
      = .ok (.changed content))
    : (insert .after (.literal sought) payload lenient).apply (some content) = .ok .unchanged := by
  obtain ⟨text, rfl, span, new, found, inserted, rfl⟩ := apply_insert_eq_changed changed
  obtain ⟨-, within⟩ := Anchor.locate_literal_bounds found
  have kept := take_of_insertAt_after within inserted
  exact apply_insert_unchanged (Anchor.locate_literal_of_take found kept)
    (insertAt_after_again within inserted)

/-- A line inserted after a last line without an end, which holds the anchor and is ended first, and
that holds the anchor itself.
-/
theorem apply_insertAfter_again_last
    : (insert .after (.literal "b") "b\r\n" false).apply (some "a b".toUTF8)
        = .ok (.changed "a b\nb\r\n".toUTF8)
      ∧ (insert .after (.literal "b") "b\r\n" false).apply (some "a b\nb\r\n".toUTF8)
        = .ok .unchanged := by
  have changed : (insert .after (.literal "b") "b\r\n" false).apply (some "a b".toUTF8)
      = .ok (.changed "a b\nb\r\n".toUTF8) := rfl
  exact ⟨changed, apply_insertAfter_again changed⟩

/-- An insertion before a literal anchor that changed a file leaves nothing to insert, if the anchor
is found at the place that the insertion moved it to and not before that.
-/
theorem apply_insertBefore_again {text new : String}
    (changed : (insert .before (.literal sought) payload lenient).apply (some text.toUTF8)
      = .ok (.changed new.toUTF8))
    (moves : (Anchor.literal sought).locate new.toList
      = ((Anchor.literal sought).locate text.toList).map (·.moved payload.length))
    : (insert .before (.literal sought) payload lenient).apply (some new.toUTF8)
      = .ok .unchanged := by
  obtain ⟨text', spelled, span, made, found, inserted, written⟩ := apply_insert_eq_changed changed
  obtain rfl := toUTF8_inj.mp (Option.some.inj spelled)
  obtain rfl := toUTF8_inj.mp written
  rw [String.toList_ofList, found, Option.map_some] at moves
  obtain ⟨upTo, within⟩ := Anchor.locate_literal_bounds found
  exact apply_insert_unchanged moves (insertAt_before_again (Nat.le_trans upTo within) inserted)

/-- A line inserted before the line of its anchor, of the same characters in another order. -/
theorem apply_insertBefore_again_shared
    : (insert .before (.literal "ab") "ba\n" false).apply (some "b\nab".toUTF8)
        = .ok (.changed "b\nba\nab".toUTF8)
      ∧ (insert .before (.literal "ab") "ba\n" false).apply (some "b\nba\nab".toUTF8)
        = .ok .unchanged := by
  have changed : (insert .before (.literal "ab") "ba\n" false).apply (some "b\nab".toUTF8)
      = .ok (.changed "b\nba\nab".toUTF8) := rfl
  exact ⟨changed, apply_insertBefore_again changed rfl⟩

/-- A line inserted before its anchor that ends in the anchor is where the anchor is found from then
on, and is inserted once more before itself.
-/
theorem insertBefore_twice
    : (insert .before (.literal "b") "ab\n" false).apply (some "b\n".toUTF8)
        = .ok (.changed "ab\nb\n".toUTF8)
      ∧ (insert .before (.literal "b") "ab\n" false).apply (some "ab\nb\n".toUTF8)
        = .ok (.changed "ab\nab\nb\n".toUTF8) :=
  ⟨rfl, rfl⟩

/-- An insertion before a literal anchor that has none of its characters leaves nothing to insert. -/
theorem apply_insertBefore_again_of_disjoint
    (changed : (insert .before (.literal sought) payload lenient).apply current
      = .ok (.changed content))
    (disjoint : ∀ c ∈ payload.toList, c ∉ sought.toList)
    : (insert .before (.literal sought) payload lenient).apply (some content) = .ok .unchanged := by
  obtain ⟨text, rfl, span, new, found, inserted, rfl⟩ := apply_insert_eq_changed changed
  obtain ⟨ordered, bounded⟩ := Anchor.locate_literal_bounds found
  have within := Nat.le_trans ordered bounded
  obtain ⟨place, upTo, -, rfl⟩ := insertAt_before_spec within inserted
  exact apply_insert_unchanged (Anchor.locate_literal_insert found upTo disjoint)
    (insertAt_before_again within inserted)

-----------------------------------------------------------------------------------------
-- Insertions made twice, whatever they look for
-----------------------------------------------------------------------------------------

/-- A search of texts that finds stretches of them. -/
def FindsWithin (search : List Char → Option Span) : Prop :=
  ∀ text span, search text = some span → span.start ≤ text.length ∧ span.stop ≤ text.length

/-- Where a stretch is after so many characters were put beside it. -/
def carried (placement : Placement) (count : Nat) (span : Span) : Span :=
  match placement with
  | .after => span
  | .before => span.moved count

theorem insertAt_again {payload : List Char} (first : span.start ≤ text.length)
    (last : span.stop ≤ text.length) (done : insertAt text span payload placement = some new)
    : insertAt new (carried placement payload.length span) payload placement = none := by
  cases placement with
  | after => exact insertAt_after_again last done
  | before => exact insertAt_before_again first done

/-- Whatever search an insertion is made beside, if it changed a file and the search finds the same
place in what the insertion left, in front of the payload or moved by it, there is nothing left to
insert. Insertions are made beside what such searches for their anchors find.
-/
theorem insertBeside_again
    : (∀ (anchor : Anchor) (placement : Placement) (payload : String) (lenient : Bool)
          (current : Option ByteArray),
        FindsWithin anchor.locate
        ∧ (insert placement anchor payload lenient).apply current
          = insertBeside anchor.locate anchor.toString placement payload lenient current)
      ∧ ∀ (search : List Char → Option Span) (name : String) (placement : Placement)
          (payload : String) (lenient : Bool) (current : Option ByteArray) (content : ByteArray),
        FindsWithin search
        → insertBeside search name placement payload lenient current = .ok (.changed content)
        → ∃ text new : String, current = some text.toUTF8 ∧ content = new.toUTF8
          ∧ (search new.toList = (search text.toList).map (carried placement payload.length)
            → insertBeside search name placement payload lenient (some content)
              = .ok .unchanged) := by
  refine ⟨fun anchor _ _ _ _ => ⟨fun _ _ found => Anchor.locate_within found, rfl⟩, ?_⟩
  intro search name placement payload lenient current content within changed
  obtain ⟨text, spelled, span, new, found, inserted, written⟩ := insertBeside_eq_changed changed
  refine ⟨text, String.ofList new, spelled, written, fun again => ?_⟩
  obtain ⟨first, last⟩ := within _ _ found
  rw [found, Option.map_some] at again
  have there := insertAt_again first last inserted
  rw [String.length_toList, ← String.toList_ofList (l := new)] at there
  rw [written, insertBeside_toUTF8 _ _ _ _ _ again, there, outcomeOf]

/-- The pattern that finds a blank line. -/
def blankLine : SearchPattern :=
  ⟨"(?m)^$", ⟨#[.mark 0 1, .look .lineStart 2, .look .lineEnd 3, .mark 1 4, .accept], 0, 2⟩, []⟩

/-- A line that is inserted before a blank line, which a pattern finds without a character of it. -/
theorem insertBeside_again_blank
    : (insert .before (.pattern blankLine) "é\n" false).apply (some "a\n\nb".toUTF8)
        = .ok (.changed "a\né\n\nb".toUTF8)
      ∧ (insert .before (.pattern blankLine) "é\n" false).apply (some "a\né\n\nb".toUTF8)
        = .ok .unchanged := by
  have located : (Anchor.pattern blankLine).locate "a\n\nb".toList = some ⟨2, 2⟩ := by
    decide +kernel
  have locatedAgain : (Anchor.pattern blankLine).locate "a\né\n\nb".toList = some ⟨4, 4⟩ := by
    decide +kernel
  have changed : (insert .before (.pattern blankLine) "é\n" false).apply (some "a\n\nb".toUTF8)
      = .ok (.changed "a\né\n\nb".toUTF8) :=
    (apply_insert_of_located located).trans rfl
  obtain ⟨made, again⟩ := insertBeside_again
  have same := made (.pattern blankLine) .before "é\n" false
  obtain ⟨text, new, before, after, idle⟩ :=
    again _ _ _ _ _ _ "a\né\n\nb".toUTF8 (same none).1 ((same _).2.symm.trans changed)
  obtain rfl := toUTF8_inj.mp (Option.some.inj before)
  obtain rfl := toUTF8_inj.mp after
  exact ⟨changed, (same _).2.trans (idle (by rw [located, locatedAgain]; rfl))⟩

end Edit

end Groundwork
