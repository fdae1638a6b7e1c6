import Mathlib.Order.Bounds.Defs
import Groundwork.Proofs.Edit.Idempotency
import Groundwork.Proofs.Text.Lines

/-!
What an insertion makes of a text: the two parts of the text with the payload between them. A
payload of whole lines goes between lines, as near to the stretch as can be, so that no line of the
text or of the payload is split or joined with another.
-/

namespace Groundwork.Edit

open Groundwork.Text

variable {text new payload line : List Char} {position start stop place : Nat} {span : Span}
  {placement : Placement}

-----------------------------------------------------------------------------------------
-- Places between lines
-----------------------------------------------------------------------------------------

/-- A line starts at a place: at the start of the text, or right after a newline. -/
def StartsLine (text : List Char) (place : Nat) : Prop :=
  place = 0 ∨ ∃ last, text[last]? = some '\n' ∧ place = last + 1

/-- A place does not lie within a line: a line starts there, or the text ends. -/
def BetweenLines (text : List Char) (place : Nat) : Prop :=
  StartsLine text place ∨ place = text.length

theorem startsLine_iff (inside : place ≤ text.length)
    : StartsLine text place ↔ EndsLine (text.take place) := by
  cases place with
  | zero => simp [StartsLine, EndsLine]
  | succ last =>
      have filled : text.take (last + 1) ≠ [] := by
        rw [Ne, List.take_eq_nil_iff]
        rintro (none | rfl)
        · cases none
        · cases inside
      have held : text[last]? = some text[last] := List.getElem?_eq_getElem inside
      simp [StartsLine, EndsLine, filled, endsInNewline, List.getLast?_take, held]

/-- A place past a position within a line, with no newline between the two, lies within that line
unless it is the end of the text.
-/
theorem BetweenLines.length_le (between : BetweenLines text place)
    (within : ¬ EndsLine (text.take position)) (past : position ≤ place)
    (whole : '\n' ∉ (text.drop position).take (place - position))
    : text.length ≤ place := by
  obtain starts | rfl := between
  · refine Nat.le_of_not_lt fun inside => within ?_
    have ends := (startsLine_iff (Nat.le_of_lt inside)).mp starts
    rw [← Nat.add_sub_cancel' past, List.take_add] at ends
    exact ends.of_append whole
  · exact Nat.le_refl _

/-- The end of the line that a position lies in is the first place from there on that does not lie
within a line.
-/
theorem LineEnd.isLeast (ends : LineEnd text position stop) (inside : position ≤ text.length)
    : IsLeast {place | position ≤ place ∧ BetweenLines text place} stop := by
  obtain ⟨past, bounded⟩ := ends.bounds inside
  cases ends with
  | here ended =>
      refine ⟨⟨past, .inl ((startsLine_iff inside).mpr ended)⟩, ?_⟩
      rintro place ⟨after, -⟩
      exact after
  | @newline line rest within split whole =>
      have newline : text[position + line.length]? = some '\n' := by
        rw [← List.getElem?_drop, split, List.getElem?_append_right (Nat.le_refl _), Nat.sub_self]
        rfl
      refine ⟨⟨past, .inl (.inr ⟨_, newline, rfl⟩)⟩, ?_⟩
      rintro place ⟨after, between⟩
      refine Nat.le_of_not_lt fun short => ?_
      have none : '\n' ∉ (text.drop position).take (place - position) := by
        rw [split, List.take_append_of_le_length (by omega)]
        exact fun member => whole (List.mem_of_mem_take member)
      have long := between.length_le within after none
      omega
  | last within whole =>
      refine ⟨⟨past, .inr rfl⟩, ?_⟩
      rintro place ⟨after, between⟩
      exact between.length_le within after fun member => whole (List.mem_of_mem_take member)

/-- The start of the line that a position lies in is the last place up to there where one starts. -/
theorem LineStart.isGreatest (starts : LineStart text position start)
    (inside : position ≤ text.length)
    : IsGreatest {place | place ≤ position ∧ StartsLine text place} start := by
  have upTo := starts.upTo
  refine ⟨⟨upTo, (startsLine_iff (by omega)).mpr starts.starts⟩, ?_⟩
  rintro place ⟨before, rfl | ⟨last, newline, rfl⟩⟩
  · exact Nat.zero_le _
  · refine Nat.le_of_not_lt fun past => starts.whole ?_
    have there : ((text.take position).drop start)[last - start]? = some '\n' := by
      rw [List.getElem?_drop, Nat.add_sub_cancel' (by omega), List.getElem?_take_of_lt before,
        newline]
    exact List.mem_of_getElem? there

-----------------------------------------------------------------------------------------
-- Texts with a payload put in
-----------------------------------------------------------------------------------------

/-- Where a payload goes beside a stretch: right there, or, if it consists of whole lines, to the
nearest place between lines after it, or the nearest start of a line before it.
-/
inductive Placed (text : List Char) (span : Span) : Placement → Bool → Nat → Prop
  | after : Placed text span .after false span.stop
  | before : Placed text span .before false span.start
  | linesAfter {position : Nat}
    (nearest : IsLeast {place | span.stop ≤ place ∧ BetweenLines text place} position)
    : Placed text span .after true position
  | linesBefore {position : Nat}
    (nearest : IsGreatest {place | place ≤ span.start ∧ StartsLine text place} position)
    : Placed text span .before true position

/-- A payload was put into a text beside a stretch of it, at a position and after what ends the line
before it. Positions count characters; in bytes they are between two characters.
-/
structure Inserts (text : String) (span : Span) (placement : Placement) (payload : String)
    (position : Nat) (ending : String) (new : String) : Prop where
  placed : Placed text.toList span placement (isLinePayload payload.toList) position
  inside
    : ∀ index ∈ [span.start, span.stop, position],
        index ≤ text.toList.length
        ∧ String.Pos.Raw.IsValid text ⟨byteLength (text.toList.take index)⟩
  ended
    : ending = "\n"
      ↔ isLinePayload payload.toList = true
        ∧ position = text.toList.length
        ∧ text ≠ ""
        ∧ endsInNewline text.toList = false
  unended : ending = "\n" ∨ ending = ""
  bytes
    : new.toUTF8
      = text.toUTF8.extract 0 (byteLength (text.toList.take position))
        ++ ending.toUTF8
        ++ payload.toUTF8
        ++ text.toUTF8.extract (byteLength (text.toList.take position)) text.toUTF8.size
  lines
    : isLinePayload payload.toList = true
      → rawLines text.toList
          = rawLines (text.toList.take position) ++ rawLines (text.toList.drop position)
        ∧ rawLines new.toList
          = rawLines (text.toList.take position)
            ++ rawLines payload.toList
            ++ rawLines (text.toList.drop position)

theorem placed_insertionPoint (first : span.start ≤ text.length) (last : span.stop ≤ text.length)
    (placement : Placement) (lines : Bool)
    : Placed text span placement lines (insertionPoint text span placement lines) := by
  cases placement <;> cases lines
  · exact .after
  · exact .linesAfter ((lineEnd_lineEndAt last).isLeast last)
  · exact .before
  · exact .linesBefore ((lineStart_lineStartAt first).isGreatest first)

theorem insertionPoint_le (first : span.start ≤ text.length) (last : span.stop ≤ text.length)
    (placement : Placement) (lines : Bool)
    : insertionPoint text span placement lines ≤ text.length := by
  cases placement with
  | after => exact (insertionPoint_after_bounds last lines).2
  | before => exact Nat.le_trans (insertionPoint_before_spec first lines).1 first

/-- Whole lines are not put into a line. -/
theorem Placed.betweenLines (placed : Placed text span placement true position)
    : BetweenLines text position := by
  cases placed with
  | linesAfter nearest => exact nearest.1.2
  | linesBefore nearest => exact .inl nearest.1.2

theorem separator_eq_newline_iff {lines : Bool}
    : separator text position lines = ['\n']
      ↔ lines = true ∧ position = text.length ∧ text ≠ [] ∧ endsInNewline text = false := by
  rw [separator]
  split
  · next ended => simpa [and_assoc] using ended
  · next ended => simpa [and_assoc] using ended

theorem separator_cases (text : List Char) (position : Nat) (lines : Bool)
    : separator text position lines = ['\n'] ∨ separator text position lines = [] := by
  rw [separator]
  split
  · exact .inl rfl
  · exact .inr rfl

/-- A place between lines parts the lines of a text, and a last line stays as it is when ended. -/
theorem BetweenLines.rawLines_split (between : BetweenLines text position)
    (inside : position ≤ text.length)
    : rawLines text = rawLines (text.take position) ++ rawLines (text.drop position)
      ∧ EndsLine (text.take position ++ separator text position true)
      ∧ rawLines (text.take position ++ separator text position true)
        = rawLines (text.take position) := by
  by_cases ended : EndsLine (text.take position)
  · rw [separator_of_endsLine ended, List.append_nil]
    refine ⟨?_, ended, rfl⟩
    rw [← rawLines_append ended, List.take_append_drop]
  · obtain starts | rfl := between
    · exact absurd ((startsLine_iff inside).mp starts) ended
    · rw [List.take_length] at ended ⊢
      obtain ⟨filled, unended⟩ := not_or.mp ended
      have unended := Bool.eq_false_iff.mpr unended
      rw [separator_eq_newline_iff.mpr ⟨rfl, rfl, filled, unended⟩, List.drop_length]
      exact ⟨(List.append_nil _).symm, .inr (endsInNewline_append _ rfl),
        rawLines_concat_newline filled unended⟩

/-- An insertion beside a stretch of a text puts the payload into the text. -/
theorem inserts_of_insertAt {text payload : String} (first : span.start ≤ text.toList.length)
    (last : span.stop ≤ text.toList.length)
    (done : insertAt text.toList span payload.toList placement = some new)
    : ∃ position ending,
        Inserts text span placement payload position ending (String.ofList new) := by
  obtain ⟨-, rfl⟩ := insertAt_eq_some_iff.mp done
  have placed := placed_insertionPoint first last placement (isLinePayload payload.toList)
  have within := insertionPoint_le first last placement (isLinePayload payload.toList)
  generalize insertionPoint text.toList span placement (isLinePayload payload.toList) = position
    at placed within ⊢
  have spelled : "\n" = String.ofList ['\n'] := rfl
  refine ⟨position, String.ofList (separator text.toList position (isLinePayload payload.toList)),
    placed, ?_, ?_, ?_, ?_, ?_⟩
  · have valid (index : Nat) := isValid_byteLength_take text index
    exact List.forall_mem_cons.mpr ⟨⟨first, valid _⟩, List.forall_mem_cons.mpr
      ⟨⟨last, valid _⟩, List.forall_mem_singleton.mpr ⟨within, valid _⟩⟩⟩
  · rw [spelled, String.ofList_inj, separator_eq_newline_iff, Ne, String.toList_eq_nil_iff]
  · rw [spelled, String.ofList_inj]
    exact (separator_cases ..).imp_right (congrArg String.ofList)
  · obtain ⟨front, rest⟩ := toUTF8_take_drop text position
    rw [← front, ← rest]
    simp only [String.ofList_append, String.toUTF8_eq_toByteArray, String.toByteArray_append,
      String.ofList_toList]
  · intro whole
    rw [whole] at placed ⊢
    obtain ⟨split, ended, kept⟩ := placed.betweenLines.rawLines_split within
    refine ⟨split, ?_⟩
    rw [String.toList_ofList, List.append_assoc, rawLines_append ended,
      rawLines_append (.inr whole), kept, List.append_assoc]

variable {anchor : Anchor} {payload : String} {lenient : Bool} {current : Option ByteArray}
  {content : ByteArray}

/-- An insertion that changes a file puts its payload into the text of the file, beside the place
that its anchor is found at, and leaves a text.
-/
theorem apply_insert_changed
    (changed : (insert placement anchor payload lenient).apply current = .ok (.changed content))
    : ∃ (text new : String) (span : Span) (position : Nat) (ending : String),
        current = some text.toUTF8
        ∧ anchor.locate text.toList = some span
        ∧ content = new.toUTF8
        ∧ Inserts text span placement payload position ending new := by
  obtain ⟨text, rfl, span, new, found, inserted, rfl⟩ := apply_insert_eq_changed changed
  obtain ⟨first, last⟩ := Anchor.locate_within found
  obtain ⟨position, ending, inserts⟩ := inserts_of_insertAt first last inserted
  exact ⟨text, String.ofList new, span, position, ending, rfl, found, rfl, inserts⟩

/-- A line after a last line that has no end, in which characters have several bytes. -/
theorem apply_insert_changed_last
    : (insert .after (.literal "do") "ß\n" false).apply (some "é do".toUTF8)
        = .ok (.changed "é do\nß\n".toUTF8)
      ∧ ∃ position ending,
          Inserts "é do" ⟨2, 4⟩ .after "ß\n" position ending "é do\nß\n" := by
  have changed : (insert .after (.literal "do") "ß\n" false).apply (some "é do".toUTF8)
      = .ok (.changed "é do\nß\n".toUTF8) := rfl
  have located : (Anchor.literal "do").locate "é do".toList = some ⟨2, 4⟩ := rfl
  obtain ⟨text, new, span, position, ending, before, found, after, inserts⟩ :=
    apply_insert_changed changed
  obtain rfl := toUTF8_inj.mp (Option.some.inj before)
  obtain rfl := toUTF8_inj.mp after
  obtain rfl := Option.some.inj (located.symm.trans found)
  exact ⟨changed, position, ending, inserts⟩

end Groundwork.Edit
