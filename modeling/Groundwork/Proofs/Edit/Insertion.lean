import Groundwork.Edit
import Groundwork.Proofs.Text.Occurrence

/-!
Insertions beside a stretch of a text. What was inserted is found to be there when the same is to be
inserted again, beside the stretch or beside the place that it was moved to.
-/

namespace Groundwork

/-- A stretch so many characters further on. -/
def Span.moved (span : Span) (count : Nat) : Span := ⟨span.start + count, span.stop + count⟩

@[simp]
theorem Span.moved_start (span : Span) (count : Nat) : (span.moved count).start = span.start + count :=
  rfl

namespace Edit

open Groundwork.Text

variable {text new payload before line rest : List Char} {position start stop : Nat} {span : Span}

-----------------------------------------------------------------------------------------
-- Ends and starts of lines
-----------------------------------------------------------------------------------------

/-- A text that a line begins after: nothing, or one that ends in a newline. -/
def EndsLine (before : List Char) : Prop := before = [] ∨ endsInNewline before = true

theorem endsInNewline_append (before : List Char) (ends : endsInNewline payload = true)
    : endsInNewline (before ++ payload) = true := by
  rw [endsInNewline, beq_iff_eq] at ends ⊢
  rw [List.getLast?_append, ends]
  rfl

theorem EndsLine.of_append (ends : EndsLine (before ++ line)) (whole : '\n' ∉ line)
    : EndsLine before := by
  obtain empty | ended := ends
  · exact .inl (List.append_eq_nil_iff.mp empty).1
  · rw [endsInNewline, beq_iff_eq, List.getLast?_append] at ended
    cases last : line.getLast? with
    | none =>
        rw [last, Option.none_or] at ended
        exact .inr (by rw [endsInNewline, ended, beq_self_eq_true])
    | some c =>
        rw [last, Option.some_or] at ended
        cases ended
        exact absurd (List.mem_of_getLast? last) whole

/-- The first newline of a text ends the line that stands before it. -/
theorem afterNewline?_append (whole : '\n' ∉ line) (rest : List Char)
    : afterNewline? (line ++ '\n' :: rest) = some (line.length + 1) := by
  induction line with
  | nil => rfl
  | cons c line ih =>
      rw [List.mem_cons, not_or] at whole
      obtain ⟨other, whole⟩ := whole
      have passed : (c == '\n') = false := beq_false_of_ne (Ne.symm other)
      have later := ih whole
      simp only [afterNewline?, Option.map_eq_some_iff] at later ⊢
      obtain ⟨index, found, counted⟩ := later
      refine ⟨index + 1, ?_, by simpa using counted⟩
      rw [List.cons_append, List.findIdx?_cons, passed, found]
      rfl

theorem afterNewline?_of_notMem (whole : '\n' ∉ line) : afterNewline? line = none := by
  have absent : line.findIdx? (· == '\n') = none :=
    List.findIdx?_eq_none_iff.mpr fun c member => beq_false_of_ne fun same => whole (same ▸ member)
  rw [afterNewline?, absent]
  rfl

/-- Where the line that a position lies in ends: right there, after the next newline, or with the
text.
-/
inductive LineEnd (text : List Char) (position : Nat) : Nat → Prop
  | here (ended : EndsLine (text.take position)) : LineEnd text position position
  | newline {line rest : List Char} (within : ¬ EndsLine (text.take position))
      (split : text.drop position = line ++ '\n' :: rest) (whole : '\n' ∉ line)
    : LineEnd text position (position + (line.length + 1))
  | last (within : ¬ EndsLine (text.take position)) (whole : '\n' ∉ text.drop position)
    : LineEnd text position text.length

/-- The test for a line end at a position. -/
theorem endsLine_take_iff (inside : position ≤ text.length)
    : (position == 0 || endsInNewline (text.take position)) = true
      ↔ EndsLine (text.take position) := by
  have start : text.take position = [] ↔ position = 0 := by
    rw [List.take_eq_nil_iff]
    constructor
    · rintro (rfl | rfl)
      · rfl
      · exact Nat.le_zero.mp inside
    · exact .inl
  simp [EndsLine, start]

theorem LineEnd.lineEndAt (ends : LineEnd text position stop) (inside : position ≤ text.length)
    : lineEndAt text position = stop := by
  rw [Edit.lineEndAt]
  cases ends with
  | here ended => rw [if_pos ((endsLine_take_iff inside).mpr ended)]
  | newline within split whole =>
      rw [if_neg fun ended => within ((endsLine_take_iff inside).mp ended), split,
        afterNewline?_append whole]
  | last within whole =>
      rw [if_neg fun ended => within ((endsLine_take_iff inside).mp ended),
        afterNewline?_of_notMem whole]

theorem LineEnd.bounds (ends : LineEnd text position stop) (inside : position ≤ text.length)
    : position ≤ stop ∧ stop ≤ text.length := by
  cases ends with
  | here => exact ⟨Nat.le_refl _, inside⟩
  | newline within split whole =>
      have lengths := congrArg List.length split
      simp only [List.length_drop, List.length_append, List.length_cons] at lengths
      omega
  | last => exact ⟨inside, Nat.le_refl _⟩

theorem lineEnd_lineEndAt (inside : position ≤ text.length)
    : LineEnd text position (lineEndAt text position) := by
  by_cases ended : EndsLine (text.take position)
  · have ends := LineEnd.here ended
    rwa [ends.lineEndAt inside]
  by_cases found : '\n' ∈ text.drop position
  · obtain ⟨line, rest, split, whole⟩ := List.eq_append_cons_of_mem found
    have ends := LineEnd.newline ended split whole
    rwa [ends.lineEndAt inside]
  · have ends := LineEnd.last ended found
    rwa [ends.lineEndAt inside]

/-- Where the line that a position lies in starts: after whole lines, with no newline from there up
to the position.
-/
structure LineStart (text : List Char) (position start : Nat) : Prop where
  upTo : start ≤ position
  starts : EndsLine (text.take start)
  whole : '\n' ∉ (text.take position).drop start

theorem LineStart.lineStartAt (starts : LineStart text position start)
    (inside : position ≤ text.length) : lineStartAt text position = start := by
  have split : text.take position = text.take start ++ (text.take position).drop start := by
    rw [← Nat.min_eq_left starts.upTo, ← List.take_take, Nat.min_eq_left starts.upTo,
      List.take_append_drop]
  have kept : ∀ c ∈ ((text.take position).drop start).reverse, (c != '\n') = true :=
    fun c member => bne_iff_ne.mpr fun same => starts.whole (same ▸ List.mem_reverse.mp member)
  have stopped : (text.take start).reverse.takeWhile (· != '\n') = [] := by
    obtain empty | ends := starts.starts
    · rw [empty]
      rfl
    · rw [endsInNewline, beq_iff_eq, List.getLast?_eq_head?_reverse] at ends
      obtain ⟨lines, reversed⟩ := List.head?_eq_some_iff.mp ends
      rw [reversed]
      rfl
  have upTo := starts.upTo
  rw [Edit.lineStartAt, split, List.reverse_append, List.takeWhile_append_of_pos kept, stopped,
    List.append_nil, List.length_reverse, List.length_drop, List.length_take_of_le inside]
  omega

theorem lineStart_lineStartAt (inside : position ≤ text.length)
    : LineStart text position (lineStartAt text position) := by
  have found : ∃ start, LineStart text position start := by
    by_cases broken : '\n' ∈ (text.take position).reverse
    · obtain ⟨line, lines, split, whole⟩ := List.eq_append_cons_of_mem broken
      have split : text.take position = lines.reverse ++ ['\n'] ++ line.reverse := by
        simpa using congrArg List.reverse split
      have upTo : (lines.reverse ++ ['\n']).length ≤ position := by
        have lengths := congrArg List.length split
        rw [List.length_take_of_le inside, List.length_append] at lengths
        omega
      refine ⟨(lines.reverse ++ ['\n']).length, upTo, ?_, ?_⟩
      · rw [← Nat.min_eq_left upTo, ← List.take_take, split, List.take_left]
        exact .inr (endsInNewline_append lines.reverse rfl)
      · rw [split, List.drop_left]
        simpa using whole
    · exact ⟨0, Nat.zero_le _, .inl rfl, by simpa using broken⟩
  obtain ⟨start, starts⟩ := found
  rwa [starts.lineStartAt inside]

-----------------------------------------------------------------------------------------
-- The place of an insertion
-----------------------------------------------------------------------------------------

/-- No line has to be ended where one begins. -/
theorem separator_of_endsLine (ends : EndsLine (text.take position)) (lines : Bool)
    : separator text position lines = [] := by
  rw [separator, if_neg]
  simp only [Bool.and_eq_true, beq_iff_eq, Bool.not_eq_true', List.isEmpty_eq_false_iff]
  rintro ⟨⟨⟨-, rfl⟩, filled⟩, unended⟩
  rw [List.take_length] at ends
  obtain rfl | ended := ends
  · exact filled rfl
  · exact Bool.false_ne_true (unended.symm.trans ended)

/-- A last line without an end is ended before lines that come after it. -/
theorem separator_of_last (within : ¬ EndsLine (text.take position))
    (whole : '\n' ∉ text.drop position) : separator text text.length true = ['\n'] := by
  have unended : ¬ EndsLine text := fun ended => within <|
    EndsLine.of_append (by rwa [List.take_append_drop]) whole
  obtain ⟨filled, unended⟩ := not_or.mp unended
  rw [separator, if_pos]
  simpa using And.intro filled unended

/-- The end of a line is where its end is once more after an insertion there, or after the newline
that the insertion came with.
-/
theorem lineEndAt_insert (inside : position ≤ text.length)
    (point : lineEndAt text position = stop) (rest : List Char)
    : lineEndAt (text.take stop ++ separator text stop true ++ rest) position
      = stop + (separator text stop true).length := by
  have ends := point ▸ lineEnd_lineEndAt inside
  have length : (text.take position).length = position := List.length_take_of_le inside
  cases ends with
  | here ended =>
      rw [separator_of_endsLine ended, List.append_nil]
      refine LineEnd.lineEndAt (.here ?_) (by simp [inside])
      rwa [List.take_left' length]
  | @newline line after within split whole =>
      have upTo : text.take (position + (line.length + 1))
          = text.take position ++ (line ++ ['\n']) := by
        rw [List.take_add, split, List.append_cons line '\n' after, List.take_left' (by simp)]
      have ended : EndsLine (text.take (position + (line.length + 1))) := by
        rw [upTo, ← List.append_assoc]
        exact .inr (endsInNewline_append _ rfl)
      rw [separator_of_endsLine ended, List.append_nil, upTo]
      refine LineEnd.lineEndAt (@LineEnd.newline _ _ _ rest ?_ ?_ whole) (by simp; omega)
      · rwa [List.append_assoc, List.take_left' length]
      · simp [List.drop_left' length]
  | last within whole =>
      have past : position + ((text.drop position).length + 1) = text.length + 1 := by
        rw [List.length_drop]
        omega
      rw [separator_of_last within whole, List.take_length, List.length_singleton, ← past,
        List.append_assoc]
      refine LineEnd.lineEndAt (@LineEnd.newline _ _ _ rest ?_ ?_ whole) (by simp; omega)
      · rwa [List.take_append_of_le_length inside]
      · rw [List.drop_append_of_le_length inside]
        rfl

-----------------------------------------------------------------------------------------
-- Insertions made again
-----------------------------------------------------------------------------------------

/-- What an insertion made of a text, and where the payload was missing. -/
theorem insertAt_eq_some_iff {placement : Placement}
    : insertAt text span payload placement = some new
      ↔ isPresent text (insertionPoint text span placement (isLinePayload payload)) payload placement
          = false
        ∧ new = text.take (insertionPoint text span placement (isLinePayload payload))
            ++ separator text (insertionPoint text span placement (isLinePayload payload))
              (isLinePayload payload)
            ++ payload
            ++ text.drop (insertionPoint text span placement (isLinePayload payload)) := by
  rw [insertAt]
  split
  · next there => simp [there]
  · next missing => simp [missing, eq_comm]

/-- A payload that stands at the insertion point is not inserted again. -/
theorem insertAt_eq_none {placement : Placement}
    (there : isPresent text (insertionPoint text span placement (isLinePayload payload)) payload
      placement = true)
    : insertAt text span payload placement = none := by
  rw [insertAt, if_pos there]

/-- Insertions after a stretch go between its end and the end of the text. -/
theorem insertionPoint_after_bounds (inside : span.stop ≤ text.length) (lines : Bool)
    : span.stop ≤ insertionPoint text span .after lines
      ∧ insertionPoint text span .after lines ≤ text.length := by
  cases lines with
  | false => exact ⟨Nat.le_refl _, inside⟩
  | true => exact (lineEnd_lineEndAt inside).bounds inside

/-- The place of an insertion after a stretch stays, but for the newline that the insertion came
with.
-/
theorem insertionPoint_after_insert (inside : span.stop ≤ text.length) {lines : Bool}
    (point : insertionPoint text span .after lines = position) (rest : List Char)
    : insertionPoint (text.take position ++ separator text position lines ++ rest) span .after lines
      = position + (separator text position lines).length := by
  cases lines with
  | false =>
      cases point
      simp [insertionPoint, separator]
  | true => exact lineEndAt_insert inside point rest

/-- An insertion after a stretch leaves all up to the end of the stretch as it is. -/
theorem take_of_insertAt_after (inside : span.stop ≤ text.length)
    (done : insertAt text span payload .after = some new)
    : new.take span.stop = text.take span.stop := by
  obtain ⟨-, rfl⟩ := insertAt_eq_some_iff.mp done
  obtain ⟨past, within⟩ := insertionPoint_after_bounds inside (isLinePayload payload)
  simp only [List.append_assoc]
  rw [List.take_append_of_le_length (by rwa [List.length_take_of_le within]), List.take_take,
    Nat.min_eq_left past]

/-- An insertion after a stretch is not made again. -/
theorem insertAt_after_again (inside : span.stop ≤ text.length)
    (done : insertAt text span payload .after = some new)
    : insertAt new span payload .after = none := by
  obtain ⟨-, rfl⟩ := insertAt_eq_some_iff.mp done
  obtain ⟨-, within⟩ := insertionPoint_after_bounds inside (isLinePayload payload)
  generalize point : insertionPoint text span .after (isLinePayload payload) = position at within ⊢
  apply insertAt_eq_none
  rw [List.append_assoc _ payload, insertionPoint_after_insert inside point, isPresent,
    List.drop_left' (by rw [List.length_append, List.length_take_of_le within])]
  simp

/-- Insertions before a stretch go between the start of the text and the start of the stretch, where
no line has to be ended.
-/
theorem insertionPoint_before_spec (inside : span.start ≤ text.length) (lines : Bool)
    : insertionPoint text span .before lines ≤ span.start
      ∧ separator text (insertionPoint text span .before lines) lines = [] := by
  cases lines with
  | false => exact ⟨Nat.le_refl _, by simp [separator]⟩
  | true =>
      have starts := lineStart_lineStartAt inside
      exact ⟨starts.upTo, separator_of_endsLine starts.starts true⟩

/-- The place of an insertion before a stretch moves with the stretch. -/
theorem insertionPoint_before_insert (inside : span.start ≤ text.length)
    (point : insertionPoint text span .before (isLinePayload payload) = position)
    : insertionPoint (text.take position ++ payload ++ text.drop position)
        (span.moved payload.length) .before (isLinePayload payload)
      = position + payload.length := by
  cases lines : isLinePayload payload with
  | false =>
      rw [lines] at point
      cases point
      rfl
  | true =>
      rw [lines] at point
      have starts : LineStart text span.start position := point ▸ lineStart_lineStartAt inside
      have upTo := starts.upTo
      have length : (text.take position ++ payload).length = position + payload.length := by
        rw [List.length_append, List.length_take_of_le (by omega)]
      refine LineStart.lineStartAt ⟨by simpa using upTo, ?_, ?_⟩ ?_
      · rw [List.take_left' length]
        exact .inr (endsInNewline_append _ lines)
      · rw [List.drop_take, List.drop_left' length, Span.moved_start, Nat.add_sub_add_right,
          ← List.drop_take]
        exact starts.whole
      · simp
        omega

/-- An insertion before a stretch puts the payload before it, and leaves the rest as it is. -/
theorem insertAt_before_spec (inside : span.start ≤ text.length)
    (done : insertAt text span payload .before = some new)
    : ∃ position ≤ span.start,
        insertionPoint text span .before (isLinePayload payload) = position
        ∧ new = text.take position ++ payload ++ text.drop position := by
  obtain ⟨-, rfl⟩ := insertAt_eq_some_iff.mp done
  obtain ⟨upTo, unended⟩ := insertionPoint_before_spec inside (isLinePayload payload)
  exact ⟨_, upTo, rfl, by rw [unended, List.append_nil]⟩

/-- An insertion before a stretch is not made again before the place that the stretch moved to. -/
theorem insertAt_before_again (inside : span.start ≤ text.length)
    (done : insertAt text span payload .before = some new)
    : insertAt new (span.moved payload.length) payload .before = none := by
  obtain ⟨position, upTo, point, rfl⟩ := insertAt_before_spec inside done
  apply insertAt_eq_none
  rw [insertionPoint_before_insert inside point, isPresent,
    List.take_left' (by rw [List.length_append, List.length_take_of_le (by omega)])]
  simp

end Edit

end Groundwork
