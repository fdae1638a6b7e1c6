import Mathlib.Data.List.TakeWhile
import Groundwork.Proofs.Edit.Idempotency
import Groundwork.Proofs.Text.Lines

/-!
When lines count as being there already. Beside an insertion point there is a block, the lines next
to it that are neither blank nor indented less than the payload; whole lines are there if they stand
in that block together, or, if one of them is blank, if they are the nearest lines. After an anchor
this is all that decides; before an anchor the payload may also begin within a line.
-/

namespace Groundwork

open Groundwork.Text

variable {own region block other : List (List Char)} {line : List Char} {placement : Placement}

-----------------------------------------------------------------------------------------
-- Blocks of lines
-----------------------------------------------------------------------------------------

/-- The indentation of the least indented of some lines. -/
def leastIndentation (lines : List (List Char)) : Nat := (lines.map indentation).min?.getD 0

/-- A line that may stand in a block with some lines: one that is not blank, and indented at least
as much as the least indented of them.
-/
def Belongs (own : List (List Char)) (line : List Char) : Prop :=
  line ≠ [] ∧ leastIndentation own ≤ indentation line

instance : Decidable (Belongs own line) := inferInstanceAs (Decidable (_ ∧ _))

theorem leastIndentation_le (member : line ∈ own) : leastIndentation own ≤ indentation line :=
  List.min?_getD_le_of_mem (List.mem_map_of_mem member)

/-- Lines without a blank one among them stand in a block together. -/
theorem belongs_self (whole : [] ∉ own) : ∀ line ∈ own, Belongs own line :=
  fun _ member => ⟨fun blank => whole (blank ▸ member), leastIndentation_le member⟩

theorem leastIndentation_reverse (own : List (List Char))
    : leastIndentation own.reverse = leastIndentation own := by
  have same : (own.reverse.map indentation).min? = (own.map indentation).min? := by
    ext least
    simp only [List.map_reverse, List.min?_eq_some_iff, List.mem_reverse]
  rw [leastIndentation, leastIndentation, same]

/-- The lines of a region that are nearest to an insertion point: the first ones after it, the last
ones before it.
-/
def Placement.Nearest : Placement → List (List Char) → List (List Char) → Prop
  | .after, near, region => near <+: region
  | .before, near, region => near <:+ region

/-- The block of some lines: the longest stretch of lines next to an insertion point that may all
stand in it.
-/
structure Placement.Block (placement : Placement) (own region block : List (List Char)) : Prop where
  nearest : placement.Nearest block region
  belong : ∀ line ∈ block, Belongs own line
  longest
    : ∀ {other : List (List Char)},
        placement.Nearest other region
        → (∀ line ∈ other, Belongs own line)
        → other.length ≤ block.length

/-- Some lines stand next to an insertion point: in one run within their block, or exactly as the
nearest lines if one of them is blank.
-/
inductive Placement.Stands (placement : Placement) (own region : List (List Char)) : Prop
  | nearest (blank : [] ∈ own) (near : placement.Nearest own region)
  | inBlock {block : List (List Char)} (whole : [] ∉ own)
    (is : placement.Block own region block) (run : own <:+: block)

namespace Placement

/-- Seen from an insertion point, the lines before it are those after it in reverse. -/
theorem nearest_reverse
    : after.Nearest other.reverse region.reverse ↔ before.Nearest other region :=
  List.reverse_prefix

theorem block_reverse
    : after.Block own.reverse region.reverse block.reverse ↔ before.Block own region block := by
  have belong (lines : List (List Char))
      : (∀ line ∈ lines.reverse, Belongs own.reverse line) ↔ ∀ line ∈ lines, Belongs own line := by
    simp only [Belongs, leastIndentation_reverse, List.mem_reverse]
  constructor
  · rintro ⟨near, all, longest⟩
    refine ⟨nearest_reverse.mp near, (belong block).mp all, fun {other} near all => ?_⟩
    simpa using longest (nearest_reverse.mpr near) ((belong other).mpr all)
  · rintro ⟨near, all, longest⟩
    refine ⟨nearest_reverse.mpr near, (belong block).mpr all, fun {other} near all => ?_⟩
    rw [← List.reverse_reverse other] at near all
    simpa using longest (nearest_reverse.mp near) ((belong _).mp all)

theorem stands_reverse : after.Stands own.reverse region.reverse ↔ before.Stands own region := by
  constructor
  · rintro (⟨blank, near⟩ | @⟨block, whole, is, run⟩)
    · exact .nearest (List.mem_reverse.mp blank) (nearest_reverse.mp near)
    · rw [← List.reverse_reverse block] at is run
      exact .inBlock (fun blank => whole (List.mem_reverse.mpr blank)) (block_reverse.mp is)
        (List.reverse_infix.mp run)
  · rintro (⟨blank, near⟩ | ⟨whole, is, run⟩)
    · exact .nearest (List.mem_reverse.mpr blank) (nearest_reverse.mpr near)
    · exact .inBlock (fun blank => whole (List.mem_reverse.mp blank)) (block_reverse.mpr is)
        (List.reverse_infix.mpr run)

theorem block_after (own region : List (List Char))
    : after.Block own region (region.takeWhile (fun line => decide (Belongs own line))) := by
  refine ⟨List.takeWhile_prefix _, fun line member => ?_, fun {other} near all => ?_⟩
  · have kept := List.mem_takeWhile_imp member
    exact of_decide_eq_true kept
  · obtain ⟨rest, rfl⟩ := near
    rw [List.takeWhile_append_of_pos fun line member => decide_eq_true (all line member)]
    simp

theorem exists_block (placement : Placement) (own region : List (List Char))
    : ∃ block, placement.Block own region block := by
  cases placement with
  | after => exact ⟨_, block_after own region⟩
  | before =>
      have is := block_after own.reverse region.reverse
      rw [← List.reverse_reverse (List.takeWhile _ _)] at is
      exact ⟨_, block_reverse.mp is⟩

/-- Lines nearest to an insertion point that may all stand in a block are part of the block. -/
theorem Block.isInfix (is : placement.Block own region block)
    (near : placement.Nearest other region) (belong : ∀ line ∈ other, Belongs own line)
    : other <:+: block := by
  have short := is.longest near belong
  cases placement with
  | after => exact (List.prefix_of_prefix_length_le near is.nearest short).isInfix
  | before => exact (List.suffix_of_suffix_length_le near is.nearest short).isInfix

/-- Lines stand next to an insertion point if they are a run of nearest lines that may all stand in
a block with them.
-/
theorem Stands.of_run (whole : [] ∉ own) (near : placement.Nearest other region)
    (belong : ∀ line ∈ other, Belongs own line) (run : own <:+: other)
    : placement.Stands own region := by
  obtain ⟨block, is⟩ := exists_block placement own region
  exact .inBlock whole is (run.trans (is.isInfix near belong))

/-- Lines without a blank one stand next to an insertion point if they are a run in their block. -/
theorem Block.stands_iff (is : placement.Block own region block) (whole : [] ∉ own)
    : placement.Stands own region ↔ own <:+: block := by
  constructor
  · rintro (⟨blank, -⟩ | ⟨-, other, run⟩)
    · exact absurd blank whole
    · exact run.trans (is.isInfix other.nearest other.belong)
  · exact .inBlock whole is

/-- Lines with a blank one stand next to an insertion point if they are the nearest ones. -/
theorem stands_iff_of_blank (blank : [] ∈ own)
    : placement.Stands own region ↔ placement.Nearest own region := by
  constructor
  · rintro (⟨-, near⟩ | ⟨whole, -, -⟩)
    · exact near
    · exact absurd blank whole
  · exact .nearest blank

/-- The nearest lines stand next to an insertion point. -/
theorem Nearest.stands (near : placement.Nearest own region) : placement.Stands own region := by
  by_cases blank : [] ∈ own
  · exact .nearest blank near
  · exact .of_run blank near (belongs_self blank) (List.infix_refl own)

end Placement

namespace Edit

variable {text new payload front : List Char} {position : Nat} {span : Span}

-----------------------------------------------------------------------------------------
-- The tests for presence
-----------------------------------------------------------------------------------------

theorem isInBlock_iff (filled : own ≠ [])
    : isInBlock own region = true ↔ Placement.after.Stands own region := by
  have blank : own.any List.isEmpty = true ↔ [] ∈ own := by
    simp [List.any_eq_true]
  rw [isInBlock, if_neg (by simpa using filled)]
  split
  · next found =>
      rw [List.isPrefixOf_iff_prefix, Placement.stands_iff_of_blank (blank.mp found)]
      rfl
  · next none =>
      have test : (fun line => !line.isEmpty && decide (leastIndentation own ≤ indentation line))
          = fun line => decide (Belongs own line) := by
        funext line
        rw [Bool.eq_iff_iff, decide_eq_true_iff]
        simp [Belongs]
      change isRun own (region.takeWhile fun line =>
        !line.isEmpty && decide (leastIndentation own ≤ indentation line)) = true ↔ _
      rw [test, isRun_iff_infix]
      exact ((Placement.block_after own region).stands_iff
        fun found => none (blank.mpr found)).symm

theorem isInAdjacentBlock_iff (filled : plainLines payload ≠ [])
    : isInAdjacentBlock text payload placement = true
      ↔ placement.Stands (plainLines payload) (plainLines text) := by
  cases placement with
  | after => exact isInBlock_iff filled
  | before =>
      rw [← Placement.stands_reverse]
      exact isInBlock_iff (by simpa using filled)

theorem plainLines_payload_ne_nil (whole : isLinePayload payload = true)
    : plainLines payload ≠ [] := by
  obtain ⟨front, rfl⟩ := endsInNewline_iff.mp whole
  exact plainLines_ne_nil (List.concat_ne_nil _ _)

/-- Whole lines are found after a place exactly if they stand there. -/
theorem isPresent_after_iff (whole : isLinePayload payload = true)
    : isPresent text position payload .after = true
      ↔ Placement.after.Stands (plainLines payload) (plainLines (text.drop position)) := by
  have filled := plainLines_payload_ne_nil whole
  simp only [isPresent, whole, Bool.true_and, Bool.or_eq_true, List.isPrefixOf_iff_prefix,
    isInAdjacentBlock_iff filled, or_iff_right_iff_imp]
  rintro ⟨rest, same⟩
  rw [← same, plainLines_append (.inr whole)]
  exact Placement.Nearest.stands (List.prefix_append _ _)

/-- Whole lines are found before a place if they stand there, and also if what stands there is the
end of a longer line and the lines after it.
-/
theorem isPresent_before_iff (whole : isLinePayload payload = true)
    : isPresent text position payload .before = true
      ↔ Placement.before.Stands (plainLines payload) (plainLines (text.take position))
        ∨ ∃ front, ¬ EndsLine front ∧ text.take position = front ++ payload := by
  have filled := plainLines_payload_ne_nil whole
  simp only [isPresent, whole, Bool.true_and, Bool.or_eq_true, List.isSuffixOf_iff_suffix,
    isInAdjacentBlock_iff filled]
  constructor
  · rintro (⟨front, same⟩ | stands)
    -- Only a payload that begins a line is made of lines of the text.
    · by_cases ended : EndsLine front
      · left
        rw [← same, plainLines_append ended]
        exact Placement.Nearest.stands (List.suffix_append _ _)
      · exact .inr ⟨front, ended, same.symm⟩
    · exact .inl stands
  · rintro (stands | ⟨front, -, same⟩)
    · exact .inr stands
    · exact .inl ⟨front, same.symm⟩

-----------------------------------------------------------------------------------------
-- Insertions that have nothing to do
-----------------------------------------------------------------------------------------

variable {anchor : Anchor} {payload : String} {lenient : Bool} {text : String}

/-- An edit has nothing to do on a text. -/
def Idle (edit : Edit) (text : String) : Prop := edit.apply (some text.toUTF8) = .ok .unchanged

/-- The lines that whole lines inserted beside a stretch come next to: those after the insertion
point, or those before it.
-/
def linesBeside (text : List Char) (span : Span) : Placement → List (List Char)
  | .after => plainLines (text.drop (insertionPoint text span .after true))
  | .before => plainLines (text.take (insertionPoint text span .before true))

theorem idle_insert_iff (found : anchor.locate text.toList = some span)
    : (insert placement anchor payload lenient).Idle text
      ↔ isPresent text.toList
          (insertionPoint text.toList span placement (isLinePayload payload.toList)) payload.toList
          placement = true := by
  rw [Idle, apply_insert_of_located found, insertAt]
  split
  · next there => simp [there, outcomeOf]
  · next missing => simp [missing, outcomeOf]

/-- Whole lines have nothing to do after an anchor exactly if they stand there. -/
theorem idle_insertAfter_iff (found : anchor.locate text.toList = some span)
    (whole : isLinePayload payload.toList = true)
    : (insert .after anchor payload lenient).Idle text
      ↔ Placement.after.Stands (plainLines payload.toList)
          (linesBeside text.toList span .after) := by
  rw [idle_insert_iff found, whole, isPresent_after_iff whole]
  rfl

/-- Regions after an insertion point that are the same as far as some lines are compared with them:
in all lines, in as many as are compared if one of those is blank, or else in the block.
-/
inductive SameNearby (own one two : List (List Char)) : Prop
  | all (same : one = two)
  | nearest (blank : [] ∈ own) (same : one.take own.length = two.take own.length)
  | inBlock {block : List (List Char)} (whole : [] ∉ own)
    (first : Placement.after.Block own one block) (second : Placement.after.Block own two block)

theorem SameNearby.stands_iff {one two : List (List Char)} (same : SameNearby own one two)
    : Placement.after.Stands own one ↔ Placement.after.Stands own two := by
  cases same with
  | all same => rw [same]
  | nearest blank same =>
      rw [Placement.stands_iff_of_blank blank, Placement.stands_iff_of_blank blank]
      simp only [Placement.Nearest, List.prefix_iff_eq_take, same]
  | inBlock whole first second => rw [first.stands_iff whole, second.stands_iff whole]

/-- The text with carriage returns in what comes after the insertion point of whole lines. -/
def returningAfter (text : List Char) (span : Span) : List Char :=
  text.take (insertionPoint text span .after true)
    ++ withReturns (text.drop (insertionPoint text span .after true))

theorem insertionPoint_returningAfter {text : List Char} (inside : span.stop ≤ text.length)
    : insertionPoint (returningAfter text span) span .after true
      = insertionPoint text span .after true := by
  obtain ⟨-, within⟩ := insertionPoint_after_bounds inside true
  rw [returningAfter]
  generalize point : insertionPoint text span .after true = position at within ⊢
  -- At the end of the text nothing comes after; before that no line has to be ended.
  by_cases last : position = text.length
  · rw [last, List.drop_length, List.take_length]
    rw [withReturns, List.flatMap_nil, List.append_nil, point, last]
  · have unended : separator text position true = [] := by simp [separator, last]
    have stays := insertionPoint_after_insert inside point (withReturns (text.drop position))
    rwa [unended, List.append_nil] at stays

/-- Carriage returns after an insertion point leave the lines there as they are. -/
theorem linesBeside_returningAfter {text : List Char} (inside : span.stop ≤ text.length)
    : linesBeside (returningAfter text span) span .after = linesBeside text span .after := by
  obtain ⟨-, within⟩ := insertionPoint_after_bounds inside true
  rw [linesBeside, insertionPoint_returningAfter inside, returningAfter,
    List.drop_left' (List.length_take_of_le within), plainLines_withReturns]
  rfl

/-- Whole lines are inserted after an anchor unless they stand there. That depends on no more than
the lines after the insertion point as far as they are compared, with or without carriage returns.
-/
theorem idle_insertAfter (found : anchor.locate text.toList = some span)
    (whole : isLinePayload payload.toList = true)
    : ((insert .after anchor payload lenient).Idle text
        ↔ Placement.after.Stands (plainLines payload.toList) (linesBeside text.toList span .after))
      ∧ (∀ (other : String) (place : Span),
          anchor.locate other.toList = some place
          → SameNearby (plainLines payload.toList) (linesBeside text.toList span .after)
              (linesBeside other.toList place .after)
          → ((insert .after anchor payload lenient).Idle other
              ↔ (insert .after anchor payload lenient).Idle text))
      ∧ ∀ other : String,
          other.toList = returningAfter text.toList span
          → (anchor.isPattern = true → anchor.locate other.toList = some span)
          → ((insert .after anchor payload lenient).Idle other
              ↔ (insert .after anchor payload lenient).Idle text) := by
  have alike (other : String) (place : Span) (again : anchor.locate other.toList = some place)
      (same : SameNearby (plainLines payload.toList) (linesBeside text.toList span .after)
        (linesBeside other.toList place .after))
      : (insert .after anchor payload lenient).Idle other
        ↔ (insert .after anchor payload lenient).Idle text := by
    rw [idle_insertAfter_iff found whole, idle_insertAfter_iff again whole, same.stands_iff]
  refine ⟨idle_insertAfter_iff found whole, alike, fun other returning stays => ?_⟩
  obtain ⟨-, inside⟩ := Anchor.locate_within found
  have again : anchor.locate other.toList = some span := by
    cases anchor with
    | pattern sought => exact stays rfl
    | literal sought =>
        -- The text stays as it is up to the insertion point, and so up to the end of the anchor.
        obtain ⟨past, within⟩ := insertionPoint_after_bounds inside true
        refine Anchor.locate_literal_of_take found ?_
        rw [returning, returningAfter,
          List.take_append_of_le_length (by rwa [List.length_take_of_le within]), List.take_take,
          Nat.min_eq_left past]
  exact alike other span again (.all (by rw [returning, linesBeside_returningAfter inside]))

/-- A line in a block whose lines come to end in carriage returns, and lines with a blank one. -/
theorem idle_insertAfter_returning
    : (insert .after (.literal "do") "  b\n" false).Idle "do\n  a\n  b\nend\n"
      ∧ (insert .after (.literal "do") "  b\n" false).Idle "do\n  a\r\n  b\r\nend\r\n"
      ∧ (insert .after (.literal "do") "  a\n\n" false).Idle "do\n  a\n\n  a\n" := by
  have there : (insert .after (.literal "do") "  b\n" false).Idle "do\n  a\n  b\nend\n" := rfl
  have within :=
    @idle_insertAfter ⟨0, 2⟩ (.literal "do") "  b\n" false "do\n  a\n  b\nend\n" rfl rfl
  have exactly :=
    @idle_insertAfter ⟨0, 2⟩ (.literal "do") "  a\n\n" false "do\n  a\n\n  a\n" rfl rfl
  refine ⟨there, (within.2.2 "do\n  a\r\n  b\r\nend\r\n" rfl nofun).mpr there, ?_⟩
  exact exactly.1.mpr (.nearest (.tail _ (.head _)) ⟨["  a".toList], rfl⟩)

/-- Whole lines are inserted before an anchor unless they stand there, or the text before the
insertion point ends with them from within a line on.
-/
theorem idle_insertBefore (found : anchor.locate text.toList = some span)
    (whole : isLinePayload payload.toList = true)
    : ((insert .before anchor payload lenient).Idle text
        ↔ Placement.before.Stands (plainLines payload.toList)
            (linesBeside text.toList span .before)
          ∨ ∃ front, ¬ EndsLine front
            ∧ text.toList.take (insertionPoint text.toList span .before true)
              = front ++ payload.toList)
      ∧ (¬ (insert .before anchor payload lenient).Idle text
          → ∃ content,
              (insert .before anchor payload lenient).apply (some text.toUTF8)
                = .ok (.changed content)) := by
  constructor
  · rw [idle_insert_iff found, whole, isPresent_before_iff whole]
    rfl
  · intro busy
    cases inserted : insertAt text.toList span payload.toList .before with
    | none => exact absurd ((apply_insert_of_located found).trans (by rw [inserted]; rfl)) busy
    | some new => exact ⟨_, (apply_insert_of_located found).trans (by rw [inserted]; rfl)⟩

/-- Lines with a blank one, and a line that a line indented less keeps out of the block. -/
theorem idle_insertBefore_blank
    : (insert .before (.literal "end") "  a\n\n" false).Idle "do\n  a \r\n\nend\n"
      ∧ ∃ content,
          (insert .before (.literal "end") "  a\n" false).apply (some "  a\ndo\nend\n".toUTF8)
            = .ok (.changed content) := by
  have exactly :=
    @idle_insertBefore ⟨10, 13⟩ (.literal "end") "  a\n\n" false "do\n  a \r\n\nend\n" rfl rfl
  have apart :=
    @idle_insertBefore ⟨7, 10⟩ (.literal "end") "  a\n" false "  a\ndo\nend\n" rfl rfl
  exact ⟨exactly.1.mpr (.inl (.nearest (.tail _ (.head _)) ⟨["do".toList], rfl⟩)), apart.2 nofun⟩

/-- A line is passed over before an anchor if the line there only ends with it. -/
theorem insertBefore_within_line
    : (Anchor.literal "end").locate "# gem pg\nend\n".toList = some ⟨9, 12⟩
      ∧ (insert .before (.literal "end") "gem pg\n" false).Idle "# gem pg\nend\n"
      ∧ ¬ Placement.before.Stands (plainLines "gem pg\n".toList)
          (linesBeside "# gem pg\nend\n".toList ⟨9, 12⟩ .before) := by
  refine ⟨rfl, rfl, fun stands => ?_⟩
  have found : isInAdjacentBlock "# gem pg\n".toList "gem pg\n".toList .before = true :=
    (isInAdjacentBlock_iff (by decide)).mpr stands
  exact absurd found (by decide)

end Edit

end Groundwork
