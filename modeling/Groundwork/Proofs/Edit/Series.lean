import Groundwork.Proofs.Edit.Presence

/-!
Edits made one after the other, each to what those before it left. Whole lines that are inserted
after one anchor, the less indented ones first, are all in the block there in the end, each of them
pushed down by those that came later; so none of them is ever inserted again.
-/

namespace Groundwork

open Groundwork.Text

-----------------------------------------------------------------------------------------
-- Edits one after the other
-----------------------------------------------------------------------------------------

/-- The content of a file after an edit. -/
def Edit.applied (current : Option ByteArray) (edit : Edit)
    : Except EditFault (Option ByteArray) :=
  match edit.apply current with
  | .error fault => .error fault
  | .ok .unchanged => .ok current
  | .ok (.changed content) => .ok (some content)

/-- The content of a file after edits, each of which is made to what those before it left. -/
def Edit.composed (edits : List Edit) (content : Option ByteArray)
    : Except EditFault (Option ByteArray) :=
  edits.foldlM applied content

/-- The outcomes of edits, each of which is made to what those before it left. -/
def Edit.outcomes : List Edit → Option ByteArray → List (Except EditFault EditOutcome)
  | [], _ => []
  | edit :: later, content =>
      edit.apply content :: outcomes later ((applied content edit).toOption.getD content)

theorem Edit.composed_concat {edits : List Edit} {edit : Edit} {loaded current : Option ByteArray}
    (goes : composed edits loaded = .ok current)
    : composed (edits ++ [edit]) loaded = applied current edit := by
  rw [composed, List.foldlM_append, show edits.foldlM applied loaded = .ok current from goes]
  change (applied current edit >>= pure) = _
  exact bind_pure _

/-- Edits that can be made one after the other can be made up to any of them. -/
theorem Edit.composed_left {edits later : List Edit} {loaded content : Option ByteArray}
    (goes : composed (edits ++ later) loaded = .ok content)
    : ∃ current, composed edits loaded = .ok current := by
  rw [composed, List.foldlM_append] at goes
  cases first : edits.foldlM applied loaded with
  | error fault =>
      rw [first] at goes
      cases goes
  | ok current => exact ⟨current, first⟩

/-- Edits that have nothing to do leave each other nothing to do; by induction on the edits. -/
theorem Edit.outcomes_of_idle {edits : List Edit} {text : String}
    (idle : ∀ edit ∈ edits, edit.Idle text)
    : outcomes edits (some text.toUTF8) = List.replicate edits.length (.ok .unchanged) := by
  induction edits with
  | nil => rfl
  | cons edit later ih =>
      obtain ⟨first, rest⟩ := List.forall_mem_cons.mp idle
      rw [Idle] at first
      have stays : (applied (some text.toUTF8) edit).toOption.getD (some text.toUTF8)
          = some text.toUTF8 := by
        rw [applied, first]
        rfl
      rw [outcomes, stays, first, ih rest]
      rfl

/-- Lines that stand after an insertion point still do when others come before them that may stand
in a block with them.
-/
theorem Placement.Stands.append {own region front : List (List Char)}
    (stands : after.Stands own region) (whole : [] ∉ own)
    (belong : ∀ line ∈ front, Belongs own line)
    : after.Stands own (front ++ region) := by
  obtain ⟨blank, -⟩ | ⟨-, is, run⟩ := stands
  · exact absurd blank whole
  · have near : after.Nearest _ (front ++ region) :=
      (List.prefix_append_right_inj front).mpr is.nearest
    exact .of_run whole near (List.forall_mem_append.mpr ⟨belong, is.belong⟩)
      (run.trans (List.suffix_append front _).isInfix)

namespace Edit

variable {sought payload : String} {lenient : Bool} {span : Span} {text : String}
  {series : List (String × Bool)}

-----------------------------------------------------------------------------------------
-- Insertions after one anchor
-----------------------------------------------------------------------------------------

/-- Insertions of payloads after one anchor, each of them strict or lenient. -/
def insertionsAfter (anchor : Anchor) (series : List (String × Bool)) : List Edit :=
  series.map fun entry => .insert .after anchor entry.1 entry.2

/-- A payload of whole lines, none of which is blank. -/
structure FilledLines (payload : String) : Prop where
  whole : isLinePayload payload.toList = true
  filled : [] ∉ plainLines payload.toList

/-- The indentation of the least indented line of a payload. -/
def payloadIndentation (payload : String) : Nat := leastIndentation (plainLines payload.toList)

/-- What a series of insertions after an anchor makes of a text: the anchor is found where it was,
the payloads stand after it, and so do lines that stood there and are indented no more than these.
-/
structure Gathers (sought : String) (span : Span) (series : List (String × Bool))
    (text new : String) : Prop where
  located : (Anchor.literal sought).locate new.toList = some span
  stand
    : ∀ entry ∈ series,
        Placement.after.Stands (plainLines entry.1.toList) (linesBeside new.toList span .after)
  keeps
    : ∀ {own : List (List Char)},
        [] ∉ own
        → (∀ entry ∈ series, leastIndentation own ≤ payloadIndentation entry.1)
        → Placement.after.Stands own (linesBeside text.toList span .after)
        → Placement.after.Stands own (linesBeside new.toList span .after)

/-- Whole lines that are inserted after a stretch come before the lines that were there. -/
theorem linesBeside_insertAt_after {text new payload : List Char} (inside : span.stop ≤ text.length)
    (whole : isLinePayload payload = true) (done : insertAt text span payload .after = some new)
    : linesBeside new span .after = plainLines payload ++ linesBeside text span .after := by
  obtain ⟨-, rfl⟩ := insertAt_eq_some_iff.mp done
  obtain ⟨-, within⟩ := insertionPoint_after_bounds inside true
  rw [whole, linesBeside, linesBeside]
  generalize point : insertionPoint text span .after true = position at within ⊢
  rw [List.append_assoc _ payload, insertionPoint_after_insert inside point,
    List.drop_left' (by rw [List.length_append, List.length_take_of_le within]),
    plainLines_append (.inr whole)]

/-- One insertion of whole lines gathers them: they stood after the anchor, or come first there. -/
theorem exists_gathers_one (found : (Anchor.literal sought).locate text.toList = some span)
    (filled : FilledLines payload) (lenient : Bool)
    : ∃ new : String,
        applied (some text.toUTF8) (insert .after (.literal sought) payload lenient)
          = .ok (some new.toUTF8)
        ∧ Gathers sought span [(payload, lenient)] text new := by
  obtain ⟨whole, filled⟩ := filled
  have inside := (Anchor.locate_within found).2
  have outcome
      : (insert .after (.literal sought) payload lenient).apply (some text.toUTF8)
        = .ok (outcomeOf (insertAt text.toList span payload.toList .after)) :=
    apply_insert_of_located found
  cases inserted : insertAt text.toList span payload.toList .after with
  | none =>
      rw [inserted] at outcome
      refine ⟨text, by rw [applied, outcome]; rfl, found, ?_, fun _ _ stands => stands⟩
      exact List.forall_mem_singleton.mpr ((idle_insertAfter_iff found whole).mp outcome)
  | some new =>
      rw [inserted] at outcome
      have lines := linesBeside_insertAt_after inside whole inserted
      refine ⟨String.ofList new, by rw [applied, outcome]; rfl, ?_, ?_, ?_⟩
      · rw [String.toList_ofList]
        exact Anchor.locate_literal_of_take found (take_of_insertAt_after inside inserted)
      · rw [String.toList_ofList, lines]
        exact List.forall_mem_singleton.mpr (Placement.Nearest.stands (List.prefix_append _ _))
      · intro own ownFilled deeper stands
        rw [String.toList_ofList, lines]
        refine stands.append ownFilled fun line member => ?_
        obtain ⟨visible, least⟩ := belongs_self filled line member
        exact ⟨visible, (deeper _ (List.mem_singleton_self _)).trans least⟩

/-- Whole lines that are inserted one after the other are gathered after the anchor, if none is
indented less than one before it; by induction on the series, each payload being kept by those after
it.
-/
theorem exists_gathers (found : (Anchor.literal sought).locate text.toList = some span)
    (filled : ∀ entry ∈ series, FilledLines entry.1)
    (deeper : series.Pairwise fun one two =>
      payloadIndentation one.1 ≤ payloadIndentation two.1)
    : ∃ new : String,
        composed (insertionsAfter (.literal sought) series) (some text.toUTF8)
          = .ok (some new.toUTF8)
        ∧ Gathers sought span series text new := by
  induction series generalizing text with
  | nil => exact ⟨text, rfl, found, nofun, fun _ _ stands => stands⟩
  | cons entry later ih =>
      obtain ⟨payload, lenient⟩ := entry
      obtain ⟨first, rest⟩ := List.forall_mem_cons.mp filled
      obtain ⟨before, sorted⟩ := List.pairwise_cons.mp deeper
      obtain ⟨middle, inserted, one⟩ := exists_gathers_one found first lenient
      obtain ⟨new, goesOn, more⟩ := ih one.located rest sorted
      refine ⟨new, ?_, more.located, List.forall_mem_cons.mpr ⟨?_, more.stand⟩, ?_⟩
      · rw [insertionsAfter, List.map_cons, composed, List.foldlM_cons, inserted]
        exact goesOn
      · exact more.keeps first.filled before (one.stand _ (List.mem_singleton_self _))
      · intro own ownFilled shallow stands
        obtain ⟨here, there⟩ := List.forall_mem_cons.mp shallow
        exact more.keeps ownFilled there
          (one.keeps ownFilled (List.forall_mem_singleton.mpr here) stands)

/-- Payloads of whole lines that are inserted after one literal anchor, none of them with blank
lines and none indented less than one before it, leave a text on which all of these insertions have
nothing to do, in any order and however often.
-/
theorem outcomes_insertionsAfter
    (found : ((Anchor.literal sought).locate text.toList).isSome = true)
    (filled : ∀ entry ∈ series, FilledLines entry.1)
    (deeper : series.Pairwise fun one two =>
      payloadIndentation one.1 ≤ payloadIndentation two.1)
    : ∃ new : String,
        composed (insertionsAfter (.literal sought) series) (some text.toUTF8)
          = .ok (some new.toUTF8)
        ∧ ∀ again : List Edit,
            (∀ edit ∈ again, edit ∈ insertionsAfter (.literal sought) series)
            → outcomes again (some new.toUTF8)
              = List.replicate again.length (.ok .unchanged) := by
  obtain ⟨span, found⟩ := Option.isSome_iff_exists.mp found
  obtain ⟨new, inserted, gathers⟩ := exists_gathers found filled deeper
  refine ⟨new, inserted, fun again among => outcomes_of_idle fun edit member => ?_⟩
  obtain ⟨entry, own, rfl⟩ := List.mem_map.mp (among edit member)
  exact (idle_insertAfter_iff gathers.located (filled entry own).whole).mpr
    (gathers.stand entry own)

/-- A line that is there already, and two lines that push it down and are asked for once more. -/
theorem outcomes_insertionsAfter_pushing
    : composed (insertionsAfter (.literal "do") [("  a\n", false), ("  b\r\n    c\n", true)])
          (some "do\n  a\nend".toUTF8)
        = .ok (some "do\n  b\r\n    c\n  a\nend".toUTF8)
      ∧ outcomes
          [.insert .after (.literal "do") "  a\n" false,
            .insert .after (.literal "do") "  b\r\n    c\n" true,
            .insert .after (.literal "do") "  a\n" false]
          (some "do\n  b\r\n    c\n  a\nend".toUTF8)
        = [.ok .unchanged, .ok .unchanged, .ok .unchanged] := by
  have made : composed
      (insertionsAfter (.literal "do") [("  a\n", false), ("  b\r\n    c\n", true)])
      (some "do\n  a\nend".toUTF8) = .ok (some "do\n  b\r\n    c\n  a\nend".toUTF8) := rfl
  have filled : ∀ entry ∈ [("  a\n", false), ("  b\r\n    c\n", true)], FilledLines entry.1 :=
    List.forall_mem_cons.mpr
      ⟨⟨rfl, by decide⟩, List.forall_mem_singleton.mpr ⟨rfl, by decide⟩⟩
  obtain ⟨new, inserted, again⟩ :=
    @outcomes_insertionsAfter "do" "do\n  a\nend" _ rfl filled (by decide)
  obtain rfl := toUTF8_inj.mp (Option.some.inj (Except.ok.inj (made.symm.trans inserted)))
  exact ⟨made, again _ (by simp [insertionsAfter])⟩

end Edit

end Groundwork
