import Groundwork.Proofs.Edit.Idempotency
import Groundwork.Proofs.Text.Occurrence

/-!
Literal anchors that are searched for, listed and replaced. Each of these goes through the text by a
scan of its own, and all pick the same places: the one found first is the first of those listed, and
what is replaced is that one or all of them, while the text between them is kept.
-/

namespace Groundwork

open Groundwork.Text

-----------------------------------------------------------------------------------------
-- Stretches that spell a text
-----------------------------------------------------------------------------------------

namespace Span

variable {span : Span} {text sought : String} {needle replacement content : List Char}
  {position start : Nat} {starts : List Nat}

/-- A stretch of a text that spells another text. -/
structure Spells (span : Span) (text sought : String) : Prop where
  ordered : span.start ≤ span.stop
  within : span.stop ≤ text.toList.length
  spelled : (text.toList.take span.stop).drop span.start = sought.toList

/-- Two stretches that share a character. -/
def Overlaps (one two : Span) : Prop := one.start < two.stop ∧ two.start < one.stop

/-- The stretch as long as a text that begins at a position. -/
def spanning (needle : List Char) (start : Nat) : Span := ⟨start, start + needle.length⟩

/-- The stretches that spell a text are those as long as it where it stands. -/
theorem spells_iff (filled : sought ≠ "")
    : span.Spells text sought
      ↔ sought.toList <+: text.toList.drop span.start
        ∧ span = spanning sought.toList span.start := by
  obtain ⟨start, stop⟩ := span
  constructor
  · rintro ⟨ordered, within, spelled⟩
    have length := congrArg List.length spelled
    rw [List.length_drop, List.length_take_of_le within] at length
    obtain rfl : stop = start + sought.toList.length := by dsimp only at *; omega
    rw [List.drop_take, Nat.add_sub_cancel_left] at spelled
    exact ⟨List.prefix_iff_eq_take.mpr spelled.symm, rfl⟩
  · rintro ⟨there, spans⟩
    obtain rfl : stop = start + sought.toList.length := congrArg Span.stop spans
    refine ⟨Nat.le_add_right _ _, ?_, ?_⟩
    · exact stop_le_of_prefix_drop (mt String.toList_eq_nil_iff.mp filled) there
    · rw [List.drop_take, Nat.add_sub_cancel_left]
      exact (List.prefix_iff_eq_take.mp there).symm

/-- The bytes of a stretch of a text that spells another one are the bytes of that one. -/
theorem Spells.bytes (spells : span.Spells text sought)
    : text.toUTF8.extract (span.bytes text.toList).1 (span.bytes text.toList).2 = sought.toUTF8 := by
  have upTo : text.toList.take span.stop = text.toList.take span.start ++ sought.toList := by
    rw [← List.take_append_drop span.start (text.toList.take span.stop), spells.spelled,
      List.take_take, Nat.min_eq_left spells.ordered]
  have parted : text
      = String.ofList (text.toList.take span.start)
        ++ (sought ++ String.ofList (text.toList.drop span.stop)) := by
    rw [← String.toList_inj, String.toList_append, String.toList_append, String.toList_ofList,
      String.toList_ofList, ← List.append_assoc, ← upTo, List.take_append_drop]
  have first : byteLength (text.toList.take span.start)
      = (String.ofList (text.toList.take span.start)).toByteArray.size := byteLength_eq _
  have second : byteLength (text.toList.take span.stop)
      = byteLength (text.toList.take span.start) + sought.toByteArray.size := by
    rw [upTo, byteLength_eq, byteLength_eq, String.ofList_append, String.utf8ByteSize_append,
      String.ofList_toList]
    rfl
  have bytes : text.toByteArray
      = (String.ofList (text.toList.take span.start)).toByteArray
        ++ (sought.toByteArray ++ (String.ofList (text.toList.drop span.stop)).toByteArray) := by
    rw [← String.toByteArray_append, ← String.toByteArray_append, ← parted]
  rw [Span.bytes, second, String.toUTF8_eq_toByteArray, String.toUTF8_eq_toByteArray, bytes,
    ← Nat.add_zero (byteLength (text.toList.take span.start)), Nat.add_assoc, Nat.zero_add,
    ByteArray.extract_append_size_add' first, ByteArray.extract_append_eq_left rfl]

-----------------------------------------------------------------------------------------
-- Texts with stretches replaced
-----------------------------------------------------------------------------------------

/-- What a text has from a position on, with a replacement for stretches that come in order. -/
def substitutedFrom (replacement text : List Char) (position : Nat) : List Span → List Char
  | [] => text.drop position
  | span :: later =>
      (text.take span.start).drop position ++ replacement
        ++ substitutedFrom replacement text span.stop later

/-- A text with a replacement for stretches of it that come in order. -/
def substituted (replacement text : List Char) (spans : List Span) : List Char :=
  substitutedFrom replacement text 0 spans

/-- To replace all occurrences is to replace those that are listed; by induction on these. -/
theorem substitutedFrom_of_enumerates (filled : needle ≠ [])
    (all : Enumerates needle content position starts)
    : substitutedFrom replacement content position (starts.map (spanning needle))
      = replaceFrom needle replacement 0 (content.drop position) := by
  induction all with
  | @done position missing =>
      exact (@scans_of_find?_none needle replacement _ position missing).2.symm
  | @next position offset later found goesOn ih =>
      rw [(@scans_of_find?_some needle replacement _ position _ filled found).2, List.drop_drop,
        ← Nat.add_assoc, List.map_cons, substitutedFrom, ← ih, spanning, List.drop_take,
        Nat.add_sub_cancel_left]

theorem replaceAll_eq_substituted (filled : needle ≠ []) (replacement content : List Char)
    : replaceAll needle replacement content
      = substituted replacement content ((occurrences needle content).map (spanning needle)) := by
  rw [replaceAll, if_neg (by simpa using filled), substituted,
    substitutedFrom_of_enumerates filled (enumerates_occurrences filled content), List.drop_zero]

theorem replaceFirst_eq_substituted (needle replacement content : List Char)
    : replaceFirst needle replacement content
      = substituted replacement content ((find? needle content).map (spanning needle)).toList := by
  rw [replaceFirst]
  cases find? needle content with
  | none => rfl
  | some position => rfl

end Span

-----------------------------------------------------------------------------------------
-- Literal anchors
-----------------------------------------------------------------------------------------

variable {sought : String}

/-- Where a text is found in another one: at places that do not overlap, one of which overlaps
wherever else it stands, and the first of which is the one that a search comes to.
-/
structure Anchor.Enumerated (sought text : String) (first : Option Span) (all : List Span)
    : Prop where
  spell : ∀ span ∈ all, span.Spells text sought
  bytes
    : ∀ span ∈ all,
        text.toUTF8.extract (span.bytes text.toList).1 (span.bytes text.toList).2 = sought.toUTF8
  ordered : all.Pairwise fun one two => one.start < two.start ∧ one.stop ≤ two.start
  overlapped : ∀ span : Span, span.Spells text sought → ∃ found ∈ all, found.Overlaps span
  head : first = all.head?
  leftmost
    : ∀ span : Span, span.Spells text sought → ∃ found, first = some found ∧ found.start ≤ span.start

theorem Anchor.locate_literal (filled : sought ≠ "") (text : List Char)
    : (literal sought).locate text = (find? sought.toList text).map (Span.spanning sought.toList) := by
  rw [locate, if_neg (by simpa using filled)]
  rfl

theorem Anchor.locateAll_literal (filled : sought ≠ "") (text : List Char)
    : (literal sought).locateAll text
      = (occurrences sought.toList text).map (Span.spanning sought.toList) := by
  rw [locateAll, if_neg (by simpa using filled)]
  rfl

theorem Anchor.enumerated (filled : sought ≠ "") (text : String)
    : Enumerated sought text ((literal sought).locate text.toList)
        ((literal sought).locateAll text.toList) := by
  have visible : sought.toList ≠ [] := mt String.toList_eq_nil_iff.mp filled
  have all := enumerates_occurrences visible text.toList
  have positive := List.length_pos_iff.mpr visible
  have spell : ∀ span ∈ (literal sought).locateAll text.toList, span.Spells text sought := by
    rw [locateAll_literal filled]
    exact List.forall_mem_map.mpr fun start member =>
      (Span.spells_iff filled).mpr ⟨(all.stand start member).2, rfl⟩
  refine ⟨spell, fun span member => (spell span member).bytes, ?_, ?_, ?_, ?_⟩
  · rw [locateAll_literal filled, List.pairwise_map]
    exact all.pairwise.imp fun {one two} apart => ⟨by dsimp only [Span.spanning]; omega, apart⟩
  · intro span spells
    obtain ⟨there, spans⟩ := (Span.spells_iff filled).mp spells
    obtain ⟨start, member, overlaps⟩ := all.overlap visible (Nat.zero_le _) there
    rw [locateAll_literal filled, spans]
    exact ⟨_, List.mem_map_of_mem member, overlaps⟩
  · rw [locateAll_literal filled, locate_literal filled, List.head?_map, all.head?_eq]
    simp
  · intro span spells
    obtain ⟨there, spans⟩ := (Span.spells_iff filled).mp spells
    have within := stop_le_of_prefix_drop visible there
    rw [locate_literal filled]
    cases found : find? sought.toList text.toList with
    | none => exact absurd there (find?_eq_none found (by omega))
    | some start =>
        obtain ⟨-, -, first⟩ := find?_eq_some_iff.mp found
        exact ⟨_, rfl, Nat.le_of_not_lt fun before => first _ before there⟩

namespace Edit

/-- The outcome of writing a replacement for stretches of a text. -/
def substituting (replacement text : String) (spans : List Span) : EditOutcome :=
  let new := String.ofList (Span.substituted replacement.toList text.toList spans)
  if new = text then .unchanged else .changed new.toUTF8

theorem substituting_nil (replacement text : String)
    : substituting replacement text [] = .unchanged :=
  if_pos String.ofList_toList

theorem applyReplace_eq_substituting {anchor : Anchor} {replacement text : String} {firstOnly : Bool}
    {spans : List Span}
    (replaced : anchor.replace replacement.toList firstOnly text.toList
      = Span.substituted replacement.toList text.toList spans)
    : (replace anchor replacement firstOnly).apply (some text.toUTF8)
      = .ok (substituting replacement text spans) := by
  have same (new : List Char) : new = text.toList ↔ String.ofList new = text := by
    rw [← String.toList_inj, String.toList_ofList]
  simp only [apply_toUTF8, applyText, applyReplace, replaced, substituting, beq_iff_eq, same,
    outcomeOf]

/-- Searching for a literal anchor, listing all places of it and replacing the first one or all
agree on where it is: they replace just what is found, and change nothing if that is the same text
once more.
-/
theorem replace_literal_agrees (filled : sought ≠ "") (text replacement : String)
    : let first := (Anchor.literal sought).locate text.toList
      let all := (Anchor.literal sought).locateAll text.toList
      Anchor.Enumerated sought text first all
      ∧ (replace (.literal sought) replacement false).apply (some text.toUTF8)
        = .ok (substituting replacement text all)
      ∧ (replace (.literal sought) replacement true).apply (some text.toUTF8)
        = .ok (substituting replacement text first.toList)
      ∧ (first = none → ∀ firstOnly,
          (replace (.literal sought) replacement firstOnly).apply (some text.toUTF8)
          = .ok .unchanged) := by
  have visible : sought.toList ≠ [] := mt String.toList_eq_nil_iff.mp filled
  have replacesAll : (replace (.literal sought) replacement false).apply (some text.toUTF8)
      = .ok (substituting replacement text ((Anchor.literal sought).locateAll text.toList)) := by
    refine applyReplace_eq_substituting ?_
    rw [Anchor.locateAll_literal filled, ← Span.replaceAll_eq_substituted visible]
    rfl
  have replacesFirst : (replace (.literal sought) replacement true).apply (some text.toUTF8)
      = .ok (substituting replacement text
          ((Anchor.literal sought).locate text.toList).toList) := by
    refine applyReplace_eq_substituting ?_
    rw [Anchor.locate_literal filled, ← Span.replaceFirst_eq_substituted]
    rfl
  have enumerated := Anchor.enumerated filled text
  refine ⟨enumerated, replacesAll, replacesFirst, fun missing firstOnly => ?_⟩
  cases firstOnly with
  | true => rw [replacesFirst, missing, Option.toList_none, substituting_nil]
  | false =>
      have none_listed := List.head?_eq_none_iff.mp (enumerated.head.symm.trans missing)
      rw [replacesAll, none_listed, substituting_nil]

/-- A text that overlaps itself, and occurs once more in what is written for it. -/
theorem replace_literal_agrees_overlapping
    : (Anchor.literal "aba").locateAll "éababa aba".toList = [⟨1, 4⟩, ⟨7, 10⟩]
      ∧ Anchor.Enumerated "aba" "éababa aba" (some ⟨1, 4⟩) [⟨1, 4⟩, ⟨7, 10⟩]
      ∧ (replace (.literal "aba") "$0aba" false).apply (some "éababa aba".toUTF8)
        = .ok (.changed "é$0ababa $0aba".toUTF8)
      ∧ (replace (.literal "aba") "$0aba" true).apply (some "éababa aba".toUTF8)
        = .ok (.changed "é$0ababa aba".toUTF8) := by
  have filled : "aba" ≠ "" := by decide
  obtain ⟨enumerated, all, first, -⟩ := replace_literal_agrees filled "éababa aba" "$0aba"
  exact ⟨rfl, enumerated, all.trans rfl, first.trans rfl⟩

end Edit

end Groundwork
