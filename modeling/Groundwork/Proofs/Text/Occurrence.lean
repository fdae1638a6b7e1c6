import Groundwork.Text.Search
import Mathlib.Data.Nat.Find

/-!
Occurrences of a text in another. Nothing after the first one has a say in where it is. All of them are
found by searching for the first one, then for the first one past its end, and so on; replacing them keeps
what stands between.
-/

namespace Groundwork.Text

variable {needle replacement text other : List Char} {position offset skip count : Nat}
  {starts : List Nat}

/-- The first occurrence of a text is where it stands and stood nowhere before; by induction on the
text that is searched.
-/
theorem find?_eq_some_iff
    : find? needle text = some position
      ↔ position ≤ text.length
        ∧ needle <+: text.drop position
        ∧ ∀ earlier < position, ¬ needle <+: text.drop earlier := by
  induction text generalizing position with
  | nil =>
      rw [find?]
      cases needle with
      | nil => simp +contextual [eq_comm]
      | cons c rest => simp
  | cons c rest ih =>
      rw [find?]
      by_cases here : needle <+: c :: rest
      · rw [if_pos (List.isPrefixOf_iff_prefix.mpr here)]
        constructor
        · rintro ⟨⟩
          exact ⟨Nat.zero_le _, here, by simp⟩
        · rintro ⟨-, -, first⟩
          cases position with
          | zero => rfl
          | succ position => exact absurd here (first 0 (Nat.succ_pos _))
      · rw [if_neg (by simpa using here), Option.map_eq_some_iff]
        constructor
        · rintro ⟨later, found, rfl⟩
          obtain ⟨within, there, first⟩ := ih.mp found
          refine ⟨Nat.succ_le_succ within, there, fun earlier before => ?_⟩
          cases earlier with
          | zero => exact here
          | succ earlier => exact first earlier (Nat.lt_of_succ_lt_succ before)
        · rintro ⟨within, there, first⟩
          cases position with
          | zero => exact absurd there here
          | succ position =>
              refine ⟨position, ih.mpr ⟨Nat.le_of_succ_le_succ within, there, ?_⟩, rfl⟩
              exact fun earlier before => first (earlier + 1) (Nat.succ_lt_succ before)

/-- An occurrence ends within the text. -/
theorem stop_le_of_find? (found : find? needle text = some position)
    : position + needle.length ≤ text.length := by
  obtain ⟨within, there, -⟩ := find?_eq_some_iff.mp found
  have short := there.length_le
  rw [List.length_drop] at short
  omega

/-- What a text has up to some place decides whether another one stands before that place. -/
theorem prefix_drop_congr (same : other.take count = text.take count)
    (within : position + needle.length ≤ count)
    : needle <+: other.drop position ↔ needle <+: text.drop position := by
  have cut (searched : List Char)
      : needle <+: searched.drop position ↔ needle <+: (searched.take count).drop position := by
    rw [List.drop_take, List.prefix_take_iff]
    exact ⟨fun there => ⟨there, by omega⟩, And.left⟩
  rw [cut other, cut text, same]

/-- The first occurrence stays the first one in a text that is the same up to its end. -/
theorem find?_of_take (found : find? needle text = some position)
    (within : position + needle.length ≤ count) (same : other.take count = text.take count)
    : find? needle other = some position := by
  obtain ⟨inside, there, first⟩ := find?_eq_some_iff.mp found
  refine find?_eq_some_iff.mpr ⟨?_, (prefix_drop_congr same within).mpr there, ?_⟩
  · have lengths := congrArg List.length same
    simp only [List.length_take] at lengths
    omega
  · intro earlier before again
    exact first earlier before ((prefix_drop_congr same (by omega)).mp again)

/-- A first occurrence moves with what is inserted before it, if the text inserted is part of no
occurrence.
-/
theorem find?_insert (found : find? needle text = some position) (filled : needle ≠ [])
    {place : Nat} (upTo : place ≤ position) {inserted : List Char}
    (apart : ∀ earlier < place + inserted.length, place < earlier + needle.length →
      ¬ needle <+: (text.take place ++ inserted ++ text.drop place).drop earlier)
    : find? needle (text.take place ++ inserted ++ text.drop place)
      = some (position + inserted.length) := by
  obtain ⟨inside, there, first⟩ := find?_eq_some_iff.mp found
  have length : (text.take place).length = place := List.length_take_of_le (by omega)
  have same : (text.take place ++ inserted ++ text.drop place).take place = text.take place := by
    rw [List.append_assoc, List.take_left' length]
  have after {later : Nat} (past : place ≤ later)
      : (text.take place ++ inserted ++ text.drop place).drop (later + inserted.length)
        = text.drop later := by
    obtain ⟨more, rfl⟩ := Nat.exists_eq_add_of_le past
    have cut : place + more + inserted.length
        = (text.take place ++ inserted).length + more := by
      rw [List.length_append, length]
      omega
    rw [cut, List.drop_length_add_append, List.drop_drop]
  refine find?_eq_some_iff.mpr ⟨by simp; omega, by rwa [after upTo], ?_⟩
  intro earlier before again
  by_cases whole : earlier + needle.length ≤ place
  · have positive := List.length_pos_iff.mpr filled
    exact first earlier (by omega) ((prefix_drop_congr same whole).mp again)
  by_cases past : earlier < place + inserted.length
  · exact apart earlier past (by omega) again
  · obtain ⟨later, rfl⟩ : ∃ later, earlier = later + inserted.length :=
      ⟨earlier - inserted.length, by omega⟩
    rw [after (by omega)] at again
    exact first later (by omega) again

/-- A first occurrence moves with what is inserted before it, if that has none of its characters. -/
theorem find?_insert_of_disjoint (found : find? needle text = some position) (filled : needle ≠ [])
    {place : Nat} (upTo : place ≤ position) {inserted : List Char}
    (disjoint : ∀ c ∈ inserted, c ∉ needle)
    : find? needle (text.take place ++ inserted ++ text.drop place)
      = some (position + inserted.length) := by
  by_cases empty : inserted = []
  · subst empty
    simpa using found
  refine find?_insert found filled upTo fun earlier before reaches again => ?_
  have length : (text.take place).length = place :=
    List.length_take_of_le (by have inside := stop_le_of_find? found; omega)
  have positive := List.length_pos_iff.mpr filled
  have more := List.length_pos_iff.mpr empty
  -- The place of a character that belongs to the occurrence and to what was inserted.
  obtain ⟨shared, low, high, past, within⟩
      : ∃ shared, place ≤ shared ∧ shared < place + inserted.length ∧ earlier ≤ shared
        ∧ shared < earlier + needle.length := by
    by_cases first : place ≤ earlier
    · exact ⟨earlier, first, before, Nat.le_refl _, by omega⟩
    · exact ⟨place, Nat.le_refl _, by omega, by omega, reaches⟩
  have sought : (text.take place ++ inserted ++ text.drop place)[shared]?
      = some needle[shared - earlier] := by
    obtain ⟨rest, split⟩ := again
    have drawn := congrArg (·[shared - earlier]?) split
    simp only [List.getElem?_drop, Nat.add_sub_cancel' past] at drawn
    rw [← drawn, List.getElem?_append_left (by omega), List.getElem?_eq_getElem (by omega)]
  have given : (text.take place ++ inserted ++ text.drop place)[shared]?
      = some inserted[shared - place] := by
    rw [List.append_assoc, List.getElem?_append_right (by omega), length,
      List.getElem?_append_left (by omega), List.getElem?_eq_getElem (by omega)]
  have same : inserted[shared - place] = needle[shared - earlier] :=
    Option.some.inj (given.symm.trans sought)
  have member : needle[shared - earlier] ∈ needle := List.getElem_mem _
  exact disjoint _ (List.getElem_mem _) (same ▸ member)

-----------------------------------------------------------------------------------------
-- Scans as searches made again and again
-----------------------------------------------------------------------------------------

theorem find?_eq_none (missing : find? needle text = none) {place : Nat}
    (inside : place ≤ text.length) : ¬ needle <+: text.drop place := by
  intro there
  have somewhere : ∃ place, needle <+: text.drop place := ⟨place, there⟩
  classical
  have found := find?_eq_some_iff.mpr
    ⟨Nat.le_trans (Nat.find_min' somewhere there) inside, Nat.find_spec somewhere,
      fun _ before => Nat.find_min somewhere before⟩
  rw [missing] at found
  cases found

/-- A text is found in another one if it is a part of it. -/
theorem isSome_find?_iff : (find? needle text).isSome = true ↔ needle <:+: text := by
  constructor
  · intro found
    obtain ⟨position, first⟩ := Option.isSome_iff_exists.mp found
    obtain ⟨-, there, -⟩ := find?_eq_some_iff.mp first
    exact there.isInfix.trans (List.drop_suffix _ _).isInfix
  · rintro ⟨before, after, rfl⟩
    cases missing : find? needle (before ++ needle ++ after) with
    | some position => rfl
    | none =>
        have inside : before.length ≤ (before ++ needle ++ after).length := by simp
        refine absurd ?_ (find?_eq_none missing inside)
        rw [List.append_assoc, List.drop_left]
        exact List.prefix_append _ _

/-- A text that is not empty stands in another one within its length. -/
theorem stop_le_of_prefix_drop (filled : needle ≠ []) (there : needle <+: text.drop position)
    : position + needle.length ≤ text.length := by
  have positive := List.length_pos_iff.mpr filled
  have short := there.length_le
  rw [List.length_drop] at short
  omega

/-- What is taken already is passed over; by induction on the text. -/
theorem occurrencesFrom_skip (needle : List Char) (position skip : Nat) (text : List Char)
    : occurrencesFrom needle position skip text
      = occurrencesFrom needle (position + skip) 0 (text.drop skip) := by
  induction text generalizing position skip with
  | nil => rw [List.drop_nil, occurrencesFrom, occurrencesFrom]
  | cons c rest ih =>
      cases skip with
      | zero => rfl
      | succ skip => rw [occurrencesFrom, ih, List.drop_succ_cons, Nat.add_right_comm, Nat.add_assoc]

theorem replaceFrom_skip (needle replacement : List Char) (skip : Nat) (text : List Char)
    : replaceFrom needle replacement skip text
      = replaceFrom needle replacement 0 (text.drop skip) := by
  induction text generalizing skip with
  | nil => rw [List.drop_nil, replaceFrom, replaceFrom]
  | cons c rest ih =>
      cases skip with
      | zero => rfl
      | succ skip => rw [replaceFrom, ih, List.drop_succ_cons]

/-- Where nothing is found the two scans go through the text to no effect; by induction on the text.
-/
theorem scans_of_find?_none (missing : find? needle text = none)
    : occurrencesFrom needle position 0 text = [] ∧ replaceFrom needle replacement 0 text = text := by
  induction text generalizing position with
  | nil => exact ⟨rfl, rfl⟩
  | cons c rest ih =>
      have absent : ¬ needle.isPrefixOf (c :: rest) := fun there =>
        find?_eq_none missing (Nat.zero_le _) (List.isPrefixOf_iff_prefix.mp there)
      rw [find?, if_neg absent, Option.map_eq_none_iff] at missing
      obtain ⟨unlisted, kept⟩ := @ih (position + 1) missing
      rw [occurrencesFrom, if_neg absent, replaceFrom, if_neg absent]
      exact ⟨unlisted, congrArg (c :: ·) kept⟩

/-- Where something is found the two scans come to it, and go on past its end; by induction on the
text.
-/
theorem scans_of_find?_some (filled : needle ≠ []) (found : find? needle text = some offset)
    : occurrencesFrom needle position 0 text
        = (position + offset)
          :: occurrencesFrom needle (position + offset + needle.length) 0
            (text.drop (offset + needle.length))
      ∧ replaceFrom needle replacement 0 text
        = text.take offset ++ replacement
          ++ replaceFrom needle replacement 0 (text.drop (offset + needle.length)) := by
  induction text generalizing position offset with
  | nil =>
      rw [find?, if_neg (by simpa using filled)] at found
      cases found
  | cons c rest ih =>
      rw [find?] at found
      rw [occurrencesFrom, replaceFrom]
      split at found
      · next here =>
          obtain rfl := Option.some.inj found
          obtain ⟨length, counted⟩ :=
            Nat.exists_eq_succ_of_ne_zero (mt List.length_eq_zero_iff.mp filled)
          rw [if_pos here, if_pos here, occurrencesFrom_skip, replaceFrom_skip, counted,
            Nat.succ_sub_one, Nat.zero_add, List.drop_succ_cons, Nat.add_zero, Nat.add_assoc,
            Nat.add_comm 1]
          exact ⟨rfl, rfl⟩
      · next absent =>
          obtain ⟨later, further, rfl⟩ := Option.map_eq_some_iff.mp found
          obtain ⟨listed, replaced⟩ := @ih (position + 1) later further
          rw [if_neg absent, if_neg absent, listed, replaced, Nat.add_right_comm later,
            List.drop_succ_cons, Nat.add_assoc position, Nat.add_comm 1]
          exact ⟨rfl, rfl⟩

-----------------------------------------------------------------------------------------
-- All occurrences
-----------------------------------------------------------------------------------------

/-- The occurrences of a text from a position on: the first one, then those past its end. -/
inductive Enumerates (needle text : List Char) : Nat → List Nat → Prop
  | done {position : Nat} (missing : find? needle (text.drop position) = none)
    : Enumerates needle text position []
  | next {position offset : Nat} {later : List Nat}
      (found : find? needle (text.drop position) = some offset)
      (goesOn : Enumerates needle text (position + offset + needle.length) later)
    : Enumerates needle text position ((position + offset) :: later)

/-- The scan for all occurrences lists them; by induction on how much of the text is left. -/
theorem enumerates_occurrencesFrom (filled : needle ≠ []) (text : List Char) (position : Nat)
    : Enumerates needle text position (occurrencesFrom needle position 0 (text.drop position)) := by
  induction left : text.length - position using Nat.strong_induction_on generalizing position with
  | h count ih =>
      cases found : find? needle (text.drop position) with
      | none =>
          rw [(@scans_of_find?_none needle [] _ position found).1]
          exact .done found
      | some offset =>
          rw [(@scans_of_find?_some needle [] _ position _ filled found).1, List.drop_drop,
            ← Nat.add_assoc]
          have positive := List.length_pos_iff.mpr filled
          have within := stop_le_of_find? found
          rw [List.length_drop] at within
          exact .next found (ih _ (by omega) _ rfl)

theorem enumerates_occurrences (filled : needle ≠ []) (text : List Char)
    : Enumerates needle text 0 (occurrences needle text) :=
  enumerates_occurrencesFrom filled text 0

/-- The occurrence found first comes first. -/
theorem Enumerates.head?_eq (all : Enumerates needle text position starts)
    : starts.head? = (find? needle (text.drop position)).map (position + ·) := by
  cases all with
  | done missing => rw [missing]; rfl
  | next found goesOn => rw [found]; rfl

/-- Each of the occurrences stands in the text, from the position on; by induction on them. -/
theorem Enumerates.stand (all : Enumerates needle text position starts)
    : ∀ start ∈ starts, position ≤ start ∧ needle <+: text.drop start := by
  induction all with
  | done => exact nofun
  | next found goesOn ih =>
      obtain ⟨-, there, -⟩ := find?_eq_some_iff.mp found
      rw [List.drop_drop] at there
      refine List.forall_mem_cons.mpr ⟨⟨Nat.le_add_right _ _, there⟩, fun start member => ?_⟩
      obtain ⟨past, later⟩ := ih start member
      exact ⟨by omega, later⟩

/-- None of the occurrences begins before the end of one before it; by induction on them. -/
theorem Enumerates.pairwise (all : Enumerates needle text position starts)
    : starts.Pairwise fun one two => one + needle.length ≤ two := by
  induction all with
  | done => exact .nil
  | next found goesOn ih =>
      exact .cons (fun start member => (goesOn.stand start member).1) ih

/-- Wherever the text stands one of the occurrences overlaps it; by induction on the occurrences. -/
theorem Enumerates.overlap (all : Enumerates needle text position starts) (filled : needle ≠ [])
    {place : Nat} (past : position ≤ place) (there : needle <+: text.drop place)
    : ∃ start ∈ starts, start < place + needle.length ∧ place < start + needle.length := by
  have positive := List.length_pos_iff.mpr filled
  have within := stop_le_of_prefix_drop filled there
  induction all with
  | @done position missing =>
      obtain ⟨more, rfl⟩ := Nat.exists_eq_add_of_le past
      rw [← List.drop_drop] at there
      exact absurd there (find?_eq_none missing (by rw [List.length_drop]; omega))
  | @next position offset later found goesOn ih =>
      obtain ⟨-, -, first⟩ := find?_eq_some_iff.mp found
      by_cases before : place < position + offset
      · obtain ⟨more, rfl⟩ := Nat.exists_eq_add_of_le past
        rw [← List.drop_drop] at there
        exact absurd there (first more (by omega))
      by_cases shared : place < position + offset + needle.length
      · exact ⟨position + offset, List.mem_cons_self .., by omega, shared⟩
      · obtain ⟨start, member, overlaps⟩ := ih (by omega)
        exact ⟨start, List.mem_cons_of_mem _ member, overlaps⟩

end Groundwork.Text
