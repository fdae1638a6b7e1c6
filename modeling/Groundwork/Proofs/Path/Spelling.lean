import Groundwork.Proofs.Path

/-!
Paths and the texts that spell them. A path is the text between its slashes, part by part, and is
spelled by that text again; whether it may name a target can be read off the text.
-/

namespace Groundwork.Path

-----------------------------------------------------------------------------------------
-- Texts of paths
-----------------------------------------------------------------------------------------

/-- The parts between slashes are those that a text is split into at its slashes; by induction on the
characters.
-/
theorem splitSlashes_eq_splitOn (text : List Char)
    : (splitSlashes text).1 :: (splitSlashes text).2 = text.splitOn '/' := by
  induction text with
  | nil => rfl
  | cons c rest ih =>
      rw [List.splitOn, List.splitOnP_cons_eq_if_modifyHead, ← List.splitOn, ← ih]
      by_cases slash : c = '/'
      · simp [splitSlashes, slash]
      · simp [splitSlashes, slash]

theorem segments_ofString (text : String)
    : (ofString text).segments = (text.toList.splitOn '/').map String.ofList := by
  rw [← splitSlashes_eq_splitOn]
  rfl

/-- The text that spells a path is the text of the path. -/
theorem toString_ofString (text : String) : (ofString text).toString = text := by
  have slash : "/".toList = ['/'] := rfl
  have same : String.toList ∘ String.ofList = id := funext fun _ => String.toList_ofList
  apply String.toList_injective
  rw [toString, ← segments, segments_ofString, String.toList_intercalate, List.map_map, same,
    List.map_id, slash, List.intercalate_splitOn]

/-- A path that a text spells is spelled by its own text. -/
theorem IsSpelled.ofString_toString {path : Path} (spelled : path.IsSpelled)
    : ofString path.toString = path := by
  obtain ⟨text, rfl⟩ := spelled
  rw [toString_ofString]

-----------------------------------------------------------------------------------------
-- Texts that may name a target
-----------------------------------------------------------------------------------------

theorem firstFault_of_notMem {path : Path} {components : List PathComponent}
    (up : .up ∉ components) (root : .root ∉ components) : firstFault path components = none := by
  fun_induction firstFault path components with
  | case1 => rfl
  | case2 => simp at up
  | case3 => simp at root
  | case4 component rest notUp notRoot ih =>
      exact ih (fun found => up (List.mem_cons_of_mem _ found))
        fun found => root (List.mem_cons_of_mem _ found)

/-- A path has no fault if its first segment has some text and none of its segments leads up, and only
then.
-/
theorem fault?_eq_none_iff {path : Path}
    : path.fault? = none ↔ path.head ≠ "" ∧ ".." ∉ path.segments := by
  constructor
  · intro sound
    obtain ⟨some, relative, down⟩ := fault?_eq_none sound
    refine ⟨fun none => ?_, down⟩
    cases short : path.tail with
    | nil => simp [isEmpty, none, short] at some
    | cons => simp [isAbsolute, none, short] at relative
  · rintro ⟨some, down⟩
    have single {segment : String} (member : segment ∈ path.segments)
        : component segment = .name segment := by
      have other : segment ≠ ".." := fun same => down (same ▸ member)
      simp [component, other]
    have named : ∀ part ∈ path.components, part = .here ∨ ∃ name, part = .name name := by
      intro part member
      rcases List.mem_append.mp member with first | later
      · by_cases dot : path.head = "."
        · left
          simpa [headComponents, some, dot] using first
        · right
          rw [headComponents, if_neg (by simpa using some), if_neg (by simpa using dot),
            single List.mem_cons_self, List.mem_singleton] at first
          exact ⟨_, first⟩
      · obtain ⟨segment, among, rfl⟩ := List.mem_map.mp later
        exact .inr ⟨_, single (List.mem_cons_of_mem _ (List.mem_filter.mp among |>.1))⟩
    rw [fault?, if_neg (by simp [isEmpty, some])]
    refine firstFault_of_notMem (fun found => ?_) fun found => ?_
    · obtain same | ⟨_, same⟩ := named _ found <;> cases same
    · obtain same | ⟨_, same⟩ := named _ found <;> cases same

/-- The first segment of a path has no text if the text of the path is empty or starts with a slash.
-/
theorem head_ofString_eq_empty (text : String)
    : (ofString text).head = "" ↔ text = "" ∨ text.toList.head? = some '/' := by
  rw [← String.toList_inj, ← String.toList_inj, ofString, String.toList_empty]
  cases text.toList with
  | nil => simp [splitSlashes]
  | cons c rest =>
      by_cases slash : c = '/'
      · simp [splitSlashes, slash]
      · simp [splitSlashes, slash]

/-- A text may name a target if it is not empty, does not start with a slash and has no two dots
between slashes, and only then.
-/
theorem fault?_ofString_eq_none_iff (text : String)
    : (ofString text).fault? = none
      ↔ text ≠ "" ∧ text.toList.head? ≠ some '/' ∧ "..".toList ∉ text.toList.splitOn '/' := by
  have dots : ".." ∈ (text.toList.splitOn '/').map String.ofList
      ↔ "..".toList ∈ text.toList.splitOn '/' := by
    rw [List.mem_map]
    constructor
    · rintro ⟨part, among, same⟩
      rwa [← same, String.toList_ofList]
    · exact fun among => ⟨_, among, String.ofList_toList⟩
  rw [fault?_eq_none_iff, segments_ofString, dots, Ne, head_ofString_eq_empty, not_or, and_assoc]

end Groundwork.Path
