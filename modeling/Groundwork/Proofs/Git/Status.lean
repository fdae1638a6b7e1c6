import Mathlib.Data.List.Basic
import Groundwork.Git.Status
import Groundwork.Proofs.Text.Lines
import Groundwork.Proofs.Text.Occurrence

/-!
Changes that are read back from the lines of a status. Their codes are read as they are, and so are
their paths, unless an arrow that stands within a path is taken for that of a move. A check sees the
paths that are read, which are the new ones of moves.
-/

namespace Groundwork.Git

open Groundwork.Text

variable {change : Change} {changes : List Change} {entry : StatusEntry} {entries : List StatusEntry}

-----------------------------------------------------------------------------------------
-- Changes and their lines
-----------------------------------------------------------------------------------------

/-- The characters that codes of changes are made of. -/
def codeMarks : List Char := [' ', 'M', 'T', 'A', 'D', 'R', 'C', 'U', '?', '!']

/-- The path that is read from what a line mentions: what stands after the first arrow, or all if there
is none.
-/
def afterArrow (mention : List Char) : List Char :=
  match find? StatusEntry.arrow mention with
  | some start => trim (mention.drop (start + StatusEntry.arrow.length))
  | none => mention

namespace Change

/-- The paths that a change mentions: the one that it leaves, and the one that was moved there. -/
def paths (change : Change) : List String := change.path :: change.source.toList

/-- A change as it may be in a status: a code of two marks, and paths that are not empty and have no
blanks. A file that is not tracked was not moved.
-/
structure Legible (change : Change) : Prop where
  staged : change.staged ∈ codeMarks
  unstaged : change.unstaged ∈ codeMarks
  untracked : change.code = "??" → change.source = none
  filled : ∀ path ∈ change.paths, path ≠ ""
  solid : ∀ path ∈ change.paths, ∀ c ∈ path.toList, isBlank c = false

/-- The line of a change with its paths as they are. -/
def plainLine (change : Change) : String :=
  match change.source with
  | none => s!"{change.code} {change.path}"
  | some source => s!"{change.code} {source} -> {change.path}"

/-- The line of a change has its paths as they are, if they are shown so. -/
theorem line_eq_plainLine {all : Bool} (shown : ∀ path ∈ change.paths, shownPath all path = path)
    : change.line all = change.plainLine := by
  cases moved : change.source with
  | none =>
      have own := shown change.path List.mem_cons_self
      simp only [line, plainLine, moved, own]
  | some source =>
      have own := shown change.path List.mem_cons_self
      have old := shown source (by simp [paths, moved])
      simp only [line, plainLine, moved, own, old]

/-- What stands after the code on the line of a change. -/
def mention (change : Change) : List Char :=
  match change.source with
  | none => change.path.toList
  | some source => source.toList ++ [' ', '-', '>', ' '] ++ change.path.toList

theorem toList_plainLine (change : Change)
    : change.plainLine.toList = change.staged :: change.unstaged :: ' ' :: change.mention := by
  cases moved : change.source with
  | none => simp [plainLine, mention, moved, code, toString]
  | some source => simp [plainLine, mention, moved, code, toString]

theorem Legible.tight_mention (legible : change.Legible) : Tight change.mention := by
  obtain ⟨-, -, -, filled, solid⟩ := legible
  have own : change.path.toList ≠ [] := by
    simpa using filled change.path List.mem_cons_self
  have solidOwn := solid change.path List.mem_cons_self
  cases moved : change.source with
  | none =>
      have same : change.mention = change.path.toList := by rw [mention, moved]
      rw [same]
      exact ⟨own, fun c first => solidOwn c (List.mem_of_head? first),
        fun c last => solidOwn c (List.mem_of_getLast? last)⟩
  | some source =>
      have member : source ∈ change.paths := by simp [paths, moved]
      have old : source.toList ≠ [] := by simpa using filled source member
      have same : change.mention = source.toList ++ [' ', '-', '>', ' '] ++ change.path.toList := by
        rw [mention, moved]
      rw [same]
      refine ⟨by simp, fun c first => ?_, fun c last => ?_⟩
      · rw [List.append_assoc, List.head?_append_of_ne_nil _ old] at first
        exact solid source member c (List.mem_of_head? first)
      · rw [List.getLast?_append_of_ne_nil _ own] at last
        exact solidOwn c (List.mem_of_getLast? last)

/-- The path that is read from the line of a change. -/
def seenPath (change : Change) : String :=
  if change.code = "??" then change.path else String.ofList (afterArrow change.mention)

/-- A change whose path is not read as it is: an arrow stands in the path, or in the old path of a move,
and the change is not that of a file that is not tracked.
-/
def IsCut (change : Change) : Prop :=
  change.code ≠ "??" ∧ StatusEntry.arrow <:+: (change.source.getD change.path).toList

instance : Decidable change.IsCut := inferInstanceAs (Decidable (_ ∧ _))

end Change

-----------------------------------------------------------------------------------------
-- Lines that are read back
-----------------------------------------------------------------------------------------

/-- The arrow of a move is the first one if none stands in the old path; by induction on that. -/
theorem find?_arrow_of_move {source : List Char} (plain : ¬ StatusEntry.arrow <:+: source)
    (path : List Char)
    : find? StatusEntry.arrow (source ++ [' ', '-', '>', ' '] ++ path) = some (source.length + 1) := by
  induction source with
  | nil => rfl
  | cons c rest ih =>
      have later := ih fun inside => plain (inside.trans (List.suffix_cons c rest).isInfix)
      have other : ¬ StatusEntry.arrow <+: c :: (rest ++ [' ', '-', '>', ' '] ++ path) := by
        intro here
        obtain ⟨rfl, next⟩ := List.cons_prefix_cons.mp here
        cases rest with
        | nil => simp at next
        | cons d rest =>
            obtain ⟨rfl, -⟩ := List.cons_prefix_cons.mp next
            exact plain ⟨[], rest, rfl⟩
      rw [List.cons_append, List.cons_append, find?, if_neg (by simpa using other), later]
      rfl

theorem four_le_byteLength (one two three : Char) {rest : List Char} (filled : rest ≠ [])
    : 4 ≤ byteLength (one :: two :: three :: rest) := by
  obtain ⟨four, rest, rfl⟩ := List.exists_cons_of_ne_nil filled
  have positive := Char.utf8Size_pos
  simp only [byteLength, List.foldr_cons]
  have sizes := And.intro (positive one) (And.intro (positive two)
    (And.intro (positive three) (positive four)))
  omega

theorem ofLine_of_tracked {staged unstaged : Char} {mention : List Char} (tight : Tight mention)
    (tracked : ¬ (staged = '?' ∧ unstaged = '?'))
    : StatusEntry.ofLine (staged :: unstaged :: ' ' :: mention)
      = .ok ⟨String.ofList [staged, unstaged], String.ofList (afterArrow mention)⟩ := by
  have marked : (StatusEntry.untracked ++ [' ']).isPrefixOf (staged :: unstaged :: ' ' :: mention)
      = false := by
    rw [Bool.eq_false_iff, Ne, List.isPrefixOf_iff_prefix]
    intro starts
    obtain ⟨first, rest⟩ := List.cons_prefix_cons.mp starts
    exact tracked ⟨first.symm, (List.cons_prefix_cons.mp rest).1.symm⟩
  have long := four_le_byteLength staged unstaged ' ' tight.filled
  rw [StatusEntry.ofLine, marked, if_neg Bool.false_ne_true, if_neg (by omega)]
  simp only [List.drop_succ_cons, List.drop_zero, List.take_succ_cons, List.take_zero,
    trim_of_tight tight]
  rfl

theorem ofLine_of_untracked {path : List Char} (tight : Tight path)
    : StatusEntry.ofLine ('?' :: '?' :: ' ' :: path) = .ok ⟨"??", String.ofList path⟩ := by
  have marked : (StatusEntry.untracked ++ [' ']).isPrefixOf ('?' :: '?' :: ' ' :: path) = true := by
    simp [StatusEntry.untracked]
  rw [StatusEntry.ofLine, marked, if_pos rfl]
  simp only [List.drop_succ_cons, List.drop_zero, trim_of_tight tight]
  rfl

/-- A path without blanks is read as it is unless an arrow stands in it. -/
theorem afterArrow_eq_iff {path : List Char} (solid : ∀ c ∈ path, isBlank c = false)
    : afterArrow path = path ↔ ¬ StatusEntry.arrow <:+: path := by
  rw [← isSome_find?_iff, afterArrow]
  cases found : find? StatusEntry.arrow path with
  | none => exact iff_of_true rfl Bool.false_ne_true
  | some start =>
      refine iff_of_false (fun same => ?_) (not_not_intro rfl)
      dsimp only at same
      rw [trim_of_solid fun c member => solid c (List.mem_of_mem_drop member)] at same
      have short := congrArg List.length same
      have within := stop_le_of_find? found
      rw [List.length_drop] at short
      simp only [StatusEntry.arrow, List.length_cons, List.length_nil] at short within
      omega

/-- The new path of a move is read as it is unless an arrow stands in the old one. -/
theorem afterArrow_move_iff {source path : List Char} (filled : path ≠ [])
    (solid : ∀ c ∈ path, isBlank c = false)
    : afterArrow (source ++ [' ', '-', '>', ' '] ++ path) = path
      ↔ ¬ StatusEntry.arrow <:+: source := by
  have last : ∀ c, path.getLast? = some c → isBlank c = false :=
    fun c last => solid c (List.mem_of_getLast? last)
  by_cases inside : StatusEntry.arrow <:+: source
  · refine iff_of_false (fun same => ?_) (not_not_intro inside)
    obtain ⟨start, found⟩ := Option.isSome_iff_exists.mp (isSome_find?_iff.mpr inside)
    have within := stop_le_of_find? found
    have first : find? StatusEntry.arrow (source ++ [' ', '-', '>', ' '] ++ path) = some start := by
      refine find?_of_take found within ?_
      rw [List.append_assoc, List.take_left, List.take_length]
    -- What is left of the old path is read with the arrow of the move, which has blanks about it.
    have rest : (source ++ [' ', '-', '>', ' '] ++ path).drop (start + StatusEntry.arrow.length)
        = source.drop (start + StatusEntry.arrow.length) ++ [' '] ++ '-' :: '>' :: ' ' :: path := by
      rw [List.append_assoc, List.drop_append_of_le_length within]
      simp
    have tight : Tight ('-' :: '>' :: ' ' :: path) := by
      refine ⟨List.cons_ne_nil _ _, fun c first => ?_, fun c ends => last c ?_⟩
      · cases first
        decide
      · rwa [← List.getLast?_append_of_ne_nil ['-', '>', ' '] filled]
    rw [afterArrow, first] at same
    dsimp only at same
    rw [rest, trim_append tight] at same
    have among : ' ' ∈ path := by
      rw [← same]
      simp
    have blank := solid ' ' among
    revert blank
    decide
  · have tight : Tight path := ⟨filled, fun c first => solid c (List.mem_of_head? first), last⟩
    have rest : (source ++ [' ', '-', '>', ' '] ++ path).drop
        (source.length + 1 + StatusEntry.arrow.length) = [' '] ++ path := by
      rw [List.append_assoc, Nat.add_assoc, ← List.drop_drop, List.drop_left]
      rfl
    refine iff_of_true ?_ inside
    rw [afterArrow, find?_arrow_of_move inside]
    dsimp only
    rw [rest, trim_append tight]
    rfl

/-- What is read from the line of a change that is not that of an untracked file. -/
theorem afterArrow_mention_iff (legible : change.Legible)
    : afterArrow change.mention = change.path.toList
      ↔ ¬ StatusEntry.arrow <:+: (change.source.getD change.path).toList := by
  have solid := legible.solid change.path List.mem_cons_self
  have filled : change.path.toList ≠ [] := by
    simpa using legible.filled change.path List.mem_cons_self
  rw [Change.mention]
  cases change.source with
  | none => exact afterArrow_eq_iff solid
  | some source => exact afterArrow_move_iff filled solid

/-- The path of a change is read as it is unless it is cut. -/
theorem seenPath_eq_iff (legible : change.Legible)
    : change.seenPath = change.path ↔ ¬ change.IsCut := by
  rw [Change.seenPath, Change.IsCut]
  by_cases untracked : change.code = "??"
  · rw [if_pos untracked]
    exact iff_of_true rfl fun cut => cut.1 untracked
  · rw [if_neg untracked, and_iff_right untracked, ← afterArrow_mention_iff legible,
      ← String.toList_inj, String.toList_ofList]

/-- The line of a change is read as an entry with its code. -/
theorem ofLine_plainLine (legible : change.Legible)
    : StatusEntry.ofLine change.plainLine.toList = .ok ⟨change.code, change.seenPath⟩ := by
  have tight := legible.tight_mention
  have spelled : change.code = "??" ↔ change.staged = '?' ∧ change.unstaged = '?' := by
    rw [Change.code, ← String.toList_inj, String.toList_ofList]
    simp
  rw [change.toList_plainLine, Change.seenPath]
  by_cases untracked : change.code = "??"
  · obtain ⟨staged, unstaged⟩ := spelled.mp untracked
    have own : change.mention = change.path.toList := by
      rw [Change.mention, legible.untracked untracked]
    rw [if_pos untracked, staged, unstaged, ofLine_of_untracked tight, own, String.ofList_toList,
      untracked]
  · rw [if_neg untracked, ofLine_of_tracked tight (mt spelled.mpr untracked)]
    rfl

-----------------------------------------------------------------------------------------
-- Whole statuses
-----------------------------------------------------------------------------------------

/-- The text of a status whose paths are shown as they are. -/
def plainText (changes : List Change) : String :=
  String.join (changes.map fun change => change.plainLine ++ "\n")

/-- The line of a change is one line. -/
theorem newline_notMem_plainLine (legible : change.Legible) : '\n' ∉ change.plainLine.toList := by
  have blank : isBlank '\n' ≠ false := by decide
  have marks : '\n' ∉ codeMarks := by decide
  have staged : '\n' ≠ change.staged := fun same => marks (same ▸ legible.staged)
  have unstaged : '\n' ≠ change.unstaged := fun same => marks (same ▸ legible.unstaged)
  have path (path : String) (member : path ∈ change.paths) : '\n' ∉ path.toList :=
    fun inside => blank (legible.solid path member _ inside)
  have own := path change.path List.mem_cons_self
  have mention : '\n' ∉ change.mention := by
    rw [Change.mention]
    cases moved : change.source with
    | none => exact own
    | some source => simp [own, path source (by simp [Change.paths, moved])]
  rw [change.toList_plainLine]
  simp [staged, unstaged, mention]

theorem getLast?_plainLine (legible : change.Legible)
    : change.plainLine.toList.getLast? ≠ some '\r' := by
  have tight := legible.tight_mention
  have blank : isBlank '\r' ≠ false := by decide
  rw [change.toList_plainLine]
  intro last
  refine blank (tight.last _ ?_)
  rwa [← List.getLast?_append_of_ne_nil [change.staged, change.unstaged, ' '] tight.filled]

/-- The lines of a status are those of its changes; by induction on the changes. -/
theorem lines_plainText (legible : ∀ change ∈ changes, change.Legible)
    : lines (plainText changes).toList = changes.map (·.plainLine.toList) := by
  induction changes with
  | nil => rfl
  | cons change rest ih =>
      obtain ⟨own, others⟩ := List.forall_mem_cons.mp legible
      have split : (plainText (change :: rest)).toList
          = change.plainLine.toList ++ '\n' :: (plainText rest).toList := by
        simp [plainText]
      rw [split, lines_append_newline (newline_notMem_plainLine own) (getLast?_plainLine own),
        ih others, List.map_cons]

theorem trim_plainLine_ne_nil (legible : change.Legible) : trim change.plainLine.toList ≠ [] := by
  have tight := legible.tight_mention
  have parted : change.plainLine.toList
      = [change.staged, change.unstaged, ' '] ++ change.mention :=
    change.toList_plainLine
  rw [parted, trim_append tight]
  exact List.append_ne_nil_of_right_ne_nil _ tight.filled

/-- The entries that are read from the lines of changes. -/
def seenEntries (changes : List Change) : List StatusEntry :=
  changes.map fun change => ⟨change.code, change.seenPath⟩

/-- The lines of changes are read one by one; by induction on the changes. -/
theorem ofText_plainText (legible : ∀ change ∈ changes, change.Legible)
    : StatusEntry.ofText (plainText changes) = .ok (seenEntries changes) := by
  have shown : (changes.map (·.plainLine.toList)).filter (fun line => !(trim line).isEmpty)
      = changes.map (·.plainLine.toList) := by
    refine List.filter_eq_self.mpr (List.forall_mem_map.mpr fun change member => ?_)
    simpa using trim_plainLine_ne_nil (legible change member)
  rw [StatusEntry.ofText, lines_plainText legible, shown]
  clear shown
  induction changes with
  | nil => rfl
  | cons change rest ih =>
      obtain ⟨own, others⟩ := List.forall_mem_cons.mp legible
      rw [List.map_cons, List.mapM_cons, ofLine_plainLine own, ih others]
      rfl

/-- A check lets pass the entries whose paths begin with a text. -/
theorem checkClean_eq_ok_iff {start : String}
    : StatusEntry.checkClean entries [start] = .ok ()
      ↔ ∀ entry ∈ entries, start.toList <+: entry.path.toList := by
  have clean : StatusEntry.outside entries [start] = []
      ↔ ∀ entry ∈ entries, start.toList <+: entry.path.toList := by
    simp [StatusEntry.outside]
  rw [← clean, StatusEntry.checkClean]
  cases StatusEntry.outside entries [start] with
  | nil => simp
  | cons => simp

/-- What a status and a check make of changes. The lines, which are those of any work tree with these
changes whose paths are shown as they are, are read as entries with the codes of the changes and
with the paths, apart from those that are cut. The check goes by the paths that are read: if none is
cut, it lets pass the changes whose new paths begin as they should, and nothing is left aside if no
file was moved.
-/
theorem status_read (changes : List Change) (legible : ∀ change ∈ changes, change.Legible)
    : (∀ (repository : Repository) (files : Files) (top : Location),
        repository.changes files top = changes
        → (∀ change ∈ changes, ∀ path ∈ change.paths,
          shownPath repository.escapesAll path = path)
        → repository.statusText files top = plainText changes)
      ∧ StatusEntry.ofText (plainText changes) = .ok (seenEntries changes)
      ∧ (∀ change ∈ changes, change.seenPath = change.path ↔ ¬ change.IsCut)
      ∧ (∀ start, StatusEntry.checkClean (seenEntries changes) [start] = .ok ()
        ↔ ∀ change ∈ changes, start.toList <+: change.seenPath.toList)
      ∧ ((∀ change ∈ changes, ¬ change.IsCut)
        → ∀ start,
          (StatusEntry.checkClean (seenEntries changes) [start] = .ok ()
            ↔ ∀ change ∈ changes, start.toList <+: change.path.toList)
          ∧ ((∀ change ∈ changes, change.source = none)
            → (StatusEntry.checkClean (seenEntries changes) [start] = .ok ()
              ↔ ∀ change ∈ changes, ∀ path ∈ change.paths, start.toList <+: path.toList))) := by
  have checked (start : String) : StatusEntry.checkClean (seenEntries changes) [start] = .ok ()
      ↔ ∀ change ∈ changes, start.toList <+: change.seenPath.toList :=
    checkClean_eq_ok_iff.trans List.forall_mem_map
  have seen (change : Change) (member : change ∈ changes) := seenPath_eq_iff (legible change member)
  refine ⟨?_, ofText_plainText legible, seen, checked, fun whole start => ?_⟩
  · intro repository files top same shown
    rw [Repository.statusText, same, plainText]
    refine congrArg String.join (List.map_congr_left fun change member => ?_)
    rw [Change.line_eq_plainLine (shown change member)]
  · have news : StatusEntry.checkClean (seenEntries changes) [start] = .ok ()
        ↔ ∀ change ∈ changes, start.toList <+: change.path.toList := by
      rw [checked]
      refine forall₂_congr fun change member => ?_
      rw [(seen change member).mpr (whole change member)]
    refine ⟨news, fun still => news.trans (forall₂_congr fun change member => ?_)⟩
    simp [Change.paths, still change member]

/-- A file that was moved, and one that is not tracked and has an arrow in its path. -/
def shelved : List Change :=
  [⟨'R', ' ', ".scaffold/a", some "a"⟩, ⟨'?', '?', ".scaffold/n->m", none⟩]

theorem status_read_shelved
    : (∀ change ∈ shelved, change.Legible)
      ∧ StatusEntry.ofText (plainText shelved)
        = .ok [⟨"R ", ".scaffold/a"⟩, ⟨"??", ".scaffold/n->m"⟩]
      ∧ StatusEntry.checkClean (seenEntries shelved) [".scaffold/"] = .ok () := by
  have solid (change : Change)
      (checked : change.paths.all (fun path => path.toList.all (!isBlank ·)) = true)
      : ∀ path ∈ change.paths, ∀ c ∈ path.toList, isBlank c = false := by
    simpa using checked
  have legible : ∀ change ∈ shelved, change.Legible := by
    refine List.forall_mem_cons.mpr ⟨?_, List.forall_mem_singleton.mpr ?_⟩
    · exact ⟨by decide, by decide, by decide, by decide, solid _ (by decide)⟩
    · exact ⟨by decide, by decide, by decide, by decide, solid _ (by decide)⟩
  obtain ⟨-, read, -, -, whole⟩ := status_read shelved legible
  refine ⟨legible, read, ((whole (by decide)) ".scaffold/").1.mpr (by decide)⟩

/-- A new file outside of what may have changed, whose path is cut, and a file that was moved from
outside, are let pass.
-/
theorem checkClean_outside
    : plainText [⟨'A', ' ', "x->.scaffold/y", none⟩] = "A  x->.scaffold/y\n"
      ∧ StatusEntry.ofText "A  x->.scaffold/y\n" = .ok [⟨"A ", ".scaffold/y"⟩]
      ∧ StatusEntry.checkClean [⟨"A ", ".scaffold/y"⟩] [".scaffold/"] = .ok ()
      ∧ ¬ ".scaffold/".toList <+: "x->.scaffold/y".toList
      ∧ plainText [⟨'R', ' ', ".scaffold/a", some "a"⟩] = "R  a -> .scaffold/a\n"
      ∧ StatusEntry.ofText "R  a -> .scaffold/a\n" = .ok [⟨"R ", ".scaffold/a"⟩]
      ∧ StatusEntry.checkClean [⟨"R ", ".scaffold/a"⟩] [".scaffold/"] = .ok ()
      ∧ ¬ ".scaffold/".toList <+: "a".toList := by
  refine ⟨rfl, rfl, rfl, by decide, rfl, rfl, rfl, by decide⟩

end Groundwork.Git
