import Groundwork.Proofs.Workspace.Ready

/-!
Putting back files where files and directories may be gone. A file that is put back gets the content
that it held, in directories that are made if need be; one that was not there is removed, if it is there.
-/

namespace Groundwork.Workspace

open Files Path

variable {before files after : Files} {root path : Path} {top : Location} {loaded : Option ByteArray}
  {written : Written}

-----------------------------------------------------------------------------------------
-- Where files belong that are put back
-----------------------------------------------------------------------------------------

/-- A file that can be put back as far as its path goes: the path ends in the file's name, it is short
enough also for the file beside it, and neither of the two is on the way to the root.
-/
structure Suited (files : Files) (root : Path) (top : Location) (path : Path) : Prop where
  target : IsTarget path
  ends : ∃ init name, path.segments = init ++ [name] ∧ IsName name
  fits : refusal? (root.join path) = none
  fitsBeside : ∀ temporary, temporaryPath (root.join path) = .ok temporary → refusal? temporary = none
  short : ∀ name ∈ path.names.getLast?, (temporaryName name).utf8ByteSize ≤ nameLimit
  shortAbove : ∀ name ∈ path.names.dropLast, name.utf8ByteSize ≤ nameLimit
  apart : ∀ place, files.OnWay root place →
    place ≠ top ++ path.names ∧ place ≠ beside (top ++ path.names)

theorem Suited.of_base (suited : Suited files root top path) (base : after.base = files.base)
    : Suited after root top path := by
  refine ⟨suited.target, suited.ends, suited.fits, suited.fitsBeside, suited.short, suited.shortAbove, ?_⟩
  rintro place ⟨front, within, rfl⟩
  exact suited.apart _ ⟨front, within, by simp [Files.start, base]⟩

/-- The name that a path ends in, and those before it. -/
theorem Suited.last (suited : Suited files root top path)
    : ∃ init name,
        path.segments = init ++ [name]
        ∧ IsName name
        ∧ ".." ∉ init
        ∧ path.names = namesOf init ++ [name] := by
  obtain ⟨init, name, split, plain⟩ := suited.ends
  refine ⟨init, name, split, plain,
    fun found => suited.target.down (split ▸ List.mem_append_left _ found), ?_⟩
  rw [Path.names, split, namesOf_append, plain.namesOf_cons, namesOf_nil]

/-- Files with suitable paths, no two of them in one place, and none of them where another one, a directory
above one or the file beside one belongs.
-/
structure AllSuited (files : Files) (root : Path) (top : Location) (written : Written) : Prop where
  each : ∀ entry ∈ written, Suited files root top entry.1
  distinct : (Written.locations top written).Nodup
  separate : ∀ entry ∈ written, ∀ other ∈ written,
    ¬ IsAbove top (top ++ entry.1.names) (top ++ other.1.names)
  fresh : ∀ entry ∈ written, ∀ other ∈ written,
    ¬ beside (top ++ entry.1.names) <+: top ++ other.1.names

namespace AllSuited

theorem of_base (suited : AllSuited files root top written) (base : after.base = files.base)
    : AllSuited after root top written :=
  ⟨fun entry member => (suited.each entry member).of_base base, suited.distinct, suited.separate,
    suited.fresh⟩

theorem reverse (suited : AllSuited files root top written) : AllSuited files root top written.reverse := by
  refine ⟨fun entry member => suited.each entry (List.mem_reverse.mp member), ?_,
    fun entry member other member' =>
      suited.separate entry (List.mem_reverse.mp member) other (List.mem_reverse.mp member'),
    fun entry member other member' =>
      suited.fresh entry (List.mem_reverse.mp member) other (List.mem_reverse.mp member')⟩
  rw [Written.locations, List.map_reverse, List.nodup_reverse]
  exact suited.distinct

theorem sublist (suited : AllSuited files root top written) {some : Written} (sub : some.Sublist written)
    : AllSuited files root top some :=
  ⟨fun entry member => suited.each entry (sub.subset member), suited.distinct.sublist (sub.map _),
    fun entry member other member' =>
      suited.separate entry (sub.subset member) other (sub.subset member'),
    fun entry member other member' => suited.fresh entry (sub.subset member) other (sub.subset member')⟩

end AllSuited

-----------------------------------------------------------------------------------------
-- Trees that files can be put back into
-----------------------------------------------------------------------------------------

/-- A tree in which no file is on the way to a root, and a directory where that starts. -/
structure Unblocked (files : Files) (root : Path) : Prop where
  tree : files.IsTree
  start : files.node? (files.start root) = some .directory
  way : ∀ place content executable, files.OnWay root place →
    files.node? place ≠ some (.file content executable)

theorem Unblocked.passable (unblocked : Unblocked files root) (ground : before.Grounded root top)
    : files.Passable (files.start root) root.steps := by
  refine unblocked.tree.passable unblocked.start (walk_short_of_mem ground.walks) ?_
  intro before content executable within
  exact unblocked.way _ content executable (.start within)

theorem unblocked_of_opens (tree : files.IsTree) (opens : files.Opens root) : Unblocked files root := by
  refine ⟨tree, walk_through opens (List.nil_append _).symm, ?_⟩
  rintro place content executable ⟨front, ⟨rest, split⟩, rfl⟩ found
  exact absurd ((walk_through opens split.symm).symm.trans found) (by simp)

/-- A root leads to its directory if that is there. A root that leads up does not if a directory is gone
from which it leads up.
-/
def Reached (files : Files) (root : Path) (top : Location) : Prop :=
  files.node? top = some .directory → files.Opens root

/-- A file that can be put back: nothing but directories is above it, and no directory is in its place or
can come to be there, nor beside it if it is written there first.
-/
structure Mendable (files : Files) (root : Path) (top : Location) (path : Path)
    (loaded : Option ByteArray)
    : Prop where
  suited : Suited files root top path
  clear : ∀ place content executable, IsAbove top place (top ++ path.names) →
    files.node? place ≠ some (.file content executable)
  free : files.node? (top ++ path.names) ≠ some .directory
  unused : loaded.isSome → files.node? (beside (top ++ path.names)) ≠ some .directory

/-- A tree in which a file was put back and nothing is left beside it, and else only directories were
made, on the way to the root and above the file.
-/
structure Mended (files after : Files) (root : Path) (top : Location) (path : Path)
    (loaded : Option ByteArray)
    : Prop where
  kept : Keeps files after
  unblocked : Unblocked after root
  reached : Reached files root top → Reached after root top
  placed : after.node? (top ++ path.names)
    = loaded.map (.file · (files.executable (beside (top ++ path.names))))
  node : ∀ place, place ≠ top ++ path.names →
    after.node? place = files.node? place
    ∨ (files.node? place = none
      ∧ after.node? place = some .directory
      ∧ (files.OnWay root place ∨ IsAbove top place (top ++ path.names)))
    ∨ (loaded.isSome ∧ place = beside (top ++ path.names) ∧ after.node? place = none)

namespace Mendable

variable (mendable : Mendable files root top path loaded)
include mendable

theorem admits : Admits files root top path := by
  obtain ⟨target, -, fits, fitsBeside, short, shortAbove, -⟩ := mendable.suited
  refine ⟨fits, fitsBeside, short, shortAbove, fun way content executable within => ?_⟩
  exact mendable.clear _ content executable (target.isAbove within)

/-- A file can be put back where it could be before, if only directories were made above it and nothing
changed where it belongs and beside that.
-/
theorem change (base : after.base = files.base)
    (node : ∀ place, after.node? place = files.node? place
      ∨ place ≠ top ++ path.names ∧ place ≠ beside (top ++ path.names)
        ∧ (IsAbove top place (top ++ path.names) → after.node? place = some .directory))
    : Mendable after root top path loaded := by
  refine ⟨mendable.suited.of_base base, fun place content executable lies found => ?_, ?_, fun some => ?_⟩
  · rcases node place with same | ⟨-, -, made⟩
    · exact mendable.clear place content executable lies (same ▸ found)
    · exact absurd ((made lies).symm.trans found) (by simp)
  · rcases node (top ++ path.names) with same | ⟨elsewhere, -⟩
    · rw [same]
      exact mendable.free
    · exact absurd rfl elsewhere
  · rcases node (beside (top ++ path.names)) with same | ⟨-, elsewhere, -⟩
    · rw [same]
      exact mendable.unused some
    · exact absurd rfl elsewhere

/-- A file whose directory is there can be written with one beside it. -/
theorem accepts (ground : files.Grounded root top)
    (open_ : files.node? (top ++ path.names.dropLast) = some .directory)
    : Accepts files root top path := by
  obtain ⟨init, name, split, plain, initDown, names⟩ := mendable.suited.last
  have target := mendable.suited.target
  obtain ⟨_, above, temporary, above', last, -, -, -, names', found, under, down, same⟩ :=
    target.parts root
  obtain ⟨inner, lasts⟩ := List.append_inj' (names'.symm.trans names) rfl
  obtain rfl := (List.cons.inj lasts).1
  have short := mendable.suited.shortAbove
  have last := mendable.suited.short last (by simp [names])
  rw [names, List.dropLast_concat] at open_ short
  constructor
  · rw [names]
    exact ground.reaches_last mendable.suited.fits (split ▸ target.under root) initDown plain short
      (Nat.le_trans (size_le_temporaryName _) last) open_
  · refine ⟨temporary, found, ?_⟩
    rw [← inner, ← same] at open_ short
    rw [names', ← List.append_assoc, beside_append, ← same, List.append_assoc]
    exact ground.reaches_last (mendable.suited.fitsBeside _ found) under down
      (isName_temporaryName _) short last open_

/-- Nothing is where a file belongs whose directory is missing, and removing it finds nothing. -/
theorem missing (unblocked : Unblocked files root) (ground : before.Grounded root top)
    (here : files.locate root = top)
    (closed : files.node? (top ++ path.names.dropLast) ≠ some .directory)
    : files.node? (top ++ path.names) = none
      ∧ files.removeFile (root.join path) = .error .notFound := by
  obtain ⟨init, name, split, plain, initDown, names⟩ := mendable.suited.last
  have clear := mendable.admits.clear
  rw [names, List.dropLast_concat] at closed clear
  constructor
  · rw [names, ← List.append_assoc]
    refine Option.eq_none_iff_forall_ne_some.mpr fun node found => closed ?_
    exact unblocked.tree _ name (by rw [found]; rfl)
  · obtain ⟨same, core, idle, rootSplit, ends, steps⟩ := mendable.suited.target.under root
    have started : files.start (root.join path) = files.start root := by simp [Files.start, same]
    have way := (rootSplit ▸ unblocked.passable ground).init
    have led : follow (files.start root) core = top := by
      rw [← here, Files.locate, rootSplit, follow_append, follow_idle ends]
    rcases (way.append initDown (led ▸ clear)).walk with leads | blocked
    · have open_ := (walk_taken leads).2
      rw [follow_append, led, follow_names initDown] at open_
      exact absurd open_ closed
    · have leads : files.place (root.join path) = .error .notFound := by
        rw [place_of_fits mendable.suited.fits, started, steps, split, ← List.append_assoc]
        exact blocked name plain.counts
      simp [Files.removeFile, bind, Except.bind, leads]

end Mendable

-----------------------------------------------------------------------------------------
-- Putting back one file
-----------------------------------------------------------------------------------------

/-- Where the root leads, a file whose directory is there is put back and nothing else is changed, but
that nothing is left beside the file.
-/
theorem Mendable.restoreFile_there (mendable : Mendable files root top path loaded)
    (unblocked : Unblocked files root) (ground : files.Grounded root top)
    (open_ : files.node? (top ++ path.names.dropLast) = some .directory)
    : ∃ after,
        (restoreFile root path loaded).run.run files = (.ok (), after)
        ∧ Mended files after root top path loaded
        ∧ ∀ place, place ≠ top ++ path.names →
            after.node? place = files.node? place
            ∨ loaded.isSome ∧ place = beside (top ++ path.names) ∧ after.node? place = none := by
  have target := mendable.suited.target
  have accepts := mendable.accepts ground open_
  obtain ⟨after, ran, -, kept, node⟩ :=
    target.restoreFile_over ground accepts mendable.free mendable.unused
  have elsewhere (place : Location) (other : place ≠ top ++ path.names)
      : after.node? place = files.node? place
        ∨ loaded.isSome ∧ place = beside (top ++ path.names) ∧ after.node? place = none := by
    rw [node, if_neg other]
    split
    · next gone => exact .inr ⟨gone.1, gone.2, rfl⟩
    · exact .inl rfl
  refine ⟨after, ran, ⟨kept, ⟨fun place name found => kept.directories place ?_, ?_, ?_⟩, fun _ _ => ?_,
    by rw [node, if_pos rfl], fun place other => (elsewhere place other).imp_right .inr⟩, elsewhere⟩
  · by_cases here : place ++ [name] = top ++ path.names
    · obtain ⟨parent, last, split, open_⟩ := accepts.target.parent
      obtain ⟨rfl, -⟩ := List.append_inj' (here.trans split) rfl
      exact open_
    · rcases elsewhere _ here with same | ⟨-, -, gone⟩
      · exact unblocked.tree place name (same ▸ found)
      · simp [gone] at found
  · rw [kept.start]
    exact kept.directories _ unblocked.start
  · intro place content executable onWay found
    have onWay : files.OnWay root place := by simpa only [OnWay, kept.start] using onWay
    rcases elsewhere place (mendable.suited.apart place onWay).1 with same | ⟨-, -, gone⟩
    · exact unblocked.way place content executable onWay (same ▸ found)
    · simp [gone] at found
  · rw [Opens, kept.start, kept.locate, ← (place_taken ground.leads).1]
    exact walk_mono ground.walks kept.directories

/-- A file that has no content is removed if it is there; by cases on whether its directory is. -/
theorem Mendable.removeFile (mendable : Mendable files root top path none)
    (unblocked : Unblocked files root) (reached : Reached files root top)
    (ground : before.Grounded root top) (here : files.locate root = top)
    : ∃ after,
        (restoreFile root path none).run.run files = (.ok (), after)
        ∧ Mended files after root top path none := by
  by_cases open_ : files.node? (top ++ path.names.dropLast) = some .directory
  · have opens := reached (unblocked.tree.grounded_top.directory_above List.nil_prefix _ open_)
    have grounded := unblocked.tree.grounded ground.fits opens
    rw [here] at grounded
    obtain ⟨after, ran, mended, -⟩ := mendable.restoreFile_there unblocked grounded open_
    exact ⟨after, ran, mended⟩
  · obtain ⟨missing, removes⟩ := mendable.missing unblocked ground here open_
    refine ⟨files, ?_, .refl files, unblocked, id, missing, fun place _ => .inl rfl⟩
    simp [Workspace.restoreFile, FileAction.run_change, removes]

/-- Making the directories for a file makes a place for it. -/
theorem Mendable.makeDirectories (mendable : Mendable files root top path loaded)
    (unblocked : Unblocked files root) (ground : before.Grounded root top)
    (here : files.locate root = top) {parent : Path}
    (parents : (root.join path).parent? = some parent)
    : ∃ middle,
        files.makeDirectories parent = (middle, .ok ())
        ∧ middle.makeDirectories parent = (middle, .ok ())
        ∧ Grows files middle
            (fun place => files.OnWay root place ∨ IsAbove top place (top ++ path.names))
        ∧ Unblocked middle root
        ∧ middle.Grounded root top
        ∧ middle.node? (top ++ path.names.dropLast) = some .directory := by
  have fits := mendable.suited.fits
  obtain ⟨parent', above, _, _, name, parents', under, down, names, -⟩ :=
    mendable.suited.target.parts root
  cases parents.symm.trans parents'
  have clear := mendable.admits.clear
  rw [names, List.dropLast_concat] at clear ⊢
  obtain ⟨made, opens⟩ := Passable.makeDirectories parents fits
    ((unblocked.passable ground).under under down (here ▸ clear))
  have again := opens.makeDirectories (refusal?_parent? parents fits)
  have tree := unblocked.tree.makeDirectories parent
  have grows := makeDirectories_grows files parent
  rcases ran : files.makeDirectories parent with ⟨middle, result⟩
  rw [ran] at made opens again tree grows
  simp only at made opens again tree grows
  have rootOpens := opens.of_under under
  have grounded := tree.grounded ground.fits rootOpens
  rw [grows.keeps.locate, here] at grounded
  subst made
  refine ⟨middle, rfl, again, grows.mono fun place _ onWay => ?_, unblocked_of_opens tree rootOpens,
    grounded, ?_⟩
  · rcases onWay.under under down with above | ⟨front, within, rfl⟩
    · exact .inl above
    · rw [here, ← List.append_assoc]
      exact .inr (isAbove_append.mpr
        ⟨List.prefix_append .., (List.prefix_append_right_inj top).mpr within⟩)
  · rw [← grounded.locate_under under down]
    exact (walk_taken opens).2

/-- A file that has a content is written with it, in directories that are made if need be. -/
theorem Mendable.rewriteFile {content : ByteArray}
    (mendable : Mendable files root top path (some content)) (unblocked : Unblocked files root)
    (ground : before.Grounded root top) (here : files.locate root = top)
    : ∃ after,
        (restoreFile root path (some content)).run.run files = (.ok (), after)
        ∧ Mended files after root top path (some content) := by
  have target := mendable.suited.target
  obtain ⟨parent, _, temporary, _, _, parents, -, -, -, found, -⟩ := target.parts root
  obtain ⟨middle, made, again, grows, middleUnblocked, grounded, open_⟩ :=
    mendable.makeDirectories unblocked ground here parents
  have node (place : Location)
      : middle.node? place = files.node? place
        ∨ place ≠ top ++ path.names ∧ place ≠ beside (top ++ path.names)
          ∧ (IsAbove top place (top ++ path.names) → middle.node? place = some .directory) := by
    refine (grows.node place).imp_right ?_
    rintro ⟨-, open_, onWay | lies⟩
    · obtain ⟨elsewhere, elsewhere'⟩ := mendable.suited.apart place onWay
      exact ⟨elsewhere, elsewhere', fun _ => open_⟩
    · exact ⟨lies.other, fun same => target.not_isAbove_beside top (same ▸ lies), fun _ => open_⟩
  obtain ⟨after, ran, mended, elsewhere⟩ :=
    (mendable.change grows.base node).restoreFile_there middleUnblocked grounded open_
  refine ⟨after, ?_, grows.keeps.trans mended.kept, mended.unblocked, fun _ => mended.reached fun _ => ?_,
    ?_, fun place other => ?_⟩
  · rw [← ran]
    simp only [Workspace.restoreFile, run_bind, run_writeTemporary content parents found, made, again]
  · rw [Opens, ← (place_taken grounded.leads).1]
    exact grounded.walks
  · rcases node (beside (top ++ path.names)) with same | ⟨-, elsewhere, -⟩
    · rw [mended.placed, Files.executable, Files.executable, same]
    · exact absurd rfl elsewhere
  · rcases elsewhere place other with same | gone
    · rw [same]
      exact (grows.node place).imp_right .inl
    · exact .inr (.inr gone)

/-- A file that can be put back is put back. If it has no content, the root leads to where it belongs. -/
theorem Mendable.restoreFile (mendable : Mendable files root top path loaded)
    (unblocked : Unblocked files root) (reached : loaded = none → Reached files root top)
    (ground : before.Grounded root top) (here : files.locate root = top)
    : ∃ after,
        (restoreFile root path loaded).run.run files = (.ok (), after)
        ∧ Mended files after root top path loaded := by
  cases loaded with
  | none => exact mendable.removeFile unblocked (reached rfl) ground here
  | some content => exact mendable.rewriteFile unblocked ground here

-----------------------------------------------------------------------------------------
-- Putting back all files
-----------------------------------------------------------------------------------------

/-- Files with suitable paths that can be put back, each of them. -/
structure AllMendable (files : Files) (root : Path) (top : Location) (written : Written) : Prop where
  suited : AllSuited files root top written
  each : ∀ entry ∈ written, Mendable files root top entry.1 entry.2

section AfterOne

variable {entry other : Path × Option ByteArray} {rest : Written}

/-- Putting back a file changes nothing about another one, but that directories are made above it. -/
theorem AllSuited.apart (suited : AllSuited files root top (entry :: rest))
    (mended : Mended files after root top entry.1 entry.2) (member : other ∈ rest) (place : Location)
    : after.node? place = files.node? place
      ∨ place ≠ top ++ other.1.names ∧ place ≠ beside (top ++ other.1.names)
        ∧ (IsAbove top place (top ++ other.1.names) → after.node? place = some .directory) := by
  have first : entry ∈ entry :: rest := List.mem_cons_self
  have later : other ∈ entry :: rest := List.mem_cons_of_mem _ member
  have apart : top ++ entry.1.names ≠ top ++ other.1.names := fun same =>
    (List.nodup_cons.mp suited.distinct).1 (List.mem_map.mpr ⟨other, member, same.symm⟩)
  by_cases here : place = top ++ entry.1.names
  · subst here
    refine .inr ⟨apart, fun same => ?_, fun lies => absurd lies (suited.separate entry first other later)⟩
    exact suited.fresh other later entry first (same ▸ List.prefix_rfl)
  · refine (mended.node place here).imp_right ?_
    rintro (⟨-, open_, onWay | lies⟩ | ⟨-, rfl, -⟩)
    · obtain ⟨elsewhere, elsewhere'⟩ := (suited.each other later).apart place onWay
      exact ⟨elsewhere, elsewhere', fun _ => open_⟩
    · refine ⟨fun same => ?_, fun same => ?_, fun _ => open_⟩
      · exact suited.separate other later entry first (same ▸ lies)
      · exact suited.fresh other later entry first (same ▸ lies.within)
    · refine ⟨fun same => suited.fresh entry first other later (same ▸ List.prefix_rfl), fun same => ?_,
        fun lies => absurd lies.within (suited.fresh entry first other later)⟩
      have filled {path : Path} (target : IsTarget path) : top ++ path.names ≠ [] := by
        simp [target.named]
      exact apart (beside_injective (filled (suited.each entry first).target)
        (filled (suited.each other later).target) same)

/-- The other files can be put back after one of them was. -/
theorem AllMendable.tail (all : AllMendable files root top (entry :: rest))
    (mended : Mended files after root top entry.1 entry.2)
    : AllMendable after root top rest :=
  ⟨(all.suited.sublist (List.sublist_cons_self ..)).of_base mended.kept.base, fun other member =>
    (all.each other (List.mem_cons_of_mem _ member)).change mended.kept.base
      (all.suited.apart mended member)⟩

end AfterOne

/-- Files are put back one after the other and nothing is left beside them, and else only directories are
made, on the way to the root and above the files; by induction on them.
-/
theorem restoreFiles_mended (all : AllMendable files root top written)
    (unblocked : Unblocked files root)
    (reached : (∃ entry ∈ written, entry.2 = none) → Reached files root top)
    (ground : before.Grounded root top) (here : files.locate root = top)
    : ∃ after,
        (restoreFiles root written).run.run files = (.ok (), after)
        ∧ Keeps files after
        ∧ (∀ entry ∈ written, after.node? (top ++ entry.1.names)
            = entry.2.map (.file · (files.executable (beside (top ++ entry.1.names)))))
        ∧ ∀ place, (∀ entry ∈ written, place ≠ top ++ entry.1.names) →
            after.node? place = files.node? place
            ∨ (files.node? place = none
              ∧ after.node? place = some .directory
              ∧ (files.OnWay root place
                ∨ ∃ entry ∈ written, IsAbove top place (top ++ entry.1.names)))
            ∨ ∃ entry ∈ written,
                place = beside (top ++ entry.1.names) ∧ after.node? place = none := by
  induction written generalizing files with
  | nil => exact ⟨files, rfl, .refl files, by simp, fun place _ => .inl rfl⟩
  | cons entry rest ih =>
      have suited := all.suited
      have among : entry ∈ entry :: rest := List.mem_cons_self
      have later {other : Path × Option ByteArray} (member : other ∈ rest) : other ∈ entry :: rest :=
        List.mem_cons_of_mem _ member
      have first := all.each entry among
      obtain ⟨middle, ran, mended⟩ := first.restoreFile unblocked
        (fun none => reached ⟨entry, among, none⟩) ground here
      have onWay (place : Location) : middle.OnWay root place ↔ files.OnWay root place := by
        simp only [OnWay, mended.kept.start]
      have still : (∃ other ∈ rest, other.2 = none) → Reached middle root top := by
        rintro ⟨other, member, removed⟩
        exact mended.reached (reached ⟨other, later member, removed⟩)
      obtain ⟨after, runs, kept, placed, node⟩ :=
        ih (all.tail mended) mended.unblocked still ((mended.kept.locate root).trans here)
      refine ⟨after, ?_, mended.kept.trans kept,
        List.forall_mem_cons.mpr ⟨?_, fun other member => ?_⟩, fun place elsewhere => ?_⟩
      · simp only [restoreFiles, run_bind, ran, runs]
      · have distinct := (List.nodup_cons.mp suited.distinct).1
        rcases node (top ++ entry.1.names) fun other member same =>
            distinct (List.mem_map.mpr ⟨other, member, same.symm⟩) with
          same | ⟨-, -, way | ⟨other, member, lies⟩⟩ | ⟨other, member, same, -⟩
        · rw [same, mended.placed]
        · exact absurd rfl (first.suited.apart _ ((onWay _).mp way)).1
        · exact absurd lies (suited.separate entry among other (later member))
        · exact absurd (same ▸ List.prefix_rfl) (suited.fresh other (later member) entry among)
      · rcases suited.apart mended member (beside (top ++ other.1.names)) with same | ⟨-, elsewhere, -⟩
        · rw [placed other member, Files.executable, Files.executable, same]
        · exact absurd rfl elsewhere
      · obtain ⟨other, others⟩ := List.forall_mem_cons.mp elsewhere
        rcases node place others with same | ⟨missing, open_, lies⟩ | ⟨file, member, here, gone⟩
        · rw [same]
          refine (mended.node place other).imp_right (.imp ?_ ?_)
          · rintro ⟨missing, open_, lies⟩
            exact ⟨missing, open_, lies.imp_right fun lies => ⟨entry, among, lies⟩⟩
          · rintro ⟨-, here, gone⟩
            exact ⟨entry, among, here, gone⟩
        · rcases mended.node place other with same | ⟨-, made, -⟩ | ⟨-, rfl, -⟩
          · refine .inr (.inl ⟨same ▸ missing, open_, lies.imp (onWay place).mp ?_⟩)
            rintro ⟨file, member, lies⟩
            exact ⟨file, later member, lies⟩
          · exact absurd (made.symm.trans missing) (by simp)
          · rcases lies with way | ⟨file, member, lies⟩
            · exact absurd rfl (first.suited.apart _ ((onWay _).mp way)).2
            · exact absurd lies.within (suited.fresh entry among file (later member))
        · exact .inr (.inr ⟨file, later member, here, gone⟩)

-----------------------------------------------------------------------------------------
-- Putting back what a commit wrote
-----------------------------------------------------------------------------------------

/-- The files that a commit wrote have suitable paths. -/
theorem Ready.allSuited {batch : List StagedFile} (ready : Ready before root top batch)
    (ground : before.Grounded root top) (whole : Batch before top batch)
    : AllSuited before root top (writtenOf batch) := by
  have locations : Written.locations top (writtenOf batch) = batch.map (·.location top) := by
    simp [Written.locations, writtenOf, StagedFile.location]
  refine ⟨fun entry member => ?_, locations ▸ ready.distinct, fun entry member other member' => ?_,
    fun entry member other member' => ?_⟩
  · obtain ⟨file, inside, rfl⟩ := List.mem_map.mp member
    have admits := ready.admits file inside
    refine ⟨whole.target file inside, ready.ends file inside, admits.fits, admits.fitsBeside,
      admits.short, admits.clear.short, fun place onWay => ?_⟩
    have open_ := directory_of_onWay ground.leads onWay
    refine ⟨?_, ?_⟩ <;> rintro rfl
    · exact ready.free file inside open_
    · exact absurd (open_.symm.trans (whole.unused file inside)) (by simp)
  · obtain ⟨file, inside, rfl⟩ := List.mem_map.mp member
    obtain ⟨file', inside', rfl⟩ := List.mem_map.mp member'
    exact ready.apart file inside file' inside'
  · obtain ⟨file, inside, rfl⟩ := List.mem_map.mp member
    obtain ⟨file', inside', rfl⟩ := List.mem_map.mp member'
    exact whole.apart file inside file' inside'

/-- A tree in which no file is on the way to a root that led to a directory once. A root that leads up
somewhere leads there still if that directory is there.
-/
structure Receives (files : Files) (root : Path) (top : Location) : Prop where
  tree : files.IsTree
  start : files.node? (files.start root) = some .directory
  way : ∀ place content executable, files.OnWay root place →
    files.node? place ≠ some (.file content executable)
  reached : ".." ∈ root.steps → files.node? top = some .directory → files.Opens root

theorem Receives.unblocked (receives : Receives files root top) : Unblocked files root :=
  ⟨receives.tree, receives.start, receives.way⟩

/-- The root leads to its directory if that is there. -/
theorem Receives.reaches (receives : Receives files root top) (ground : before.Grounded root top)
    (here : files.locate root = top)
    : Reached files root top := by
  intro open_
  by_cases up : ".." ∈ root.steps
  · exact receives.reached up open_
  · exact receives.tree.opens up (walk_short up ground.walks) (here ▸ open_)

/-- What may become of a tree after files were written: each of them is changed or gone, no file has come
to be above it or on the way to the root, and nothing has the name of a temporary file.
-/
structure Recoverable (files : Files) (root : Path) (top : Location) (written : Written) : Prop where
  receives : Receives files root top
  free : ∀ entry ∈ written, files.node? (top ++ entry.1.names) ≠ some .directory
  above : ∀ entry ∈ written, ∀ place content executable,
    IsAbove top place (top ++ entry.1.names) → files.node? place ≠ some (.file content executable)
  unused : ∀ entry ∈ written, files.node? (beside (top ++ entry.1.names)) = none

/-- What was written can be put back, whatever became of it. -/
theorem Recoverable.allMendable (recoverable : Recoverable files root top written)
    (suited : AllSuited files root top written)
    : AllMendable files root top written.reverse := by
  refine ⟨suited.reverse, fun entry member => ?_⟩
  have member := List.mem_reverse.mp member
  exact ⟨suited.each entry member, recoverable.above entry member, recoverable.free entry member,
    fun _ => by simp [recoverable.unused entry member]⟩

end Groundwork.Workspace
