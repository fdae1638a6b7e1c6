import Groundwork.Proofs.Workspace.Mending

/-!
Putting back files into any tree, where others may be in their way. A file can be put back by itself or it
cannot; files are put back one after the other, up to the first that cannot be, and those after it are
left as they are.
-/

namespace Groundwork.Workspace

open Files Path

variable {before files after : Files} {root path : Path} {top : Location} {written : Written}

-----------------------------------------------------------------------------------------
-- Files that can be put back by themselves
-----------------------------------------------------------------------------------------

/-- A location has a file with a content, or nothing if there is none to have. -/
def Holds (files : Files) (location : Location) (loaded : Option ByteArray) : Prop :=
  ∃ executable, files.node? location = loaded.map (.file · executable)

/-- A file that can be put back by itself: doing so goes through and leaves it with its content, or gone.
One that is to be removed is looked for where it is, for the root leads to its directory if that is there.
-/
structure Revertible (files : Files) (root : Path) (top : Location) (entry : Path × Option ByteArray)
    : Prop where
  reached : entry.2 = none → Reached files root top
  reverts : ∃ after,
    (restoreFile root entry.1 entry.2).run.run files = (.ok (), after)
    ∧ Holds after (top ++ entry.1.names) entry.2

/-- A file that is removed where the root leads can be put back by itself, being gone then. -/
theorem revertible_of_removed (opens : files.Opens root)
    (removed : ((restoreFile root path none).run.run files).1.toOption = some ())
    (gone : ((restoreFile root path none).run.run files).2.node? (top ++ path.names) = none)
    : Revertible files root top (path, none) := by
  rcases ran : (restoreFile root path none).run.run files with ⟨failure | _, after⟩ <;>
    rw [ran] at removed gone
  · cases removed
  · exact ⟨fun _ _ => opens, after, ran, false, gone⟩

/-- A file with a content that is put back is written beside its place, in a directory that is there or
can be made, and moved.
-/
theorem parts_of_restoreFile {parent temporary : Path} {content : ByteArray}
    (parents : (root.join path).parent? = some parent)
    (found : temporaryPath (root.join path) = .ok temporary)
    (ran : (restoreFile root path (some content)).run.run files = (.ok (), after))
    : ∃ middle drafted,
        files.makeDirectories parent = (middle, .ok ())
        ∧ middle.write temporary content = .ok drafted
        ∧ drafted.rename temporary (root.join path) = .ok after := by
  simp only [restoreFile, run_bind, run_writeTemporary content parents found] at ran
  rcases made : files.makeDirectories parent with ⟨middle, fault | _⟩ <;> simp only [made] at ran
  · cases ran
  · cases wrote : middle.write temporary content with
    | error fault =>
        simp only [wrote] at ran
        cases ran
    | ok drafted =>
        simp only [wrote, FileAction.run_change] at ran
        cases moved : drafted.rename temporary (root.join path) <;> simp only [moved] at ran <;> cases ran
        exact ⟨middle, drafted, rfl, wrote, moved⟩

/-- Removing a file that may be gone removes it, or finds nothing. -/
theorem removal_of_restoreFile
    (ran : (restoreFile root path none).run.run files = (.ok (), after))
    : files.removeFile (root.join path) = .ok after
      ∨ files.removeFile (root.join path) = .error .notFound ∧ after = files := by
  rw [restoreFile, FileAction.run_change] at ran
  cases removed : files.removeFile (root.join path) with
  | ok tree =>
      simp only [removed] at ran
      cases ran
      exact .inl rfl
  | error fault =>
      cases fault <;> simp only [removed] at ran <;> cases ran
      exact .inr ⟨rfl, rfl⟩

namespace Suited

variable (suited : Suited files root top path)
include suited

/-- Where a file could be written beside its place, the root leads to its directory, and the one that is
above the file is there.
-/
theorem open_of_write (tree : files.IsTree) (ground : before.Grounded root top)
    (here : files.locate root = top) {temporary : Path} {content : ByteArray} {drafted : Files}
    (found : temporaryPath (root.join path) = .ok temporary)
    (wrote : files.write temporary content = .ok drafted)
    : files.Opens root
      ∧ files.Grounded root top
      ∧ files.node? (top ++ path.names.dropLast) = some .directory := by
  obtain ⟨_, above, _, above', name, -, -, -, names, found', under, down, same⟩ := suited.target.parts root
  cases found.symm.trans found'
  have plain := isName_temporaryName name
  have holds := canHold_of_write wrote
  have opens : files.Opens root := by
    obtain ⟨_, _, leads⟩ | ⟨_, _, -, leads⟩ := holds <;> exact opens_of_place under plain leads
  have grounded := tree.grounded ground.fits opens
  rw [here] at grounded
  refine ⟨opens, grounded, ?_⟩
  have reach := grounded.reaches_of_canHold under (by simp [down, plain.down.symm]) holds
  rw [suited.target.locate_temporary grounded found, names, ← List.append_assoc, beside_append,
    List.append_assoc] at reach
  rw [names, List.dropLast_concat]
  exact (reach.clear grounded).2.2

/-- Where a file with a content was put back, nothing was in the way to the root and in that of the file:
the directories that were made for it lead there.
-/
theorem mendable_of_rewritten (tree : files.IsTree) (ground : before.Grounded root top)
    (here : files.locate root = top) {content : ByteArray}
    (ran : (restoreFile root path (some content)).run.run files = (.ok (), after))
    : Unblocked files root ∧ Mendable files root top path (some content) := by
  have target := suited.target
  obtain ⟨parent, above, temporary, _, name, parents, parentUnder, -, names, found, -⟩ := target.parts root
  obtain ⟨middle, drafted, made, wrote, moved⟩ := parts_of_restoreFile parents found ran
  have grows := makeDirectories_grows files parent
  have middleTree := tree.makeDirectories parent
  simp only [made] at grows middleTree
  obtain ⟨opens, grounded, open_⟩ :=
    (suited.of_base grows.keeps.base).open_of_write middleTree ground
      ((grows.keeps.locate root).trans here) found wrote
  have unblocked := unblocked_of_opens middleTree opens
  obtain ⟨besideFree, rfl⟩ := admits_of_write wrote
  rw [target.locate_temporary grounded found] at besideFree
  refine ⟨⟨tree, ?_, fun place content executable onWay there => ?_⟩, suited,
    fun place content executable lies there => ?_, fun there => ?_, fun _ there => ?_⟩
  · by_contra closed
    have started : files.start parent = files.start root := by simp [Files.start, parentUnder.start]
    have still := makeDirectories_closed (started ▸ closed)
    simp only [made] at still
    subst still
    exact closed unblocked.start
  · refine unblocked.way place content executable ?_ (grows.found there)
    simpa only [OnWay, grows.keeps.start] using onWay
  · rw [names, List.dropLast_concat] at open_
    rw [names, ← List.append_assoc, isAbove_append] at lies
    obtain ⟨below, rest, split⟩ := lies
    have directory := grounded.directory_above below rest (split ▸ open_)
    exact absurd (directory.symm.trans (grows.found there)) (by simp)
  · obtain ⟨-, -, -, admits, -⟩ := admits_of_rename moved
    have kept : Keeps middle (middle.setNode (middle.locate temporary) (.file content
        (middle.executable (middle.locate temporary)))) :=
      keeps_setNode (target.locate_temporary grounded found ▸ besideFree.free) _
    rw [kept.locate, target.locate grounded] at admits
    exact admits.free (kept.directories _ (grows.found there))
  · exact besideFree.free (grows.found there)

/-- Where a file was removed or was not there, nothing else was in its place and in the way there, if the
root leads to its directory or that is not there.
-/
theorem mendable_of_removed (unblocked : Unblocked files root) (reached : Reached files root top)
    (ground : before.Grounded root top) (here : files.locate root = top)
    (ran : (restoreFile root path none).run.run files = (.ok (), after))
    (gone : after.node? (top ++ path.names) = none)
    : Mendable files root top path none := by
  have target := suited.target
  by_cases opens : files.Opens root
  · have grounded := unblocked.tree.grounded ground.fits opens
    rw [here] at grounded
    refine ⟨suited, fun place content executable lies found => ?_, fun open_ => ?_, nofun⟩
    · obtain ⟨⟨way, rfl⟩, within, other⟩ := lies
      obtain ⟨more, split⟩ := (List.prefix_append_right_inj top).mp within
      obtain ⟨fault, blocked, other_⟩ := grounded.walk_blocked List.prefix_rfl target.down split.symm
        (by rintro rfl; exact other (by rw [← split, List.append_nil])) found
      rw [← grounded.place_under (target.under root) suited.fits] at blocked
      have removes : files.removeFile (root.join path) = .error fault := by
        simp [Files.removeFile, bind, Except.bind, blocked]
      rcases removal_of_restoreFile ran with removed | ⟨missing, -⟩
      · cases removes.symm.trans removed
      · cases removes.symm.trans missing
        exact other_ rfl
    · rcases removal_of_restoreFile ran with removed | ⟨-, rfl⟩
      · exact (target.locate grounded ▸ (dropNode_of_removeFile removed).1) open_
      · cases gone.symm.trans open_
  · have empty (more : Location) : files.node? (top ++ more) = none := by
      refine Option.eq_none_iff_forall_ne_some.mpr fun node found => opens (reached ?_)
      cases more with
      | cons name rest =>
          exact unblocked.tree.grounded_top.above List.nil_prefix _ (List.cons_ne_nil name rest)
            (by rw [found]; rfl)
      | nil =>
          rw [List.append_nil] at found
          cases node with
          | directory => exact found
          | file content executable =>
              exact absurd found (unblocked.way top content executable (here ▸ .locate files root))
    refine ⟨suited, fun place content executable lies found => ?_, fun open_ => ?_, nofun⟩
    · obtain ⟨⟨way, rfl⟩, -⟩ := lies
      cases (empty way).symm.trans found
    · cases (empty path.names).symm.trans open_

/-- Where the root does not lead, removing a file finds nothing. -/
theorem unchanged_of_removed (closed : ¬ files.Opens root)
    (ran : (restoreFile root path none).run.run files = (.ok (), after))
    : after = files := by
  rcases removal_of_restoreFile ran with removed | ⟨-, same⟩
  · simp only [Files.removeFile, bind, Except.bind] at removed
    split at removed
    · cases removed
    · next leads =>
        obtain ⟨init, name, split, plain, -⟩ := suited.last
        exact absurd (opens_of_place (split ▸ suited.target.under root) plain leads) closed
  · exact same

end Suited

theorem restoreFiles_idle
    (idle : ∀ entry ∈ written, (restoreFile root entry.1 entry.2).run.run files = (.ok (), files))
    : (restoreFiles root written).run.run files = (.ok (), files) := by
  induction written with
  | nil => rfl
  | cons entry rest ih =>
      obtain ⟨first, others⟩ := List.forall_mem_cons.mp idle
      simp only [restoreFiles, run_bind, first, ih others]

/-- Files that can be put back each by itself are put back one after the other: if no file is on the way to
the root each of them is mended, and otherwise all of them are to be removed and none is there.
-/
theorem restoreFiles_revertible (suited : AllSuited files root top written) (tree : files.IsTree)
    (ground : before.Grounded root top) (here : files.locate root = top)
    (revertible : ∀ entry ∈ written, Revertible files root top entry)
    : ∃ after,
        (restoreFiles root written).run.run files = (.ok (), after)
        ∧ Keeps files after
        ∧ ∀ entry ∈ written, Holds after (top ++ entry.1.names) entry.2 := by
  by_cases unblocked : Unblocked files root
  · have all : AllMendable files root top written := by
      refine ⟨suited, fun ⟨path, loaded⟩ member => ?_⟩
      obtain ⟨reached, after, ran, executable, node⟩ := revertible _ member
      cases loaded with
      | some content => exact ((suited.each _ member).mendable_of_rewritten tree ground here ran).2
      | none =>
          exact (suited.each _ member).mendable_of_removed unblocked (reached rfl) ground here ran node
    obtain ⟨after, ran, kept, placed, -⟩ := restoreFiles_mended all unblocked
      (fun ⟨entry, member, removed⟩ => (revertible entry member).reached removed) ground here
    exact ⟨after, ran, kept, fun entry member => ⟨_, placed entry member⟩⟩
  · have closed : ¬ files.Opens root := fun opens => unblocked (unblocked_of_opens tree opens)
    have idle : ∀ entry ∈ written,
        (restoreFile root entry.1 entry.2).run.run files = (.ok (), files)
        ∧ Holds files (top ++ entry.1.names) entry.2 := by
      rintro ⟨path, loaded⟩ member
      obtain ⟨-, after, ran, holds⟩ := revertible _ member
      cases loaded with
      | some content =>
          exact absurd ((suited.each _ member).mendable_of_rewritten tree ground here ran).1 unblocked
      | none =>
          obtain rfl := (suited.each _ member).unchanged_of_removed closed ran
          exact ⟨ran, holds⟩
    exact ⟨files, restoreFiles_idle fun entry member => (idle entry member).1, .refl files,
      fun entry member => (idle entry member).2⟩

-----------------------------------------------------------------------------------------
-- Putting back files up to the first that cannot be
-----------------------------------------------------------------------------------------

theorem restoreFiles_append (root : Path) (first second : Written)
    : restoreFiles root (first ++ second)
      = restoreFiles root first >>= fun _ => restoreFiles root second := by
  induction first with
  | nil => simp [restoreFiles]
  | cons entry rest ih => simp [restoreFiles, ih]

/-- Putting back files that fails does so at one of them, and those after it are left out; by induction on
the files.
-/
theorem restoreFiles_failed {failure : Failure}
    (ran : (restoreFiles root written).run.run files = (.error failure, after))
    : ∃ first entry second,
        written = first ++ entry :: second
        ∧ (restoreFiles root (first ++ [entry])).run.run files = (.error failure, after) := by
  induction written generalizing files with
  | nil => cases ran
  | cons entry rest ih =>
      rw [restoreFiles, run_bind] at ran
      rcases one : (restoreFile root entry.1 entry.2).run.run files with ⟨fault | _, middle⟩ <;>
        simp only [one] at ran
      · cases ran
        exact ⟨[], entry, rest, rfl, by simp only [List.nil_append, restoreFiles, run_bind, one]⟩
      · obtain ⟨first, last, second, rfl, stops⟩ := ih ran
        refine ⟨entry :: first, last, second, rfl, ?_⟩
        simp only [List.cons_append, restoreFiles, run_bind, one, stops]

/-- Putting back files, whether or not it fails, changes nothing where another one belongs. -/
theorem AllSuited.spares (suited : AllSuited files root top written) (here : files.locate root = top)
    {entry : Path × Option ByteArray} (member : entry ∈ written) {some : Written}
    (among : ∀ other ∈ some, other ∈ written ∧ top ++ other.1.names ≠ top ++ entry.1.names)
    : FileAction.Spares files.base (top ++ entry.1.names) (restoreFiles root some) := by
  refine (restoreFiles_madeOf fun other inside => ?_).spares
  obtain ⟨member', apart⟩ := among other inside
  have target := (suited.each other member').target
  have leads {tree : Files} (base : tree.base = files.base) : tree.locate root = top := by
    simpa [Files.locate, Files.start, base] using here
  refine permits_of_misses (fun temporary found tree base same => ?_) fun tree base onWay => ?_
  · rw [target.locate_beside (leads base) found] at same
    exact suited.fresh other member' entry member (same ▸ List.prefix_rfl)
  · rcases onWay.under (target.under root) target.down with onWay | ⟨way, within, same⟩
    · have onWay : files.OnWay root (top ++ entry.1.names) := by
        simpa only [OnWay, Files.start, base] using onWay
      exact absurd rfl ((suited.each entry member).apart _ onWay).1
    · rw [leads base] at same
      refine suited.separate entry member other member' ⟨List.prefix_append .., ?_, Ne.symm apart⟩
      rw [same]
      exact (List.prefix_append_right_inj top).mpr within

/-- What becomes of files that are put back, the last that was written first. A file holds what it held if
it can be put back by itself and so can all that were written after it. If one cannot be, those that were
written before it are left as they are.
-/
structure Reverted {α : Type} (files after : Files) (root : Path) (top : Location) (written : Written)
    (outcome : Except Failure α)
    : Prop where
  holds : ∀ front entry back, written = front ++ entry :: back →
    (∀ other ∈ entry :: back, Revertible files root top other) →
    Holds after (top ++ entry.1.names) entry.2
  stops : ∀ failure, outcome = .error failure →
    ∃ front entry back,
      written = front ++ entry :: back
      ∧ (∃ other ∈ entry :: back, ¬ Revertible files root top other)
      ∧ ∀ other ∈ front,
          after.node? (top ++ other.1.names) = files.node? (top ++ other.1.names)

/-- Files of two lists are at other locations. -/
theorem AllSuited.ne_of_append {first second : Written}
    (suited : AllSuited files root top (first ++ second)) {one other : Path × Option ByteArray}
    (member : one ∈ first) (member' : other ∈ second)
    : top ++ one.1.names ≠ top ++ other.1.names := by
  have distinct := suited.distinct
  rw [Written.locations, List.map_append, List.nodup_append] at distinct
  exact distinct.2.2 _ (List.mem_map_of_mem member) _ (List.mem_map_of_mem member')

theorem restoreFiles_of_restore {workspace : Workspace} (wet : workspace.dryRun = false)
    {outcome : Except Failure Workspace}
    (ran : (workspace.restore written).run.run files = (outcome, after))
    : (restoreFiles workspace.root written.reverse).run.run files = (outcome.map fun _ => (), after) := by
  simp only [restore, wet, Bool.false_eq_true, if_false, run_bind] at ran
  rcases restores : (restoreFiles workspace.root written.reverse).run.run files with
    ⟨failure | _, tree⟩ <;> simp only [restores] at ran <;> cases ran <;> rfl

/-- Files are put back from the last one on, up to the first that cannot be. -/
theorem restore_reverted {workspace : Workspace} (wet : workspace.dryRun = false)
    (suited : AllSuited files workspace.root top written) (tree : files.IsTree)
    (ground : before.Grounded workspace.root top) (here : files.locate workspace.root = top)
    {outcome : Except Failure Workspace}
    (ran : (workspace.restore written).run.run files = (outcome, after))
    : Reverted files after workspace.root top written outcome := by
  have runs := restoreFiles_of_restore wet ran
  constructor
  · rintro front entry back rfl revertible
    have suited := suited.reverse
    rw [List.reverse_append] at runs suited
    obtain ⟨middle, restores, kept, holds⟩ := restoreFiles_revertible
      (suited.sublist (List.sublist_append_left ..)) tree ground here
      fun other member => revertible other (List.mem_reverse.mp member)
    have member : entry ∈ (entry :: back).reverse := List.mem_reverse.mpr List.mem_cons_self
    obtain ⟨-, same⟩ := suited.spares here (List.mem_append_left _ member)
      (fun other inside => ⟨List.mem_append_right _ inside, (suited.ne_of_append member inside).symm⟩)
      middle kept.base
    simp only [restoreFiles_append, run_bind, restores] at runs
    rw [runs] at same
    obtain ⟨executable, node⟩ := holds entry member
    exact ⟨executable, same.trans node⟩
  · rintro failure rfl
    obtain ⟨first, entry, second, split, stopped⟩ := restoreFiles_failed runs
    have suited := split ▸ suited.reverse
    rw [List.append_cons] at suited
    refine ⟨second.reverse, entry, first.reverse, ?_, ?_, fun other member => ?_⟩
    · rw [← List.reverse_reverse written, split]
      simp
    · by_contra revertible
      push Not at revertible
      obtain ⟨_, passes, -⟩ := restoreFiles_revertible (suited.sublist (List.sublist_append_left ..)) tree
        ground here fun other member => revertible other (by simpa [or_comm] using member)
      cases passes.symm.trans stopped
    · have member := List.mem_reverse.mp member
      obtain ⟨-, same⟩ := suited.spares here (List.mem_append_right _ member)
        (fun one inside => ⟨List.mem_append_left _ inside, suited.ne_of_append inside member⟩) files rfl
      rwa [stopped] at same

end Groundwork.Workspace
