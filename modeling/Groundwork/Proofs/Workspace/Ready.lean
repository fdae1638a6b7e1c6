import Groundwork.Proofs.Workspace.Calls
import Groundwork.Proofs.Workspace.Commit
import Mathlib.Data.List.Nodup

/-!
Commits that go through: what it takes for that, and the tree that they leave, node by node.
-/

namespace Groundwork.Workspace

open Files Path

variable {before files after : Files} {root : Path} {top : Location}
  {batch moved : List StagedFile} {prepared : List Prepared}

/-- What it takes for a batch to be committed: no directory is at the place of a file, every file can
be written beside its place, its path ends in its name, and no file belongs where another one or a
directory above another one does.
-/
structure Ready (before : Files) (root : Path) (top : Location) (batch : List StagedFile)
    : Prop where
  free : ∀ file ∈ batch, before.node? (file.location top) ≠ some .directory
  admits : ∀ file ∈ batch, Admits before root top file.path
  ends : ∀ file ∈ batch, ∃ init name, file.path.segments = init ++ [name] ∧ IsName name
  distinct : (batch.map (·.location top)).Nodup
  apart : ∀ file ∈ batch, ∀ other ∈ batch,
    ¬ IsAbove top (file.location top) (other.location top)

/-- The tree that a commit leaves: every file is at its place with its new content, what lies above
it are directories, and everything else is as it was.
-/
structure Committed (before after : Files) (root : Path) (top : Location)
    (batch : List StagedFile)
    : Prop where
  base : after.base = before.base
  ground : after.Grounded root top
  placed : ∀ file ∈ batch, after.node? (file.location top) = some (plainFile file.content)
  made : ∀ file ∈ batch, ∀ place, IsAbove top place (file.location top) →
    after.node? place = some .directory
  rest : ∀ place, top <+: place →
    (∀ file ∈ batch, place ≠ file.location top ∧ ¬ IsAbove top place (file.location top)) →
    after.node? place = before.node? place

/-- A commit leaves trees that are the same below the root if they were the same there but for the
places of its files and what lies above them.
-/
theorem Committed.sameBelow {other tree : Files} (first : Committed before after root top batch)
    (second : Committed other tree root top batch) (base : other.base = before.base)
    (same : ∀ place, top <+: place →
      (∀ file ∈ batch, place ≠ file.location top ∧ ¬ IsAbove top place (file.location top)) →
      other.node? place = before.node? place)
    : SameBelow root top after tree := by
  refine ⟨second.base.trans (base.trans first.base.symm),
    second.ground.leads.trans first.ground.leads.symm, fun place below => ?_⟩
  by_cases touched : ∃ file ∈ batch, place = file.location top ∨ IsAbove top place (file.location top)
  · obtain ⟨file, member, rfl | lies⟩ := touched
    · rw [first.placed file member, second.placed file member]
    · rw [first.made file member place lies, second.made file member place lies]
  · have elsewhere : ∀ file ∈ batch,
        place ≠ file.location top ∧ ¬ IsAbove top place (file.location top) :=
      fun file member => ⟨fun here => touched ⟨file, member, .inl here⟩,
        fun lies => touched ⟨file, member, .inr lies⟩⟩
    rw [first.rest place below elsewhere, second.rest place below elsewhere,
      same place below elsewhere]

-----------------------------------------------------------------------------------------
-- What files that are moved to their places leave
-----------------------------------------------------------------------------------------

/-- When all files are moved to their places, the first of them is moved there first. -/
theorem rename_of_place {p : Prepared} {written : Written}
    (ran : (place root (writtenOf moved) (p :: prepared)).run.run files = (.ok written, after))
    : ∃ middle,
        files.rename p.temporary p.target = .ok middle
        ∧ (place root (writtenOf (moved ++ [p.file])) prepared).run.run middle
          = (.ok written, after) := by
  have moves : writtenOf moved ++ [(p.file.path, p.file.loaded)] = writtenOf (moved ++ [p.file]) := by
    simp [writtenOf]
  rw [place, run_bind, FileAction.run_orUndo, FileAction.run_change, moves] at ran
  cases renamed : files.rename p.temporary p.target with
  | error fault =>
      simp only [renamed] at ran
      cases ran
  | ok middle =>
      simp only [renamed] at ran
      exact ⟨middle, rfl, ran⟩

/-- Files that were all moved to their places have places of their own, and what stood beside a
place is there now; by induction on the files, none of which is moved where another one stands.
-/
theorem place_moved (whole : Batch before top batch)
    (all : AllPlaced before files root top batch moved prepared) {written : Written}
    (ran : (place root (writtenOf moved) prepared).run.run files = (.ok written, after))
    : (prepared.map (·.file.location top)).Nodup
      ∧ (∀ p ∈ prepared,
          (files.node? (beside (p.file.location top))).isSome
          ∧ after.node? (p.file.location top) = files.node? (beside (p.file.location top)))
      ∧ ∀ place,
          (∀ p ∈ prepared,
            place ≠ p.file.location top ∧ place ≠ beside (p.file.location top)) →
          after.node? place = files.node? place := by
  induction prepared generalizing moved files with
  | nil =>
      cases ran
      exact ⟨by simp, by simp, fun _ _ => rfl⟩
  | cons p rest ih =>
      obtain ⟨middle, renamed, moves⟩ := rename_of_place ran
      obtain ⟨-, -, content, executable, found, nodes⟩ := all.nodes whole renamed
      obtain ⟨distinct, each, others⟩ := ih (all.rename whole renamed) moves
      have apart (q : Prepared) (inside : q ∈ p :: rest) (r : Prepared) (inside' : r ∈ p :: rest)
          : beside (q.file.location top) ≠ r.file.location top := fun same =>
        whole.apart q.file (all.among q inside) r.file (all.among r inside') (same ▸ List.prefix_rfl)
      have later (q : Prepared) (inside : q ∈ rest)
          : beside (q.file.location top) ≠ beside (p.file.location top)
            ∧ middle.node? (beside (q.file.location top))
              = files.node? (beside (q.file.location top)) := by
        have other := apart q (List.mem_cons_of_mem _ inside) p List.mem_cons_self
        have still : beside (q.file.location top) ≠ beside (p.file.location top) := by
          intro same
          have there := (each q inside).1
          rw [nodes, if_neg other, if_pos same] at there
          cases there
        exact ⟨still, by rw [nodes, if_neg other, if_neg still]⟩
      refine ⟨?_, ?_, ?_⟩
      · rw [List.map_cons, List.nodup_cons]
        refine ⟨fun again => ?_, distinct⟩
        obtain ⟨q, inside, same⟩ := List.mem_map.mp again
        exact (later q inside).1 (congrArg beside same)
      · intro q inside
        rcases List.mem_cons.mp inside with rfl | inside
        · refine ⟨by simp [found], ?_⟩
          rw [found, others, nodes, if_pos rfl]
          intro r inside'
          exact ⟨fun same => (later r inside').1 (congrArg beside same.symm),
            fun same => apart r (List.mem_cons_of_mem _ inside') q List.mem_cons_self same.symm⟩
        · rw [← (later q inside).2]
          exact each q inside
      · intro place elsewhere
        rw [List.forall_mem_cons] at elsewhere
        rw [others place elsewhere.2, nodes, if_neg elsewhere.1.1, if_neg elsewhere.1.2]

-----------------------------------------------------------------------------------------
-- What a commit leaves
-----------------------------------------------------------------------------------------

/-- Two files of a batch at one place stand beside it at one place, and the reverse. -/
theorem location_of_beside (whole : Batch before top batch) {file other : StagedFile}
    (member : file ∈ batch) (member' : other ∈ batch)
    (same : beside (file.location top) = beside (other.location top))
    : file.location top = other.location top := by
  have filled {file : StagedFile} (member : file ∈ batch) : file.location top ≠ [] := by
    obtain ⟨above, name, -, split⟩ := (whole.target file member).last
    rw [StagedFile.location, (split top).1]
    simp
  exact beside_injective (filled member) (filled member') same

/-- A commit that goes through leaves the batch at its places, each file at its own. -/
theorem committed_of_commit {workspace kept : Workspace} (wet : workspace.dryRun = false)
    {stage : Stage} (ground : before.Grounded workspace.root top)
    (whole : Batch before top stage.changed) {written : Written}
    (ran : (workspace.commit stage).run.run before = (.ok (kept, written), after))
    : Committed before after workspace.root top stage.changed
      ∧ (stage.changed.map (·.location top)).Nodup := by
  obtain ⟨-, all⟩ := (commit_result wet ground whole ran).2 _ rfl
  obtain ⟨prepared, middle, prepares, places, -⟩ := parts_of_commit wet ran
  obtain ⟨entries, drafts⟩ :=
    (prepare_outcome whole (fun _ => id) (.nil ground) prepares).2 prepared rfl
  obtain ⟨distinct, each, -⟩ := place_moved whole (.of_prepared drafts whole) places
  simp only [List.map_nil, List.nil_append] at entries
  have locations : prepared.map (·.file.location top) = stage.changed.map (·.location top) := by
    rw [← entries, List.map_map]
    rfl
  refine ⟨⟨all.drafted.base, all.ground, fun file member => ?_, fun file member place lies => ?_,
    fun place below elsewhere => ?_⟩, locations ▸ distinct⟩
  · obtain ⟨p, inside, rfl⟩ := List.mem_map.mp (entries ▸ member)
    obtain ⟨q, there, same, draft⟩ := drafts.draft p inside
    have here := location_of_beside whole (drafts.among q there) (drafts.among p inside) same
    obtain rfl := List.inj_on_of_nodup_map distinct there inside here
    rw [(each q inside).2, draft]
  · exact (all.accepts file member).open_ (whole.target file member) all.ground lies
  · have settled : place ∉ Prepared.locations top [] ++ stage.changed.map (·.location top) := by
      intro found
      obtain ⟨file, member, here⟩ := List.mem_map.mp found
      exact (elsewhere file member).1 here.symm
    rcases all.drafted.node place below settled with same | ⟨-, -, file, member, lies⟩
    · exact same
    · exact absurd lies (elsewhere file member).2

/-- A batch that was committed was ready to be. -/
theorem ready_of_commit {workspace kept : Workspace} (wet : workspace.dryRun = false)
    {stage : Stage} (ground : before.Grounded workspace.root top)
    (whole : Batch before top stage.changed) {written : Written}
    (ran : (workspace.commit stage).run.run before = (.ok (kept, written), after))
    : Ready before workspace.root top stage.changed := by
  obtain ⟨-, all⟩ := (commit_result wet ground whole ran).2 _ rfl
  obtain ⟨committed, distinct⟩ := committed_of_commit wet ground whole ran
  have apart : ∀ file ∈ stage.changed, ∀ other ∈ stage.changed,
      ¬ IsAbove top (file.location top) (other.location top) := by
    intro file member other member' lies
    have open_ := committed.made other member' _ lies
    rw [committed.placed file member] at open_
    cases open_
  refine ⟨fun file member open_ => ?_, fun file member => ?_, fun file member => ?_, distinct, apart⟩
  · exact all.free file member (all.open_ _ (List.prefix_append ..) open_)
  · have target := whole.target file member
    have admits := (all.accepts file member).admits target all.ground
    refine ⟨admits.fits, admits.fitsBeside, admits.short, admits.clear.short, ?_⟩
    intro way content executable within found
    have lies : IsAbove top (top ++ way) (file.location top) := target.isAbove within
    have open_ := committed.made file member _ lies
    have settled : top ++ way ∉ Prepared.locations top [] ++ stage.changed.map (·.location top) := by
      intro among
      obtain ⟨other, member', here⟩ := List.mem_map.mp among
      exact apart other member' file member (here ▸ lies)
    rcases all.drafted.node _ lies.below settled with same | ⟨missing, -⟩
    · exact absurd (open_.symm.trans (same.trans found)) (by simp)
    · exact absurd (found.symm.trans missing) (by simp)
  · obtain ⟨more, ⟨-, core, -, -, -, steps⟩, -, before, _, name, rfl, -, -, plain, -⟩ :=
      (all.accepts file member).target.walks
    obtain ⟨-, core', -, -, -, steps'⟩ := (whole.target file member).under workspace.root
    rcases List.eq_nil_or_concat file.path.segments with none | ⟨init, last, split⟩
    · cases none
    · rw [List.concat_eq_append] at split
      rw [split] at steps'
      have whole := steps.symm.trans steps'
      rw [← List.append_assoc, ← List.append_assoc] at whole
      obtain ⟨-, same⟩ := List.append_inj' whole rfl
      exact ⟨init, last, split, List.cons.inj same |>.1 ▸ plain⟩

-----------------------------------------------------------------------------------------
-- When a commit goes through
-----------------------------------------------------------------------------------------

/-- No file of a ready batch belongs where a directory is or was made for another one. -/
theorem Ready.free_of_placed (ready : Ready before root top batch) (whole : Batch before top batch)
    (all : AllPlaced before files root top batch moved prepared) (members : ∀ p ∈ prepared, p.file ∈ batch)
    {file : StagedFile} (member : file ∈ batch)
    : files.node? (file.location top) ≠ some .directory := by
  by_cases settled : file.location top ∈ Prepared.locations top prepared ++ moved.map (·.location top)
  · rcases List.mem_append.mp settled with drafted | placed
    · obtain ⟨p, inside, here⟩ := List.mem_map.mp drafted
      exact absurd (here ▸ List.prefix_rfl) (whole.apart p.file (members p inside) file member)
    · obtain ⟨other, inside, here⟩ := List.mem_map.mp placed
      exact here ▸ all.free other inside
  · have below : top <+: file.location top := List.prefix_append ..
    rcases all.drafted.node _ below settled with same | ⟨-, -, other, inside, lies⟩
    · rw [same]
      exact ready.free file member
    · exact absurd lies (ready.apart file member other inside)

/-- A file of a ready batch that stands beside its place can be moved there. -/
theorem Ready.reaches (ready : Ready before root top batch) (whole : Batch before top batch)
    (ground : files.Grounded root top) {p : Prepared} (stands : p.Stands files root top)
    (member : p.file ∈ batch)
    : files.Reaches root top p.target (p.file.location top) := by
  have target := whole.target p.file member
  obtain ⟨init, name, split, plain⟩ := ready.ends p.file member
  have names : p.file.path.names = namesOf init ++ [name] := by
    rw [Path.names, split, namesOf_append, plain.namesOf_cons, namesOf_nil]
  have down : ".." ∉ init := fun found => target.down (split ▸ List.mem_append_left _ found)
  have admits := ready.admits p.file member
  have short : ∀ other ∈ namesOf init, other.utf8ByteSize ≤ nameLimit := by
    have := admits.clear.short
    rwa [names, List.dropLast_concat] at this
  have reach := stands.reach
  rw [StagedFile.location, names, ← List.append_assoc, beside_append, List.append_assoc] at reach
  have under := stands.target ▸ target.under root
  rw [split] at under
  rw [StagedFile.location, names]
  exact ground.reaches_last (stands.target ▸ admits.fits) under down plain short
    (Nat.le_trans (size_le_temporaryName name) (reach.clear ground).2.1) (reach.clear ground).2.2

/-- Files of a ready batch that stand beside their places are all moved there; by induction on the
files that are still to be moved.
-/
theorem Ready.place_ok (ready : Ready before root top batch) (whole : Batch before top batch)
    (all : AllPlaced before files root top batch moved prepared)
    (distinct : (prepared.map (·.file.location top)).Nodup)
    (drafted : ∀ p ∈ prepared, ∃ content executable,
      files.node? (beside (p.file.location top)) = some (.file content executable))
    : ∃ written after, (place root (writtenOf moved) prepared).run.run files = (.ok written, after) := by
  induction prepared generalizing files moved with
  | nil => exact ⟨_, files, rfl⟩
  | cons p rest ih =>
      have member := all.among p List.mem_cons_self
      have stands := all.stands p List.mem_cons_self
      obtain ⟨content, executable, there⟩ := drafted p List.mem_cons_self
      have renamed := (ready.reaches whole all.ground stands member).rename all.ground
        (ready.free_of_placed whole all all.among member) stands.reach there
      obtain ⟨-, -, content, executable, -, nodes⟩ := all.nodes whole renamed
      rw [List.map_cons, List.nodup_cons] at distinct
      have moves : writtenOf moved ++ [(p.file.path, p.file.loaded)]
          = writtenOf (moved ++ [p.file]) := by
        simp [writtenOf]
      rw [place, run_bind, FileAction.run_orUndo, FileAction.run_change, renamed, moves]
      refine ih (all.rename whole renamed) distinct.2 fun q inside => ?_
      have among := all.among q (List.mem_cons_of_mem _ inside)
      have other : beside (q.file.location top) ≠ p.file.location top := fun same =>
        whole.apart q.file among p.file member (same ▸ List.prefix_rfl)
      have still : beside (q.file.location top) ≠ beside (p.file.location top) := fun same =>
        distinct.1 (List.mem_map.mpr ⟨q, inside, location_of_beside whole among member same⟩)
      rw [nodes, if_neg other, if_neg still]
      exact drafted q (List.mem_cons_of_mem _ inside)

/-- A batch that is ready is committed. -/
theorem commit_of_ready {workspace : Workspace} (wet : workspace.dryRun = false) {stage : Stage}
    (ground : before.Grounded workspace.root top) (whole : Batch before top stage.changed)
    (ready : Ready before workspace.root top stage.changed)
    : ∃ after,
        (workspace.commit stage).run.run before
          = (.ok (workspace, writtenOf stage.changed), after) := by
  rcases ran : (workspace.commit stage).run.run before with ⟨result, after⟩
  have passed : ∃ value, result = .ok value := by
    simp only [commit, wet, Bool.false_eq_true, if_false, run_bind] at ran
    rcases prepares : (prepare workspace.root [] stage.changed).run.run before with
      ⟨failure | prepared, middle⟩
    · obtain ⟨-, -, file, member, blocked⟩ :=
        (prepare_outcome whole (fun _ => id) (.nil ground) prepares).1 failure rfl
      exact absurd (ready.admits file member) blocked
    · obtain ⟨entries, drafts⟩ :=
        (prepare_outcome whole (fun _ => id) (.nil ground) prepares).2 prepared rfl
      simp only [List.map_nil, List.nil_append] at entries
      have distinct : (prepared.map (·.file.location top)).Nodup := by
        have := ready.distinct
        rwa [← entries, List.map_map] at this
      obtain ⟨written, final, places⟩ := ready.place_ok whole (.of_prepared drafts whole) distinct
        fun p inside => by
          obtain ⟨q, -, -, draft⟩ := drafts.draft p inside
          exact ⟨_, _, draft⟩
      change (place workspace.root [] prepared).run.run middle = _ at places
      simp only [prepares, places] at ran
      cases ran
      exact ⟨_, rfl⟩
  obtain ⟨value, rfl⟩ := passed
  obtain ⟨rfl, -⟩ := (commit_result wet ground whole ran).2 value rfl
  exact ⟨after, rfl⟩

end Groundwork.Workspace
