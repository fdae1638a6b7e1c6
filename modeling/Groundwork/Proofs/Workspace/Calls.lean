import Groundwork.Proofs.Files.Sparing
import Groundwork.Proofs.Workspace.Target

/-!
The calls that commits are made of: at every target a temporary file is written, moved and removed, the
target is removed where there was none before, and directories are made above it. There are no others, so
that commits leave alone what is no target of theirs.
-/

namespace Groundwork.Workspace

open Files Path FileAction

variable {files after : Files} {root path : Path} {calls : FileCall → Prop}
  {directories : Path → Prop}

/-- All that commits and restorations do about a target is of some kind. -/
structure Permits (calls : FileCall → Prop) (directories : Path → Prop) (target : Path) : Prop where
  parent : ∀ parent, target.parent? = some parent → directories parent
  remove : calls (.removeFile target)
  write : ∀ temporary, temporaryPath target = .ok temporary →
    ∀ content, calls (.write temporary content)
  discard : ∀ temporary, temporaryPath target = .ok temporary → calls (.removeFile temporary)
  rename : ∀ temporary, temporaryPath target = .ok temporary → calls (.rename temporary target)

theorem Permits.writeTemporary {target : Path} (permits : Permits calls directories target)
    (content : ByteArray)
    : MadeOf calls directories (writeTemporary target content) := by
  have writes : MadeOf calls directories (do
      let temporary ← FileAction.look fun _ => temporaryPath target
      FileAction.change s!"write temp file {temporary}" (·.write temporary content)
      return temporary) := by
    refine .bind (.settled _) fun temporary files after looked => ?_
    have found : temporaryPath target = .ok temporary := (Prod.mk.inj looked).1
    exact .bind (.change _ (permits.write temporary found content)) fun _ _ _ _ => .pure temporary
  rw [Workspace.writeTemporary]
  cases parents : target.parent? with
  | none => exact writes
  | some parent => exact .bind (.makeDirectories (permits.parent parent parents)) fun _ _ _ _ => writes

-----------------------------------------------------------------------------------------
-- Files beside their places
-----------------------------------------------------------------------------------------

/-- A file that was written beside its place, as far as its paths go. -/
structure Prepared.IsNamed (root : Path) (p : Prepared) : Prop where
  target : p.target = root.join p.file.path
  temporary : temporaryPath p.target = .ok p.temporary

/-- Files are written beside their places in their order, each with the names that belong to it; by
induction on the files that are written.
-/
theorem isNamed_of_prepare {entries : List StagedFile} {before done : List Prepared}
    (named : ∀ p ∈ before, p.IsNamed root)
    (ran : (prepare root before entries).run.run files = (.ok done, after))
    : (∀ p ∈ done, p.IsNamed root) ∧ done.map (·.file) = before.map (·.file) ++ entries := by
  induction entries generalizing before files with
  | nil =>
      cases ran
      exact ⟨named, by simp⟩
  | cons file rest ih =>
      rw [prepare, run_bind] at ran
      rcases wrote : ((Workspace.writeTemporary (root.join file.path) (file.current.getD .empty)).orUndo
        (discard before)).run.run files with ⟨failure | temporary, middle⟩ <;> simp only [wrote] at ran
      · cases ran
      · have new : Prepared.IsNamed root ⟨temporary, root.join file.path, file⟩ :=
          ⟨rfl, temporaryPath_of_run (run_of_orUndo wrote)⟩
        obtain ⟨all, order⟩ :=
          ih (List.forall_mem_append.mpr ⟨named, List.forall_mem_singleton.mpr new⟩) ran
        exact ⟨all, by simpa using order⟩

/-- What was moved to its place is listed in its order; by induction on the files that are moved. -/
theorem written_of_place {prepared : List Prepared} {before written : Written}
    (ran : (place root before prepared).run.run files = (.ok written, after))
    : written = before ++ writtenOf (prepared.map (·.file)) := by
  induction prepared generalizing before files with
  | nil =>
      cases ran
      simp [writtenOf]
  | cons p rest ih =>
      rw [place, run_bind] at ran
      split at ran
      · simpa [writtenOf] using ih ran
      · cases ran

/-- A commit to the tree that goes through writes all files beside their places and moves them all. -/
theorem parts_of_commit {workspace kept : Workspace} (wet : workspace.dryRun = false)
    {stage : Stage} {written : Written}
    (ran : (workspace.commit stage).run.run files = (.ok (kept, written), after))
    : ∃ prepared middle,
        (prepare workspace.root [] stage.changed).run.run files = (.ok prepared, middle)
        ∧ (place workspace.root [] prepared).run.run middle = (.ok written, after)
        ∧ kept = workspace := by
  simp only [commit, wet, Bool.false_eq_true, if_false, run_bind] at ran
  rcases prepares : (prepare workspace.root [] stage.changed).run.run files with
    ⟨failure | prepared, middle⟩ <;> simp only [prepares] at ran
  · cases ran
  · rcases places : (place workspace.root [] prepared).run.run middle with
      ⟨failure | written, final⟩ <;> simp only [places] at ran <;> cases ran
    exact ⟨prepared, middle, rfl, places, rfl⟩

/-- A commit that goes through keeps the root, and lists all that was to be written. -/
theorem kept_of_commit {workspace kept : Workspace} {stage : Stage} {written : Written}
    (ran : (workspace.commit stage).run.run files = (.ok (kept, written), after))
    : kept.root = workspace.root
      ∧ kept.dryRun = workspace.dryRun
      ∧ written = writtenOf stage.changed := by
  cases dry : workspace.dryRun with
  | true =>
      rw [commit, dry] at ran
      cases ran
      exact ⟨rfl, dry, rfl⟩
  | false =>
      obtain ⟨prepared, middle, prepares, places, rfl⟩ := parts_of_commit dry ran
      obtain ⟨-, order⟩ := isNamed_of_prepare (by simp) prepares
      refine ⟨rfl, dry, ?_⟩
      rw [written_of_place places, order]
      simp

-----------------------------------------------------------------------------------------
-- Commits and restorations
-----------------------------------------------------------------------------------------

theorem discard_madeOf {prepared : List Prepared} (named : ∀ p ∈ prepared, p.IsNamed root)
    (permits : ∀ p ∈ prepared, Permits calls directories (root.join p.file.path))
    : MadeOf calls directories (discard prepared) := by
  induction prepared with
  | nil => exact .pure ()
  | cons p rest ih =>
      rw [List.forall_mem_cons] at named permits
      have removes : calls (.removeFile p.temporary) :=
        permits.1.discard _ (named.1.target ▸ named.1.temporary)
      exact .bind (.quietly (.change _ removes)) fun _ _ _ _ => ih named.2 permits.2

theorem prepare_madeOf {entries : List StagedFile}
    (permits : ∀ file ∈ entries, Permits calls directories (root.join file.path))
    {before : List Prepared} (named : ∀ p ∈ before, p.IsNamed root)
    (permits' : ∀ p ∈ before, Permits calls directories (root.join p.file.path))
    : MadeOf calls directories (prepare root before entries) := by
  induction entries generalizing before with
  | nil => exact .pure before
  | cons file rest ih =>
      rw [List.forall_mem_cons] at permits
      refine .bind (.orUndo (permits.1.writeTemporary _) (discard_madeOf named permits'))
        fun temporary files after ran => ih permits.2 ?_ ?_
      · have new : Prepared.IsNamed root ⟨temporary, root.join file.path, file⟩ :=
          ⟨rfl, temporaryPath_of_run (run_of_orUndo ran)⟩
        exact List.forall_mem_append.mpr ⟨named, List.forall_mem_singleton.mpr new⟩
      · exact List.forall_mem_append.mpr ⟨permits', List.forall_mem_singleton.mpr permits.1⟩

/-- Removing a file that may be gone is an attempt whose fault, if it is not that, is a failure. -/
theorem restoreFile_none (root path : Path)
    : restoreFile root path none
      = attempt (.removeFile (root.join path)) >>= fun answer =>
          match answer with
          | .ok () | .error .notFound => Pure.pure ()
          | .error fault => throw (.ofFiles fault s!"remove {root.join path}") := by
  refine ext_run fun files => ?_
  simp only [restoreFile, run_change, run_bind, run_attempt, FileCall.perform]
  rcases files.removeFile (root.join path) with fault | after
  · cases fault <;> rfl
  · rfl

theorem Permits.restoreFile (permits : Permits calls directories (root.join path))
    (loaded : Option ByteArray)
    : MadeOf calls directories (Workspace.restoreFile root path loaded) := by
  cases loaded with
  | some content =>
      refine .bind (permits.writeTemporary content) fun temporary files after ran => ?_
      exact .change _ (permits.rename temporary (temporaryPath_of_run ran))
  | none =>
      rw [restoreFile_none]
      refine .bind (.attempt permits.remove) fun answer _ _ _ => ?_
      split
      · exact .pure ()
      · exact .pure ()
      · exact .throw _

theorem restoreFiles_madeOf {written : Written}
    (permits : ∀ entry ∈ written, Permits calls directories (root.join entry.1))
    : MadeOf calls directories (restoreFiles root written) := by
  induction written with
  | nil => exact .pure ()
  | cons entry rest ih =>
      rw [List.forall_mem_cons] at permits
      exact .bind (permits.1.restoreFile entry.2) fun _ _ _ _ => ih permits.2

theorem place_madeOf {before : Written} {prepared : List Prepared}
    (permits' : ∀ entry ∈ before, Permits calls directories (root.join entry.1))
    (named : ∀ p ∈ prepared, p.IsNamed root)
    (permits : ∀ p ∈ prepared, Permits calls directories (root.join p.file.path))
    : MadeOf calls directories (place root before prepared) := by
  induction prepared generalizing before with
  | nil => exact .pure before
  | cons p rest ih =>
      have undo : MadeOf calls directories (do
          discard (p :: rest)
          restoreFiles root before.reverse) :=
        .bind (discard_madeOf named permits) fun _ _ _ _ =>
          restoreFiles_madeOf fun entry member => permits' entry (List.mem_reverse.mp member)
      rw [List.forall_mem_cons] at named permits
      have moves : calls (.rename p.temporary p.target) := by
        rw [named.1.target]
        exact permits.1.rename _ (named.1.target ▸ named.1.temporary)
      refine .bind (.orUndo (.change _ moves) undo) fun _ _ _ _ => ih ?_ named.2 permits.2
      exact List.forall_mem_append.mpr ⟨permits', List.forall_mem_singleton.mpr permits.1⟩

/-- A commit is put together of what is done about the targets of its stage. In a dry run nothing is. -/
theorem commit_madeOf {workspace : Workspace} {stage : Stage}
    (permits : workspace.dryRun = false →
      ∀ file ∈ stage.changed, Permits calls directories (workspace.root.join file.path))
    : MadeOf calls directories (workspace.commit stage) := by
  cases dry : workspace.dryRun with
  | true =>
      rw [commit, dry]
      exact .pure _
  | false =>
      have permits := permits dry
      rw [commit, dry]
      refine .bind (prepare_madeOf permits (by simp) (by simp)) fun prepared files after ran => ?_
      obtain ⟨named, order⟩ := isNamed_of_prepare (by simp) ran
      have among (p : Prepared) (member : p ∈ prepared) : p.file ∈ stage.changed := by
        have listed : p.file ∈ prepared.map (·.file) := List.mem_map_of_mem member
        rwa [order, List.map_nil, List.nil_append] at listed
      refine .bind (place_madeOf (by simp) named fun p member => permits _ (among p member))
        fun _ _ _ _ => ?_
      exact .pure _

/-- A restoration is put together of what is done about the files that are put back. -/
theorem restore_madeOf {workspace : Workspace} {written : Written}
    (permits : workspace.dryRun = false →
      ∀ entry ∈ written, Permits calls directories (workspace.root.join entry.1))
    : MadeOf calls directories (workspace.restore written) := by
  cases dry : workspace.dryRun with
  | true =>
      rw [restore, dry]
      exact .pure _
  | false =>
      rw [restore, dry]
      refine .bind (restoreFiles_madeOf fun entry member => ?_) fun _ _ _ _ => .pure _
      exact permits dry entry (List.mem_reverse.mp member)

-----------------------------------------------------------------------------------------
-- Commits that leave a location alone
-----------------------------------------------------------------------------------------

variable {base location : Location}

/-- A location with the name of a temporary file. -/
def IsTemporary (location : Location) : Prop :=
  ∃ parent name, location = parent ++ [name] ∧ ".scaffold-tmp".toList <:+ name.toList

/-- A temporary file is at a location with such a name. -/
theorem misses_temporaryPath {target temporary : Path} (kept : ¬ IsTemporary location)
    (found : temporaryPath target = .ok temporary)
    : Misses base location temporary := by
  unfold temporaryPath at found
  split at found
  · cases found
  next name _ =>
    have slash : '/' ∉ ".scaffold-tmp".toList := by decide
    obtain ⟨core, last, steps, ends⟩ := steps_withFileName target
      (toList_temporaryName name) (by decide) slash
    have long : 13 ≤ last.toList.length := ends.length_le
    have plain : IsName last := isName_of_length (by omega)
    intro files _ same
    refine kept ⟨follow (files.start temporary) core, last, ?_, ends⟩
    cases found
    rw [← same, Files.locate]
    change follow _ (target.withFileName (temporaryName name)).steps = _
    rw [steps, follow_append, follow_cons, advance_name plain, follow_nil]

/-- A target whose path passes a location by is written without touching the location, if its temporary
file is not there.
-/
theorem permits_of_misses {target : Path}
    (besides : ∀ temporary, temporaryPath target = .ok temporary → Misses base location temporary)
    (avoids : Files.Avoids base location target)
    : Permits (fun call => ∀ path ∈ call.paths, Misses base location path)
        (Files.Avoids base location) target where
  parent _ found := avoids.parent? found
  remove := List.forall_mem_singleton.mpr avoids.misses
  write temporary found _ := List.forall_mem_singleton.mpr (besides temporary found)
  discard temporary found := List.forall_mem_singleton.mpr (besides temporary found)
  rename temporary found := List.forall_mem_cons.mpr
    ⟨besides temporary found, List.forall_mem_singleton.mpr avoids.misses⟩

theorem permits_of_avoids {target : Path} (kept : ¬ IsTemporary location)
    (avoids : Files.Avoids base location target)
    : Permits (fun call => ∀ path ∈ call.paths, Misses base location path)
        (Files.Avoids base location) target :=
  permits_of_misses (fun _ found => misses_temporaryPath kept found) avoids

/-- A commit leaves a location alone that the targets of its stage stay away from, and so do the files
that it lists as written.
-/
theorem commit_spares {workspace : Workspace} {stage : Stage} (kept : ¬ IsTemporary location)
    (apart : ∀ file ∈ stage.changed, Files.Avoids base location (workspace.root.join file.path))
    : FileAction.Spares base location (workspace.commit stage)
      ∧ ∀ files after value, (workspace.commit stage).run.run files = (.ok value, after) →
        ∀ entry ∈ value.2, Files.Avoids base location (workspace.root.join entry.1) := by
  constructor
  · exact (commit_madeOf fun _ file member => permits_of_avoids kept (apart file member)).spares
  · intro files after value ran entry member
    rw [(kept_of_commit ran).2.2] at member
    obtain ⟨file, among, rfl⟩ := List.mem_map.mp member
    exact apart file among

theorem restore_spares {workspace : Workspace} {written : Written} (kept : ¬ IsTemporary location)
    (apart : ∀ entry ∈ written, Files.Avoids base location (workspace.root.join entry.1))
    : FileAction.Spares base location (workspace.restore written) :=
  (restore_madeOf fun _ entry member => permits_of_avoids kept (apart entry member)).spares

end Groundwork.Workspace
