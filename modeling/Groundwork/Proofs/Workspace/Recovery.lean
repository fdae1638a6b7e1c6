import Groundwork.Proofs.Files.Likeness
import Groundwork.Proofs.Workspace.Atomicity
import Groundwork.Proofs.Workspace.Mending
import Groundwork.Proofs.Workspace.Rehearsal

/-!
Taking back what was written. The files that a commit wrote are put back, whatever became of them and of
the directories above them; and after a dry commit what is read is what was read before, but for
spellings that could not be read.
-/

namespace Groundwork

open Files Path Workspace

variable {workspace : Workspace} {stage : Stage} {seen files : Files} {written : Written}

-----------------------------------------------------------------------------------------
-- Stages of any paths
-----------------------------------------------------------------------------------------

/-- Stages that come about by loading files of a workspace from one tree, by whatever paths, and by
setting contents.
-/
inductive Stage.AssembledFrom (workspace : Workspace) (seen : Files) : Stage → Prop
  | empty : AssembledFrom workspace seen {}
  | load {stage after : Stage} {path : Path} {content : Option ByteArray}
    (earlier : AssembledFrom workspace seen stage)
    (loads : stage.load workspace seen path = .ok (content, after))
    : AssembledFrom workspace seen after
  | set {stage after : Stage} {path : Path} {content : ByteArray}
    (earlier : AssembledFrom workspace seen stage) (sets : stage.set path content = .ok after)
    : AssembledFrom workspace seen after

theorem Stage.LoadedFrom.assembledFrom (built : stage.LoadedFrom workspace seen)
    : stage.AssembledFrom workspace seen := by
  induction built with
  | empty => exact .empty
  | load _ _ _ loads assembled => exact .load assembled loads
  | set _ sets assembled => exact .set assembled sets

/-- Every file of a stage is under what its path names, in order, with what was read of it. -/
structure Stage.Remembers (workspace : Workspace) (seen : Files) (stage : Stage) : Prop where
  key : ∀ entry ∈ stage.files, entry.1 = entry.2.path.components
  loaded : ∀ entry ∈ stage.files, workspace.read seen entry.2.path = .ok entry.2.loaded
  ordered : stage.files.Pairwise (·.1 < ·.1)

theorem Stage.Remembers.insert (remembers : stage.Remembers workspace seen) {path : Path}
    {file : StagedFile} (key : path.components = file.path.components)
    (loaded : workspace.read seen file.path = .ok file.loaded)
    : Stage.Remembers workspace seen { files := stage.files.insert path.components file } := by
  refine ⟨fun entry member => ?_, fun entry member => ?_,
    Dictionary.pairwise_insert _ _ remembers.ordered⟩
  · rcases Dictionary.mem_insert member with rfl | member
    · exact key
    · exact remembers.key entry member
  · rcases Dictionary.mem_insert member with rfl | member
    · exact loaded
    · exact remembers.loaded entry member

/-- What is staged stays with what was read; by induction on how the stage came about. -/
theorem Stage.AssembledFrom.remembers (built : stage.AssembledFrom workspace seen)
    : stage.Remembers workspace seen := by
  induction built with
  | empty => exact ⟨by simp, by simp, .nil⟩
  | load _ loads remembers =>
      rcases Stage.load_cases loads with rfl | ⟨loaded, reads, rfl⟩
      · exact remembers
      · exact remembers.insert rfl reads
  | set _ sets remembers =>
      obtain ⟨file, known, rfl⟩ := Stage.set_cases sets
      have member := Dictionary.mem_of_get? known
      exact remembers.insert (remembers.key _ member) (remembers.loaded _ member)

/-- A file to be written is staged with what was read of it. -/
theorem Stage.Remembers.of_changed (remembers : stage.Remembers workspace seen) {file : StagedFile}
    (member : file ∈ stage.changed)
    : workspace.read seen file.path = .ok file.loaded := by
  obtain ⟨inside, -⟩ := List.mem_filter.mp member
  obtain ⟨entry, found, rfl⟩ := List.mem_map.mp inside
  exact remembers.loaded entry found

-----------------------------------------------------------------------------------------
-- Taking back what is kept beside the tree
-----------------------------------------------------------------------------------------

namespace Workspace

/-- What is kept of files that were taken back is what they held before, and everything else is as it
was; by induction on the files.
-/
theorem get?_unlay (workspace : Workspace) (distinct : (written.map (·.1.components)).Nodup)
    : (∀ entry ∈ written, (workspace.unlay written).overlay.get? entry.1.components = entry.2)
      ∧ ∀ key, (∀ entry ∈ written, entry.1.components ≠ key) →
        (workspace.unlay written).overlay.get? key = workspace.overlay.get? key := by
  induction written generalizing workspace with
  | nil => exact ⟨by simp, fun _ _ => rfl⟩
  | cons entry rest ih =>
      obtain ⟨path, loaded⟩ := entry
      rw [List.map_cons, List.nodup_cons] at distinct
      obtain ⟨next, unlaid, own, others⟩ : ∃ next : Workspace,
          workspace.unlay ((path, loaded) :: rest) = next.unlay rest
          ∧ next.overlay.get? path.components = loaded
          ∧ ∀ key, path.components ≠ key → next.overlay.get? key = workspace.overlay.get? key := by
        cases loaded with
        | none =>
            refine ⟨_, rfl, ?_, fun key other => ?_⟩
            · simp [Dictionary.get?_erase]
            · simp [Dictionary.get?_erase, other]
        | some content =>
            refine ⟨_, rfl, ?_, fun key other => ?_⟩
            · simp [Dictionary.get?_insert]
            · simp [Dictionary.get?_insert, other]
      obtain ⟨each, elsewhere⟩ := ih next distinct.2
      rw [unlaid]
      refine ⟨List.forall_mem_cons.mpr ⟨?_, each⟩, fun key apart => ?_⟩
      · rw [elsewhere, own]
        exact fun entry member same => distinct.1 (List.mem_map.mpr ⟨entry, member, same⟩)
      · rw [List.forall_mem_cons] at apart
        rw [elsewhere key apart.2, others key apart.1]

theorem root_unlay (workspace : Workspace) (written : Written)
    : (workspace.unlay written).root = workspace.root := by
  induction written generalizing workspace with
  | nil => rfl
  | cons entry rest ih => exact ih _

theorem overlay_of_read_none {path : Path} (reads : workspace.read files path = .ok none)
    : workspace.overlay.get? path.components = none := by
  cases kept : workspace.overlay.get? path.components with
  | none => rfl
  | some content =>
      rw [read_of_kept kept] at reads
      cases reads

theorem read_congr {one two : Workspace} {path : Path} (root : one.root = two.root)
    (same : one.overlay.get? path.components = two.overlay.get? path.components)
    : one.read files path = two.read files path := by
  simp only [read, root, same]

/-- What is read after files were laid beside the tree and taken back is what was read before, unless a
path could not be read that names the same as one of the files.
-/
theorem read_unlay_lay (remembers : stage.Remembers workspace files) (path : Path)
    : ((workspace.lay stage.changed).unlay (writtenOf stage.changed).reverse).read files path
        = workspace.read files path
      ∨ (∃ failure, workspace.read files path = .error failure)
        ∧ ∃ file content, (file, some content) ∈ writtenOf stage.changed
          ∧ file.components = path.components
          ∧ ((workspace.lay stage.changed).unlay (writtenOf stage.changed).reverse).read files path
            = .ok (some content) := by
  have distinct : ((writtenOf stage.changed).reverse.map (·.1.components)).Nodup := by
    have components : (writtenOf stage.changed).map (·.1.components)
        = stage.changed.map (·.path.components) := by
      simp [writtenOf]
    rw [List.map_reverse, List.nodup_reverse, components]
    exact Stage.nodup_changed remembers.key remembers.ordered
  have root : ((workspace.lay stage.changed).unlay (writtenOf stage.changed).reverse).root
      = workspace.root :=
    root_unlay ..
  obtain ⟨each, others⟩ := get?_unlay (workspace.lay stage.changed) distinct
  obtain ⟨-, laid⟩ :=
    get?_lay workspace (Stage.nodup_changed remembers.key remembers.ordered)
  by_cases among : ∃ file ∈ stage.changed, file.path.components = path.components
  · obtain ⟨file, member, same⟩ := among
    have inside : (file.path, file.loaded) ∈ writtenOf stage.changed := List.mem_map_of_mem member
    have kept := each _ (List.mem_reverse.mpr inside)
    have reads := remembers.of_changed member
    rw [same] at kept
    cases loaded : file.loaded with
    | none =>
        rw [loaded] at reads kept
        refine .inl (read_congr root (kept.trans ?_))
        rw [← same]
        exact (overlay_of_read_none reads).symm
    | some content =>
        rw [loaded] at reads kept inside
        rcases read_respelled same reads with there | failed
        · exact .inl ((read_of_kept kept).trans there.symm)
        · exact .inr ⟨failed, file.path, content, inside, same, read_of_kept kept⟩
  · have elsewhere : ∀ file ∈ stage.changed, file.path.components ≠ path.components :=
      fun file member same => among ⟨file, member, same⟩
    refine .inl (read_congr root ((others _ fun entry member => ?_).trans (laid _ elsewhere)))
    obtain ⟨file, inside, rfl⟩ := List.mem_map.mp (List.mem_reverse.mp member)
    exact elsewhere file inside

end Workspace

-----------------------------------------------------------------------------------------
-- Taking back commits
-----------------------------------------------------------------------------------------

theorem Workspace.run_commit_dry (dry : workspace.dryRun = true) (stage : Stage) (files : Files)
    : (workspace.commit stage).run.run files
      = (.ok (workspace.lay stage.changed, writtenOf stage.changed), files) := by
  simp only [commit, dry, if_true]
  rfl

theorem Workspace.run_restore_dry (dry : workspace.dryRun = true) (written : Written) (files : Files)
    : (workspace.restore written).run.run files = (.ok (workspace.unlay written.reverse), files) := by
  simp only [restore, dry, if_true]
  rfl

/-- Written files have the contents again that they had in a tree before, or are gone if they were not
there, and else only directories were made, on the way to the root and above the files.
-/
structure Workspace.Undone (before later restored : Files) (root : Path) (top : Location) (written : Written)
    : Prop where
  content : ∀ entry ∈ written,
    restored.node? (top ++ entry.1.names)
      = (before.content? (top ++ entry.1.names)).map plainFile
  rest : ∀ place, (∀ entry ∈ written, place ≠ top ++ entry.1.names) →
    restored.node? place = later.node? place
    ∨ later.node? place = none
      ∧ restored.node? place = some .directory
      ∧ (later.OnWay root place ∨ ∃ entry ∈ written, IsAbove top place (top ++ entry.1.names))

/-- What a commit wrote to the tree is taken back, whatever became of it. -/
theorem Workspace.restore_of_commit {before after later : Files} {top : Location} {kept : Workspace}
    (wet : workspace.dryRun = false) (plain : workspace.overlay = [])
    (ground : before.Grounded workspace.root top) (built : stage.LoadedFrom workspace before)
    (fresh : stage.HasFreshNames before top)
    (ran : (workspace.commit stage).run.run before = (.ok (kept, written), after))
    (base : later.base = before.base)
    (recoverable : Recoverable later workspace.root top written)
    : ∃ restored,
        (kept.restore written).run.run later = (.ok kept, restored)
        ∧ Undone before later restored workspace.root top written := by
  have whole := built.readFrom.batch plain ground (fun _ _ => rfl) fresh
  obtain ⟨result, -⟩ := (commit_result wet ground whole ran).2 _ rfl
  obtain ⟨rfl, rfl⟩ := Prod.mk.inj result
  have here : later.locate kept.root = top := by
    rw [(place_taken ground.leads).1]
    simp [Files.locate, Files.start, base]
  have suited := (ready_of_commit wet ground whole ran).allSuited ground whole
  have all := recoverable.allMendable (suited.of_base base)
  obtain ⟨restored, runs, -, placed, node⟩ := restoreFiles_mended all recoverable.receives.unblocked
    (fun _ => recoverable.receives.reaches ground here) ground here
  simp only [List.mem_reverse] at placed node
  refine ⟨restored, ?_, fun entry member => ?_, fun place elsewhere => ?_⟩
  · simp only [restore, wet, Bool.false_eq_true, if_false, run_bind, runs]
    rfl
  · have plain : later.executable (beside (top ++ entry.1.names)) = false := by
      rw [Files.executable, recoverable.unused entry member]
    obtain ⟨file, inside, rfl⟩ := List.mem_map.mp member
    rw [placed _ member, plain]
    exact congrArg (Option.map plainFile) (whole.loaded file inside).symm
  · rcases node place elsewhere with same | made | ⟨entry, member, rfl, gone⟩
    · exact .inl same
    · exact .inr made
    · exact .inl (gone.trans (recoverable.unused entry member).symm)

/-- A commit that goes through can be taken back. If it wrote to the tree, the written files have their
former contents then or are gone, whatever became of them and of the directories above them. If it was a dry
one, every path is read as before, unless it could not be read and names the same as a written file that
could.
-/
theorem Workspace.restore_undoes (workspace : Workspace) (stage : Stage) (before : Files)
    : (workspace.dryRun = false → workspace.overlay = [] →
        ∀ top, before.Grounded workspace.root top → stage.LoadedFrom workspace before →
          stage.HasFreshNames before top →
        ∀ kept written after,
          (workspace.commit stage).run.run before = (.ok (kept, written), after) →
        ∀ later, later.base = before.base → Recoverable later workspace.root top written →
        ∃ restored,
          (kept.restore written).run.run later = (.ok kept, restored)
          ∧ Undone before later restored workspace.root top written)
      ∧ (workspace.dryRun = true → stage.AssembledFrom workspace before →
          ∃ laid written restored,
            (workspace.commit stage).run.run before = (.ok (laid, written), before)
            ∧ (laid.restore written).run.run before = (.ok restored, before)
            ∧ ∀ path,
                restored.read before path = workspace.read before path
                ∨ (∃ failure, workspace.read before path = .error failure)
                  ∧ ∃ file content, (file, some content) ∈ written
                    ∧ file.components = path.components
                    ∧ restored.read before path = .ok (some content)) := by
  refine ⟨fun wet plain top ground built fresh kept written after ran later base recoverable =>
    restore_of_commit wet plain ground built fresh ran base recoverable, fun dry built => ?_⟩
  have still : (workspace.lay stage.changed).dryRun = true := dry
  exact ⟨workspace.lay stage.changed, writtenOf stage.changed,
    (workspace.lay stage.changed).unlay (writtenOf stage.changed).reverse,
    run_commit_dry dry stage before, run_restore_dry still _ before, read_unlay_lay built.remembers⟩

/-- A tree with a file in a directory. -/
def Files.holdingInside : Files :=
  (Files.empty.setNode ["d"] .directory).setNode ["d", "f"] (plainFile "old".toUTF8)

/-- A stage that changes it. -/
def Stage.changingInside : Stage where
  files := [([.name "d", .name "f"], ⟨⟨"d", ["f"]⟩, some "old".toUTF8, some "new".toUTF8⟩)]

theorem Workspace.recoverable_empty (only : ∀ entry ∈ written, entry.1 = ⟨"d", ["f"]⟩)
    : Recoverable .empty ⟨"", [""]⟩ [] written := by
  have missing (location : Location) (below : location ≠ []) : Files.empty.node? location = none := by
    cases location with
    | nil => exact absurd rfl below
    | cons => rfl
  have free (location : Location) (content : ByteArray) (executable : Bool)
      : Files.empty.node? location ≠ some (.file content executable) := by
    cases location <;> simp [node?, Files.empty, Dictionary.get?]
  refine ⟨⟨fun place name found => ?_, rfl, fun place content executable _ => free place content executable,
    fun _ _ => rfl⟩, fun entry member => ?_, fun entry member place content executable _ =>
    free place content executable, fun entry member => missing _ (by simp [beside])⟩
  · simp [missing] at found
  · rw [only entry member, missing _ (by decide)]
    simp

/-- The file is put back into an empty tree, and read as before after a dry commit. -/
theorem Workspace.restore_undoes_inside
    : (∃ kept written after restored,
        ((Workspace.mk ⟨"", [""]⟩ false []).commit .changingInside).run.run .holdingInside
          = (.ok (kept, written), after)
        ∧ (kept.restore written).run.run .empty = (.ok kept, restored)
        ∧ restored.node? ["d", "f"] = some (plainFile "old".toUTF8))
      ∧ ∃ laid written restored,
          ((Workspace.mk ⟨"", [""]⟩ true []).commit .changingInside).run.run .holdingInside
            = (.ok (laid, written), .holdingInside)
          ∧ (laid.restore written).run.run .holdingInside = (.ok restored, .holdingInside)
          ∧ restored.read .holdingInside ⟨"d", ["f"]⟩ = .ok (some "old".toUTF8) := by
  have built (dry : Bool) : Stage.changingInside.LoadedFrom ⟨⟨"", [""]⟩, dry, []⟩ .holdingInside := by
    have sound : (Path.mk "d" ["f"]).fault? = none := by decide
    exact Stage.LoadedFrom.empty.write sound ⟨"d/f", by decide⟩ rfl rfl "new".toUTF8
  have ground : Files.holdingInside.Grounded ⟨"", [""]⟩ [] := by
    have first : (Files.empty.setNode ["d"] .directory).Grounded ⟨"", [""]⟩ [] :=
      grounded_empty.setNode
        ⟨by simp [node?, Files.empty, Dictionary.get?], [], "d", rfl, fun _ => rfl⟩ _
    refine first.setNode ⟨?_, ["d"], "f", rfl, fun _ => rfl⟩ _
    rw [node?_setNode (by simp), if_neg (by decide)]
    simp [node?, Files.empty, Dictionary.get?]
  have paths : Stage.changingInside.changedPaths = [⟨"d", ["f"]⟩] := by decide +kernel
  have fresh : Stage.changingInside.HasFreshNames .holdingInside [] := by
    refine ⟨?_, ?_⟩ <;> rw [paths]
    · simp only [List.forall_mem_cons]
      exact ⟨rfl, by simp⟩
    · decide +kernel
  have passes : (((Workspace.mk ⟨"", [""]⟩ false []).commit .changingInside).run.run
      .holdingInside).1.toOption.map (·.2.map (·.1)) = some [⟨"d", ["f"]⟩] := by
    decide +kernel
  constructor
  · rcases ran : ((Workspace.mk ⟨"", [""]⟩ false []).commit .changingInside).run.run .holdingInside with
      ⟨failure | ⟨kept, written⟩, after⟩
    · rw [ran] at passes
      cases passes
    · rw [ran] at passes
      have listed : written.map (·.1) = [⟨"d", ["f"]⟩] := Option.some.inj passes
      have only (entry : Path × Option ByteArray) (member : entry ∈ written)
          : entry.1 = ⟨"d", ["f"]⟩ := by
        have inside := List.mem_map_of_mem (f := (·.1)) member
        rw [listed] at inside
        exact List.mem_singleton.mp inside
      obtain ⟨restored, runs, undone⟩ := (Workspace.restore_undoes ⟨⟨"", [""]⟩, false, []⟩ .changingInside
        .holdingInside).1 rfl rfl [] ground (built false) fresh kept written after ran .empty rfl
        (recoverable_empty only)
      refine ⟨kept, written, after, restored, rfl, runs, ?_⟩
      obtain ⟨entry, member⟩ : ∃ entry, entry ∈ written := by
        cases written with
        | nil => cases listed
        | cons entry rest => exact ⟨entry, List.mem_cons_self⟩
      have content := undone.content entry member
      rw [only entry member] at content
      exact content
  · obtain ⟨laid, written, restored, commits, restores, reads⟩ :=
      (Workspace.restore_undoes ⟨⟨"", [""]⟩, true, []⟩ .changingInside .holdingInside).2 rfl
        (built true).assembledFrom
    refine ⟨laid, written, restored, commits, restores, ?_⟩
    rcases reads ⟨"d", ["f"]⟩ with same | ⟨⟨failure, failed⟩, -⟩
    · exact same.trans rfl
    · cases failed

/-- A stage that writes a file beside a directory. -/
def Stage.writingBeside : Stage where
  files := [([.name "g"], ⟨⟨"g", []⟩, none, some "new".toUTF8⟩)]

/-- Taking back a dry commit makes readable what was not, if it names the same as a written file that was.
Taking back a commit leaves a new file to which the root does not lead any more.
-/
theorem Workspace.restore_inexact
    : (∃ failure laid written restored,
        Stage.changingInside.LoadedFrom ⟨⟨"", [""]⟩, true, []⟩ .holdingInside
        ∧ (Workspace.mk ⟨"", [""]⟩ true []).read .holdingInside ⟨"d", ["f", ""]⟩ = .error failure
        ∧ ((Workspace.mk ⟨"", [""]⟩ true []).commit .changingInside).run.run .holdingInside
          = (.ok (laid, written), .holdingInside)
        ∧ (laid.restore written).run.run .holdingInside = (.ok restored, .holdingInside)
        ∧ restored.read .holdingInside ⟨"d", ["f", ""]⟩ = .ok (some "old".toUTF8))
      ∧ ∃ kept written after undone restored,
          Stage.writingBeside.LoadedFrom ⟨⟨"", ["d", ".."]⟩, false, []⟩
            (Files.empty.setNode ["d"] .directory)
          ∧ ((Workspace.mk ⟨"", ["d", ".."]⟩ false []).commit .writingBeside).run.run
              (Files.empty.setNode ["d"] .directory)
            = (.ok (kept, written), after)
          ∧ (kept.restore written).run.run (after.dropNode ["d"]) = (.ok undone, restored)
          ∧ (Files.empty.setNode ["d"] .directory).content? ["g"] = none
          ∧ restored.content? ["g"] = some "new".toUTF8 := by
  constructor
  · have sound : (Path.mk "d" ["f"]).fault? = none := by decide
    refine ⟨_, _, _, _, Stage.LoadedFrom.empty.write sound ⟨"d/f", by decide⟩ rfl rfl "new".toUTF8, rfl,
      run_commit_dry rfl _ _, run_restore_dry rfl _ _, ?_⟩
    rfl
  · have built : Stage.writingBeside.LoadedFrom ⟨⟨"", ["d", ".."]⟩, false, []⟩
        (Files.empty.setNode ["d"] .directory) := by
      have sound : (Path.mk "g" []).fault? = none := by decide
      exact Stage.LoadedFrom.empty.write sound ⟨"g", by decide⟩ rfl rfl "new".toUTF8
    let outcome := ((Workspace.mk ⟨"", ["d", ".."]⟩ false []).commit .writingBeside).run.run
      (Files.empty.setNode ["d"] .directory)
    have stays : (outcome.1.toOption.map fun value =>
        let ending := (value.1.restore value.2).run.run (outcome.2.dropNode ["d"])
        (ending.1.toOption.isSome, ending.2.content? ["g"])) = some (true, some "new".toUTF8) := by
      decide +kernel
    rcases commits : outcome with ⟨failure | ⟨kept, written⟩, after⟩
    · rw [commits] at stays
      cases stays
    · rw [commits] at stays
      obtain ⟨passes, holds⟩
          : ((kept.restore written).run.run (after.dropNode ["d"])).1.toOption.isSome = true
            ∧ ((kept.restore written).run.run (after.dropNode ["d"])).2.content? ["g"]
              = some "new".toUTF8 :=
        Prod.mk.inj (Option.some.inj stays)
      rcases restores : (kept.restore written).run.run (after.dropNode ["d"]) with
        ⟨failure | undone, restored⟩
      · rw [restores] at passes
        cases passes
      · rw [restores] at holds
        exact ⟨kept, written, after, undone, restored, built, commits, restores, rfl, holds⟩

end Groundwork
