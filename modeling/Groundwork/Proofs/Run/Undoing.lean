import Groundwork.Proofs.Run.Setting
import Groundwork.Proofs.Workspace.Atomicity

/-!
Steps that fail leave no trace in the files. A run that stops, but not at a checkpoint, leaves every
file below its root as it was after the last step that was applied.
-/

namespace Groundwork

open Files Path Workspace

variable {σ : Type} {base : Location} {root : Path} {top : Location} {targets : List Path}
  {setup : RunSetup σ} {options : Options} {step : Step} {before middle after : Scene σ}

-----------------------------------------------------------------------------------------
-- The events of a step and the tree
-----------------------------------------------------------------------------------------

/-- Collaborators that leave the targets of a run alone: commands change nothing below the root, and
neither checkpoints nor the file of the run state take the names of temporary files.
-/
structure RunSetup.LeavesTargets (setup : RunSetup σ) (base : Location) (root : Path)
    (top : Location) (targets : List Path)
    : Prop where
  commands : ∀ line, (setup.collaborators.command root line).KeepsBelow root top
  checkpoints : ∀ message surroundings,
    Settled base root top targets surroundings.files →
    Settled base root top targets
      ((setup.collaborators.checkpoint message).run.run surroundings).2.files
  statePath : ∀ path, setup.statePath = some path → ∀ files : Files, files.base = base →
    ∀ target ∈ targets, target.names ≠ [] →
      ¬ RunState.Touches files path (beside (top ++ target.names))

/-- Events can be split where a list of them is appended to another; by induction on the first. -/
theorem Unfolds.split {first second : List RunEvent}
    (events : Unfolds setup options step before (first ++ second) after)
    : ∃ middle,
        Unfolds setup options step before first middle
        ∧ Unfolds setup options step middle second after := by
  induction first generalizing before with
  | nil => exact ⟨before, .nil before, events⟩
  | cons event rest ih =>
      cases events with
      | cons head later =>
          obtain ⟨middle, left, right⟩ := ih later
          exact ⟨middle, .cons head left, right⟩

/-- Commands that change nothing below the root leave it as it is; by induction on them. -/
theorem Unfolds.commands (quiet : ∀ line, (setup.collaborators.command root line).KeepsBelow root top)
    (rooted : before.workspace.root = root) {exits : List (String × CommandExit)}
    (events : Unfolds setup options step before (exits.map .succeeded) after)
    : SameBelow root top before.files after.files := by
  induction exits generalizing before with
  | nil =>
      cases events
      exact .refl _
  | cons exit rest ih =>
      cases events with
      | cons head later =>
          obtain ⟨surroundings, ran, rfl⟩ := head
          rw [rooted] at ran
          have same := quiet exit.1 before.surroundings
          rw [ran] at same
          exact same.trans (ih (show { before with surroundings }.workspace.root = root from rooted) later)

/-- What a step staged is a batch of its targets, and its commit moves the batch to its places or
leaves a residue of it.
-/
theorem Unfolds.committed (paths : TargetPaths top targets)
    (within : ∀ path ∈ step.targets, path ∈ targets)
    (settled : Settled base root top targets before.files)
    (plain : before.workspace = ⟨root, false, []⟩) {stage : Stage}
    {outcome : Except Failure Written}
    (events : Unfolds setup options step before [.staged (.ok stage), .committed stage outcome] middle)
    : Batch before.files top stage.changed
      ∧ (∀ file ∈ stage.changed, file.path ∈ step.targets)
      ∧ (∀ failure, outcome = .error failure →
          middle.files.Grounded root top ∧ Residue before.files middle.files top stage.changed)
      ∧ ∀ written, outcome = .ok written →
          written = writtenOf stage.changed
          ∧ AllMoved before.files middle.files root top stage.changed := by
  cases events with
  | cons staged rest =>
      cases rest with
      | cons committed none =>
          cases none
          obtain ⟨staged, names, -, rfl⟩ := staged
          obtain ⟨files, ran, rfl⟩ := committed
          have holds := step.stageMutations_holds staged
          rw [plain] at holds
          obtain ⟨whole, own⟩ := settled.changed paths within holds
          have wet : before.workspace.dryRun = false := by rw [plain]
          have rooted : before.workspace.root = root := by rw [plain]
          have ground : before.files.Grounded before.workspace.root top := rooted ▸ settled.ground
          obtain ⟨fails, moves⟩ := commit_result wet ground whole ran
          refine ⟨whole, own, fun failure same => ?_, fun written same => ?_⟩
          · subst same
            exact rooted ▸ fails failure rfl
          · subst same
            obtain ⟨same, moved⟩ := moves _ rfl
            exact ⟨(Prod.mk.inj same).2, rooted ▸ moved⟩

-----------------------------------------------------------------------------------------
-- Steps that fail
-----------------------------------------------------------------------------------------

/-- When a command did not succeed, undoing the step leaves a residue of what was committed. -/
theorem Unfolds.undone (paths : TargetPaths top targets)
    (within : ∀ path ∈ step.targets, path ∈ targets)
    (quiet : ∀ line, (setup.collaborators.command root line).KeepsBelow root top)
    (settled : Settled base root top targets before.files)
    (plain : before.workspace = ⟨root, false, []⟩) {stage : Stage} {written : Written}
    {exits : List (String × CommandExit)} {line : String} {answer : Except Failure CommandExit}
    (events : Unfolds setup options step before
      (writtenEvents stage written exits ++ [.ran line answer, .undone written]) after)
    : after.files.Grounded root top
      ∧ Residue before.files after.files top stage.changed
      ∧ ∀ file ∈ stage.changed, file.path ∈ step.targets := by
  rw [writtenEvents, List.append_assoc] at events
  obtain ⟨moved, commits, events⟩ := events.split
  obtain ⟨ranned, commands, events⟩ := events.split
  obtain ⟨whole, own, -, moves⟩ := commits.committed paths within settled plain
  obtain ⟨rfl, all⟩ := moves written rfl
  have plain' : moved.workspace = ⟨root, false, []⟩ := commits.keeps.1.trans plain
  have plain'' : ranned.workspace = ⟨root, false, []⟩ := commands.keeps.1.trans plain'
  cases events with
  | cons ran rest =>
      cases rest with
      | cons undone none =>
          cases none
          obtain ⟨surroundings, ran, rfl⟩ := ran
          obtain ⟨outcome, files, restored, rfl⟩ := undone
          rw [plain''] at ran
          simp only [plain''] at restored
          have first := commands.commands quiet (by rw [plain'])
          have second := quiet line ranned.surroundings
          rw [ran] at second
          have all' := all.sameBelow (first.trans second)
          obtain ⟨tree, restores, ground, residue⟩ :=
            restore_result (show (Workspace.mk root false []).dryRun = false from rfl) all' whole
          have same : tree = files := (Prod.mk.inj (restores.symm.trans restored)).2
          subst same
          exact ⟨ground, residue, own⟩

/-- A step that fails, but not at its checkpoint, leaves the contents as they were. If it failed
before it wrote anything, it leaves the whole tree as it was. By cases on where its events end.
-/
theorem StepHistory.undone (paths : TargetPaths top targets)
    (within : ∀ path ∈ step.targets, path ∈ targets)
    (leaves : setup.LeavesTargets base root top targets)
    (settled : Settled base root top targets before.files)
    (plain : before.workspace = ⟨root, false, []⟩) {events : List RunEvent} {fault : RunFault}
    (history : StepHistory setup options step before events (.error fault) after)
    (unrefused : ∀ failure, fault ≠ .checkpointFailed step.name failure)
    : Settled base root top targets after.files
      ∧ SameContents top (step.targets.map (top ++ ·.names)) before.files after.files
      ∧ (events = [.staged (.error fault)] ∧ after.files = before.files
        ∨ ∃ stage rest, events = .staged (.ok stage) :: rest) := by
  have locations {stage : Stage} (own : ∀ file ∈ stage.changed, file.path ∈ step.targets)
      : ∀ file ∈ stage.changed, file.location top ∈ step.targets.map (top ++ ·.names) :=
    fun file member => List.mem_map.mpr ⟨file.path, own file member, rfl⟩
  cases history with
  | handled due on effects order =>
      cases order with
      | unstaged =>
          cases effects with
          | cons staged none =>
              cases none
              obtain ⟨-, names, -, rfl⟩ := staged
              exact ⟨settled, .refl .., .inl ⟨rfl, rfl⟩⟩
      | uncommitted stage failure =>
          obtain ⟨whole, own, fails, -⟩ := effects.committed paths within settled plain
          obtain ⟨ground, residue⟩ := fails failure rfl
          exact ⟨settled.residue paths (fun file member => within _ (own file member)) ground residue,
            residue.sameContents (locations own), .inr ⟨stage, _, rfl⟩⟩
      | stopped stage written exits line answer fault commands fails =>
          obtain ⟨ground, residue, own⟩ := effects.undone paths within leaves.commands settled plain
          refine ⟨settled.residue paths (fun file member => within _ (own file member)) ground residue,
            residue.sameContents (locations own), .inr ⟨stage, ?_⟩⟩
          exact ⟨_, rfl⟩
      | refused stage written exits failure => exact absurd rfl (unrefused failure)
      | unsaved stage written exits path failure => exact absurd rfl (unrefused failure)

-----------------------------------------------------------------------------------------
-- Steps that do not fail
-----------------------------------------------------------------------------------------

/-- Up to its checkpoint, a step whose commands succeed leaves its files at their places. -/
theorem Unfolds.written (paths : TargetPaths top targets)
    (within : ∀ path ∈ step.targets, path ∈ targets)
    (quiet : ∀ line, (setup.collaborators.command root line).KeepsBelow root top)
    (settled : Settled base root top targets before.files)
    (plain : before.workspace = ⟨root, false, []⟩) {stage : Stage} {written : Written}
    {exits : List (String × CommandExit)}
    (events : Unfolds setup options step before (writtenEvents stage written exits) after)
    : AllMoved before.files after.files root top stage.changed
      ∧ Batch before.files top stage.changed
      ∧ (∀ file ∈ stage.changed, file.path ∈ step.targets) := by
  obtain ⟨moved, commits, commands⟩ := events.split
  obtain ⟨whole, own, -, moves⟩ := commits.committed paths within settled plain
  have rooted : moved.workspace.root = root := by rw [commits.keeps.1, plain]
  exact ⟨(moves written rfl).2.sameBelow (commands.commands quiet rooted), whole, own⟩

/-- A step that does not fail is passed over and leaves the scene alone, or it is applied; either way
no temporary file is left.
-/
theorem StepHistory.settled (paths : TargetPaths top targets)
    (within : ∀ path ∈ step.targets, path ∈ targets)
    (leaves : setup.LeavesTargets base root top targets)
    (settled : Settled base root top targets before.files)
    (plain : before.workspace = ⟨root, false, []⟩) {events : List RunEvent} {status : StepStatus}
    (history : StepHistory setup options step before events (.ok status) after)
    : Settled base root top targets after.files
      ∧ ((∃ reason, status = .skipped reason ∧ after = before)
        ∨ ∃ files commands, status = .applied files commands) := by
  cases history with
  | completed | guarded => exact ⟨settled, .inl ⟨_, rfl, rfl⟩⟩
  | handled due on effects order =>
      cases order with
      | applied stage written exits commands =>
          rw [List.append_assoc] at effects
          obtain ⟨middle, writes, effects⟩ := effects.split
          obtain ⟨all, -, own⟩ := writes.written paths within leaves.commands settled plain
          have written := settled.allMoved paths (fun file member => within _ (own file member)) all
          refine ⟨?_, .inr ⟨_, _, rfl⟩⟩
          cases effects with
          | cons checkpointed rest =>
              obtain ⟨surroundings, asked, rfl⟩ := checkpointed
              have taken := leaves.checkpoints step.name middle.surroundings written
              rw [asked] at taken
              cases rest with
              | cons recorded rest =>
                  obtain ⟨-, rfl⟩ := recorded
                  cases kept : setup.statePath with
                  | none =>
                      rw [kept] at rest
                      cases rest
                      exact taken
                  | some path =>
                      rw [kept] at rest
                      cases rest with
                      | cons saved none =>
                          cases none
                          obtain ⟨files, wrote, rfl⟩ := saved
                          exact taken.write wrote (leaves.statePath path kept _ taken.base)

-----------------------------------------------------------------------------------------
-- Whole runs
-----------------------------------------------------------------------------------------

/-- A run of steps that fails does so at a step that starts from the scene after the last step that
was applied, or from where the run started: the steps between were passed over.
-/
structure HaltsAt (setup : RunSetup σ) (options : Options) (steps : List Step)
    (before : Scene σ) (earlier skipped : List Step) (step : Step) (middle : Scene σ)
    (fault : RunFault) (after : Scene σ)
    : Prop where
  order : ∃ rest, steps = earlier ++ skipped ++ step :: rest
  ran : ∃ report, (Pipeline.runSteps setup options earlier).run.run before = (.ok report, middle)
    ∧ (earlier = [] ∨ ∃ reports name files commands,
        report = reports ++ [⟨name, .applied files commands⟩])
  skips : ∀ other ∈ skipped, ∃ reason,
    (other.run setup options).run.run middle = (.ok (.skipped reason), middle)
  fails : (step.run setup options).run.run middle = (.error fault, after)

namespace HaltsAt

variable {steps earlier skipped : List Step} {last : Step} {fault : RunFault}

/-- A step that is passed over at the start of a run is one of those passed over. -/
theorem afterSkip (halts : HaltsAt setup options steps before [] skipped last middle fault after)
    {reason : SkipReason}
    (ran : (step.run setup options).run.run before = (.ok (.skipped reason), before))
    : HaltsAt setup options (step :: steps) before [] (step :: skipped) last middle fault after := by
  obtain ⟨⟨rest, rfl⟩, ⟨report, started, ends⟩, skips, fails⟩ := halts
  cases started
  exact ⟨⟨rest, rfl⟩, ⟨[], rfl, .inl rfl⟩, List.forall_mem_cons.mpr ⟨⟨reason, ran⟩, skips⟩, fails⟩

/-- A step that did not fail comes before the others, if the last of them that ran was applied or
there is none and it was applied itself.
-/
theorem afterStep {next : Scene σ} {status : StepStatus}
    (halts : HaltsAt setup options steps next earlier skipped last middle fault after)
    (ran : (step.run setup options).run.run before = (.ok status, next))
    (applied : earlier ≠ [] ∨ ∃ files commands, status = .applied files commands)
    : HaltsAt setup options (step :: steps) before (step :: earlier) skipped last middle fault after
    := by
  obtain ⟨⟨rest, rfl⟩, ⟨report, started, ends⟩, skips, fails⟩ := halts
  refine ⟨⟨rest, rfl⟩, ⟨⟨step.name, status⟩ :: report, ?_, .inr ?_⟩, skips, fails⟩
  · simp only [Pipeline.runSteps, run_bind, ran, started]
    rfl
  · rcases ends with rfl | ⟨reports, name, files, commands, rfl⟩
    · cases started
      obtain ⟨files, commands, rfl⟩ := applied.resolve_left (fun none => none rfl)
      exact ⟨[], step.name, files, commands, rfl⟩
    · exact ⟨⟨step.name, status⟩ :: reports, name, files, commands, rfl⟩

end HaltsAt

/-- A run that fails, but not at a checkpoint, stops at a step that leaves the contents below the
root as they were when it started; by induction on the steps, each of which leaves no temporary file.
-/
theorem Pipeline.runSteps_undone (paths : TargetPaths top targets) (steps : List Step)
    (within : ∀ step ∈ steps, ∀ path ∈ step.targets, path ∈ targets)
    (leaves : setup.LeavesTargets base root top targets)
    (settled : Settled base root top targets before.files)
    (plain : before.workspace = ⟨root, false, []⟩) {fault : RunFault}
    (failed : (runSteps setup options steps).run.run before = (.error fault, after))
    (unrefused : ∀ name failure, fault ≠ .checkpointFailed name failure)
    : ∃ earlier skipped step middle,
        HaltsAt setup options steps before earlier skipped step middle fault after
        ∧ Settled base root top targets after.files
        ∧ SameContents top (step.targets.map (top ++ ·.names)) middle.files after.files
        ∧ (((step.stageMutations setup.collaborators options).run.run middle).1 = .error fault →
            after.files = middle.files) := by
  induction steps generalizing before with
  | nil => cases failed
  | cons step rest ih =>
      rw [List.forall_mem_cons] at within
      have wet : before.workspace.dryRun = false := by rw [plain]
      obtain ⟨events, outcome, middle, ran, history⟩ := step.run_stepHistory setup options wet
      rw [runSteps, run_bind, ran] at failed
      cases outcome with
      | error found =>
          cases failed
          obtain ⟨clean, same, ends⟩ := history.undone paths within.1 leaves settled plain
            (fun failure => unrefused step.name failure)
          refine ⟨[], [], step, before, ⟨⟨rest, rfl⟩, ⟨[], rfl, .inl rfl⟩, by simp, ran⟩, clean, same,
            fun unstaged => ?_⟩
          rcases ends with ⟨-, same⟩ | ⟨stage, rest, rfl⟩
          · exact same
          · cases history with
            | handled due on effects order =>
                cases effects with
                | cons staged _ =>
                    rw [staged.1] at unstaged
                    cases unstaged
      | ok status =>
          obtain ⟨clean, skippedOrApplied⟩ := history.settled paths within.1 leaves settled plain
          have later : (runSteps setup options rest).run.run middle = (.error fault, after) := by
            rcases ended : (runSteps setup options rest).run.run middle with ⟨_ | report, final⟩ <;>
              simp only [run_bind, ended] at failed <;> cases failed
            rfl
          obtain ⟨earlier, skipped, last, start, halts, rest⟩ :=
            ih within.2 clean (history.keeps.1.trans plain) later
          rcases skippedOrApplied with ⟨reason, rfl, rfl⟩ | ⟨files, commands, rfl⟩
          · cases earlier with
            | nil => exact ⟨[], step :: skipped, last, start, halts.afterSkip ran, rest⟩
            | cons first more =>
                exact ⟨step :: first :: more, skipped, last, start,
                  halts.afterStep ran (.inl (List.cons_ne_nil _ _)), rest⟩
          · exact ⟨step :: earlier, skipped, last, start,
              halts.afterStep ran (.inr ⟨files, commands, rfl⟩), rest⟩

/-- A run on the tree that fails, but not at a checkpoint, leaves every file below the root with the
content that it had after the last step that was applied, and no temporary file. A step that could
not be worked out leaves the tree as it was; others may leave directories above their targets.
-/
theorem Pipeline.run_undone {pipeline : Pipeline} {scene after : Scene σ} {fault : RunFault}
    (sound : pipeline.flaws = []) (spelled : ∀ path ∈ pipeline.targets, path.IsSpelled)
    (apart : ∀ path ∈ pipeline.targets, ∀ other ∈ pipeline.targets, path.names ≠ [] →
      ¬ beside (top ++ path.names) <+: top ++ other.names)
    (plain : scene.workspace = ⟨root, false, []⟩)
    (settled : Settled scene.files.base root top pipeline.targets scene.files)
    (leaves : setup.LeavesTargets scene.files.base root top pipeline.targets)
    (failed : (pipeline.run setup).run.run scene = (.error fault, after))
    (unrefused : ∀ name failure, fault ≠ .checkpointFailed name failure)
    : (∃ reasons, fault = .malformed reasons ∧ after = scene)
      ∨ ∃ earlier skipped step middle,
        HaltsAt setup (Dictionary.layer pipeline.options setup.options) pipeline.steps scene
          earlier skipped step middle fault after
        ∧ SameContents top (step.targets.map (top ++ ·.names)) middle.files after.files
        ∧ (∀ path ∈ pipeline.targets, path.names ≠ [] →
            after.files.node? (beside (top ++ path.names)) = none)
        ∧ (((step.stageMutations setup.collaborators
              (Dictionary.layer pipeline.options setup.options)).run.run middle).1 = .error fault →
            after.files = middle.files) := by
  by_cases own : scene.state.pipeline = pipeline.name
  · rw [run_eq setup sound own] at failed
    obtain ⟨earlier, skipped, step, middle, halts, clean, same, unstaged⟩ :=
      runSteps_undone ⟨fault?_of_flaws sound, spelled, apart⟩ pipeline.steps
        pipeline.within_targets leaves settled plain failed unrefused
    exact .inr ⟨earlier, skipped, step, middle, halts, same, clean.unused, unstaged⟩
  · rw [run, run_bind, RunAction.run_getScene] at failed
    simp only [sound, List.isEmpty_nil, Bool.not_true, Bool.false_eq_true, if_false, bne_iff_ne, ne_eq,
      own, not_false_eq_true, if_true] at failed
    cases failed
    exact .inl ⟨_, rfl, rfl⟩

theorem Collaborators.failing_leavesTargets (line : String) (targets : List Path)
    : RunSetup.LeavesTargets { collaborators := .failing line } base root top targets := by
  refine ⟨fun other => Notes.command_keepsBelow ?_ root other, ?_, nofun⟩
  · intro other script found
    simp only [Dictionary.get?] at found
    split at found <;> cases found
    exact ⟨rfl, rfl, rfl⟩
  · intro message surroundings settled
    change Settled base root top targets
      ((Notes.checkpoint [] message).run.run surroundings).2.files
    rwa [Notes.checkpoint_files]

theorem Pipeline.noting_spelled : ∀ path ∈ noting.targets, path.IsSpelled := by
  intro path member
  rw [show noting.targets = [⟨"notes.txt", []⟩, ⟨"log.txt", []⟩] from rfl] at member
  simp only [List.mem_cons, List.not_mem_nil, or_false] at member
  rcases member with rfl | rfl
  · exact ⟨"notes.txt", rfl⟩
  · exact ⟨"log.txt", rfl⟩

theorem Pipeline.noting_apart
    : ∀ path ∈ noting.targets, ∀ other ∈ noting.targets, path.names ≠ [] →
        ¬ beside ([] ++ path.names) <+: [] ++ other.names := by
  rw [show noting.targets = [⟨"notes.txt", []⟩, ⟨"log.txt", []⟩] from rfl]
  decide

/-- The file of a step whose command does not succeed is gone again. -/
theorem Pipeline.run_undone_noting
    : ∃ earlier skipped step middle,
        HaltsAt { collaborators := .failing "false" } (Dictionary.layer [] []) noting.steps
          (.blank "notes") earlier skipped step middle
          (.commandFailed "check" "false" (some 1) "")
          ((noting.run { collaborators := .failing "false" }).run.run (.blank "notes")).2 := by
  have halted :
      (noting.run { collaborators := .failing "false" }).run.run (.blank "notes")
        = (.error (.commandFailed "check" "false" (some 1) ""),
            ((noting.run { collaborators := .failing "false" }).run.run (.blank "notes")).2) :=
    Prod.ext rfl rfl
  have start : Settled (Scene.blank "notes").files.base ⟨"", [""]⟩ [] noting.targets
      (Scene.blank "notes").files := .empty _
  rcases run_undone (by decide) noting_spelled noting_apart rfl start
      (Collaborators.failing_leavesTargets _ _) halted (by simp) with
    ⟨reasons, same, -⟩ | ⟨earlier, skipped, step, middle, halts, -⟩
  · cases same
  · exact ⟨earlier, skipped, step, middle, halts⟩

end Groundwork
