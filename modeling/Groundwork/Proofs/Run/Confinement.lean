import Groundwork.Proofs.Path.Spelling
import Groundwork.Proofs.Run.Recording
import Groundwork.Proofs.Workspace.Confinement

/-!
Confinement of runs to their root. Whatever step a run arrives at, the step reads, writes, moves, makes
and removes nothing on its own account but what lies at the root or below it; what its commands and
checkpoints do is left aside.
-/

namespace Groundwork

open Files Path Workspace FileAction

variable {σ α : Type} {root : Path} {top : Location} {setup : RunSetup σ} {options : Options}
  {step : Step} {steps : List Step} {before middle after scene : Scene σ} {events : List RunEvent}

-----------------------------------------------------------------------------------------
-- What a step does below its root
-----------------------------------------------------------------------------------------

/-- A scene whose root is a directory. In a run on the tree nothing is kept beside it. -/
structure Scene.Rooted (root : Path) (top : Location) (scene : Scene σ) : Prop where
  at_ : scene.workspace.root = root
  ground : scene.files.Grounded root top
  plain : scene.workspace.dryRun = false → scene.workspace.overlay = []

/-- What a step does at a scene stays below the root: its targets are read there, what it staged is
committed there, and what a commit lists as written is put back there, on whatever tree the commands
leave, as long as the root is a directory.
-/
structure Step.Confined (step : Step) (setup : RunSetup σ) (options : Options) (root : Path)
    (top : Location) (scene : Scene σ)
    : Prop where
  rooted : scene.Rooted root top
  reads : ∀ target ∈ step.targets,
    IsConfined root top (FileAction.look (scene.workspace.read · target)) scene.files
  commits : ∀ stage asked,
    (step.stageMutations setup.collaborators options).run.run scene = (.ok stage, asked) →
    IsConfined root top (asked.workspace.commit stage) asked.files
  restores : ∀ stage asked,
    (step.stageMutations setup.collaborators options).run.run scene = (.ok stage, asked) →
    ∀ kept written committed,
      (asked.workspace.commit stage).run.run asked.files = (.ok (kept, written), committed) →
      ∀ files : Files, files.Grounded root top → IsConfined root top (kept.restore written) files

/-- What a step staged is to be written below the root. -/
theorem Scene.Rooted.isTarget (rooted : scene.Rooted root top)
    (sound : ∀ path ∈ step.targets, path.fault? = none)
    (spelled : ∀ path ∈ step.targets, path.IsSpelled) {stage : Stage} {asked : Scene σ}
    (staged : (step.stageMutations setup.collaborators options).run.run scene = (.ok stage, asked))
    (wet : scene.workspace.dryRun = false)
    : ∀ file ∈ stage.changed, IsTarget file.path :=
  (step.stageMutations_holds staged).isTarget (rooted.at_ ▸ rooted.ground) (rooted.plain wet) sound
    spelled

/-- A step whose targets are sound is confined where the root is a directory. -/
theorem Step.confined (rooted : scene.Rooted root top)
    (sound : ∀ path ∈ step.targets, path.fault? = none)
    (spelled : ∀ path ∈ step.targets, path.IsSpelled)
    : step.Confined setup options root top scene := by
  obtain rfl := rooted.at_
  obtain ⟨outcome, names, asks, -⟩ :=
    step.stageMutations_consulting setup.collaborators options scene
  refine ⟨rooted, fun target member => ?_, fun stage asked staged => ?_,
    fun stage asked staged kept written committed ran files ground => ?_⟩
  · exact (read_inside (sound target member) scene.files).isConfined rooted.ground
  · have inward := commit_inward (rooted.isTarget sound spelled staged)
    cases asks.symm.trans staged
    exact (inward.callsOnly rooted.ground).isConfined rooted.ground
  · have targets := rooted.isTarget sound spelled staged
    cases asks.symm.trans staged
    obtain ⟨same, dry, rfl⟩ := kept_of_commit ran
    have inward : Inward kept.root (kept.restore (writtenOf stage.changed)) := by
      refine restore_inward fun wet entry member => ?_
      obtain ⟨file, among, rfl⟩ := List.mem_map.mp member
      exact targets (dry ▸ wet) file among
    rw [same] at inward
    exact (inward.callsOnly ground).isConfined ground

-----------------------------------------------------------------------------------------
-- Events and runs that keep the root a directory
-----------------------------------------------------------------------------------------

/-- A request after which the root is a directory if it was one before. -/
def Request.KeepsRoot (root : Path) (top : Location) (request : Request σ α) : Prop :=
  ∀ surroundings, surroundings.files.Grounded root top →
    (request.run.run surroundings).2.files.Grounded root top

/-- Collaborators that leave the root a directory, whatever else they change. -/
structure RunSetup.KeepsRoot (setup : RunSetup σ) (root : Path) (top : Location) : Prop where
  commands : ∀ line, (setup.collaborators.command root line).KeepsRoot root top
  checkpoints : ∀ message, (setup.collaborators.checkpoint message).KeepsRoot root top

/-- Events keep the root a directory if nothing is put back and the files that are written are targets;
by induction on them and cases on each.
-/
theorem Unfolds.grounded (keeps : setup.KeepsRoot root top) (at_ : before.workspace.root = root)
    (ground : before.files.Grounded root top)
    (unfolds : Unfolds setup options step before events after)
    (commits : ∀ stage outcome, .committed stage outcome ∈ events →
      before.workspace.dryRun = false → ∀ file ∈ stage.changed, IsTarget file.path)
    (undone : ∀ written, .undone written ∉ events)
    : after.files.Grounded root top := by
  induction unfolds with
  | nil scene => exact ground
  | @cons before middle after event events head rest ih =>
      refine ih (by rw [head.keeps.1, at_]) ?_ (fun stage outcome member wet => ?_)
        fun written member => undone written (List.mem_cons_of_mem _ member)
      · cases event with
        | staged outcome =>
            obtain ⟨-, names, -, rfl⟩ := head
            exact ground
        | committed stage outcome =>
            obtain ⟨files, ran, rfl⟩ := head
            have inward := commit_inward (commits stage outcome List.mem_cons_self)
            rw [at_] at inward
            exact (inward.callsOnly ground).ground ground ran
        | ran line answer =>
            obtain ⟨surroundings, ran, rfl⟩ := head
            have kept := keeps.commands line before.surroundings ground
            rw [at_] at ran
            rw [ran] at kept
            exact kept
        | undone written => exact absurd List.mem_cons_self (undone written)
        | checkpointed message answer =>
            obtain ⟨surroundings, ran, rfl⟩ := head
            have kept := keeps.checkpoints message before.surroundings ground
            rw [ran] at kept
            exact kept
        | recorded name =>
            obtain ⟨-, rfl⟩ := head
            exact ground
        | saved path outcome =>
            obtain ⟨files, ran, rfl⟩ := head
            exact (RunState.write_frame ground ran).1
      · exact commits stage outcome (List.mem_cons_of_mem _ member) (by rw [← head.keeps.1, wet])

/-- A step that does not fail keeps the root a directory; by cases on whether it is applied. -/
theorem StepHistory.rooted (keeps : setup.KeepsRoot root top)
    (sound : ∀ path ∈ step.targets, path.fault? = none)
    (spelled : ∀ path ∈ step.targets, path.IsSpelled) (rooted : before.Rooted root top)
    {status : StepStatus} (history : StepHistory setup options step before events (.ok status) after)
    : after.Rooted root top := by
  cases history with
  | completed | guarded => exact rooted
  | handled due on effects order =>
      have kept := effects.keeps.1
      refine ⟨by rw [kept, rooted.at_], ?_, by rw [kept]; exact rooted.plain⟩
      cases order with
      | applied stage written exits commands =>
          have staged := effects
          rw [writtenEvents] at staged
          cases staged with
          | cons staged _ =>
              refine effects.grounded keeps rooted.at_ rooted.ground (fun other outcome member => ?_)
                fun other member => ?_
              · obtain ⟨rfl, -⟩ : other = stage ∧ outcome = .ok written := by
                  simpa [writtenEvents, RunEvent.succeeded] using member
                exact rooted.isTarget sound spelled staged.1
              · simp [writtenEvents, RunEvent.succeeded] at member

/-- A run that went through keeps the root a directory; by induction on its history. -/
theorem RunHistory.rooted (keeps : setup.KeepsRoot root top)
    (sound : ∀ step ∈ steps, ∀ path ∈ step.targets, path.fault? = none)
    (spelled : ∀ step ∈ steps, ∀ path ∈ step.targets, path.IsSpelled)
    {history : List (Step × List RunEvent)} {outcome : Except RunFault RunReport}
    (run : RunHistory setup options steps before history outcome after)
    (rooted : before.Rooted root top) {report : RunReport} (passed : outcome = .ok report)
    : after.Rooted root top := by
  induction run generalizing report with
  | finished scene => exact rooted
  | halted failed => cases passed
  | @continued step rest before events status middle history outcome after first later ih =>
      rw [List.forall_mem_cons] at sound spelled
      have next := first.rooted keeps sound.1 spelled.1 rooted
      cases outcome with
      | error fault => cases passed
      | ok rest => exact ih sound.2 spelled.2 next rfl

/-- The root is a directory wherever a run arrives, in a dry run because the tree does not change. -/
theorem Pipeline.ArrivesAt.rooted {pipeline : Pipeline} {start : Scene σ}
    (arrives : pipeline.ArrivesAt setup start step scene) (keeps : setup.KeepsRoot root top)
    (sound : ∀ path ∈ pipeline.targets, path.fault? = none)
    (spelled : ∀ path ∈ pipeline.targets, path.IsSpelled) (rooted : start.Rooted root top)
    : scene.Rooted root top := by
  obtain ⟨earlier, later, report, split, ran⟩ := arrives
  have among (other : Step) (member : other ∈ earlier)
      : ∀ path ∈ other.targets, path ∈ pipeline.targets :=
    pipeline.within_targets other (split ▸ List.mem_append_left _ member)
  cases dry : start.workspace.dryRun with
  | true =>
      obtain ⟨outcome, names, overlay, ran'⟩ := runSteps_dry setup
        (Dictionary.layer pipeline.options setup.options) earlier dry
      cases ran.symm.trans ran'
      refine ⟨rooted.at_, rooted.ground, fun wet => ?_⟩
      cases dry.symm.trans wet
  | false =>
      obtain ⟨history, outcome, after, ran', run, -⟩ := runSteps_history setup
        (Dictionary.layer pipeline.options setup.options) earlier dry
      cases ran.symm.trans ran'
      exact run.rooted keeps (fun other member path target => sound path (among other member path target))
        (fun other member path target => spelled path (among other member path target)) rooted rfl

-----------------------------------------------------------------------------------------
-- Whole runs
-----------------------------------------------------------------------------------------

/-- Nothing escapes the root. A path is accepted exactly if it is not empty, does not start at the top
and does not lead up; whatever step of a pipeline without flaws a run arrives at, dry or not, the step
is confined to the root; and templates are read below the directory that they come from.
-/
theorem Pipeline.run_confined {pipeline : Pipeline} {start : Scene σ} {dry : Bool}
    (sound : pipeline.flaws = []) (spelled : ∀ path ∈ pipeline.targets, path.IsSpelled)
    (fresh : start.workspace = ⟨root, dry, []⟩) (ground : start.files.Grounded root top)
    (keeps : setup.KeepsRoot root top)
    : (∀ text, (Path.ofString text).fault? = none
        ↔ text ≠ "" ∧ text.toList.head? ≠ some '/' ∧ "..".toList ∉ text.toList.splitOn '/')
      ∧ (∀ step scene, pipeline.ArrivesAt setup start step scene →
          step.Confined setup (Dictionary.layer pipeline.options setup.options) root top scene)
      ∧ ∀ directory name files, TemplateSource.Confined directory name files := by
  refine ⟨fault?_ofString_eq_none_iff, fun step scene arrives => ?_, TemplateSource.confined⟩
  have rooted : start.Rooted root top :=
    ⟨by rw [fresh], ground, fun _ => by rw [fresh]⟩
  have faultless := fault?_of_flaws sound
  have among : ∀ path ∈ step.targets, path ∈ pipeline.targets := by
    obtain ⟨earlier, later, report, split, -⟩ := arrives
    exact pipeline.within_targets step (by simp [split])
  exact step.confined (arrives.rooted keeps faultless spelled rooted)
    (fun path member => faultless path (among path member))
    fun path member => spelled path (among path member)

theorem Collaborators.failing_keepsRoot (line : String)
    : RunSetup.KeepsRoot { collaborators := .failing line } root top := by
  refine ⟨fun other surroundings ground => ?_, fun message surroundings ground => ?_⟩
  · refine (Notes.command_keepsBelow (fun other script found => ?_) root other surroundings).grounded
      ground
    simp only [Dictionary.get?] at found
    split at found <;> cases found
    exact ⟨rfl, rfl, rfl⟩
  · change ((Notes.checkpoint [] message).run.run surroundings).2.files.Grounded root top
    rwa [Notes.checkpoint_files]

/-- The second step of a pipeline is confined where its run arrives at it, in what was an empty
directory.
-/
theorem Pipeline.run_confined_noting
    : ∃ step scene,
        noting.ArrivesAt { collaborators := .failing "false" } (.blank "notes") step scene
        ∧ step.name = "check"
        ∧ step.Confined { collaborators := .failing "false" } [] ⟨"", [""]⟩ [] scene := by
  have arrives : ∃ step scene, step.name = "check" ∧
      noting.ArrivesAt { collaborators := .failing "false" } (.blank "notes") step scene :=
    ⟨_, _, rfl, noting.steps.take 1, [], [⟨"write", .applied [⟨"notes.txt", []⟩] 0⟩], rfl,
      Prod.ext rfl rfl⟩
  have fresh : (Scene.blank "notes").workspace = ⟨⟨"", [""]⟩, false, []⟩ := rfl
  obtain ⟨step, scene, named, arrives⟩ := arrives
  exact ⟨step, scene, arrives, named,
    (run_confined (by decide) noting_spelled fresh grounded_empty
      (Collaborators.failing_keepsRoot "false")).2.1 step scene arrives⟩

end Groundwork
