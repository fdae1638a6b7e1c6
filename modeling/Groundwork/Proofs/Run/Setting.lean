import Groundwork.Proofs.Pipeline.Flaw
import Groundwork.Proofs.Run.Staging
import Groundwork.Proofs.RunState.Store
import Groundwork.Proofs.Workspace.Reading

/-!
The setting of runs below a root: the targets of the steps, the names that their temporary files
have, and collaborators that change nothing below the root.
-/

namespace Groundwork

open Files Path Workspace

variable {σ α : Type}

-----------------------------------------------------------------------------------------
-- Targets
-----------------------------------------------------------------------------------------

/-- The targets of the mutations of a step. -/
def Step.targets (step : Step) : List Path := step.mutations.map Mutation.target

/-- The targets of the mutations of all steps. -/
def Pipeline.targets (pipeline : Pipeline) : List Path := pipeline.steps.flatMap Step.targets

theorem Pipeline.within_targets (pipeline : Pipeline) (step : Step) (member : step ∈ pipeline.steps)
    : ∀ path ∈ step.targets, path ∈ pipeline.targets :=
  fun _ target => List.mem_flatMap.mpr ⟨step, member, target⟩

/-- Paths that mutations may have together: texts spell them, and no file, directory or target has
the name of a temporary file.
-/
structure TargetPaths (top : Location) (targets : List Path) : Prop where
  sound : ∀ path ∈ targets, path.fault? = none
  spelled : ∀ path ∈ targets, path.IsSpelled
  apart : ∀ path ∈ targets, ∀ other ∈ targets, path.names ≠ [] →
    ¬ beside (top ++ path.names) <+: top ++ other.names

/-- A pipeline without flaws has targets without faults, which are found among those of its steps. -/
theorem Pipeline.fault?_of_flaws {pipeline : Pipeline} (sound : pipeline.flaws = [])
    : ∀ path ∈ pipeline.targets, path.fault? = none := by
  intro path member
  obtain ⟨step, among, target⟩ := List.mem_flatMap.mp member
  obtain ⟨mutation, inside, rfl⟩ := List.mem_map.mp target
  have formed := (flaws_eq_nil_iff.mp sound).steps step among
  exact Path.fault?_eq_none_iff_inner.mpr (formed.mutations mutation inside).target

-----------------------------------------------------------------------------------------
-- Trees that runs act on
-----------------------------------------------------------------------------------------

/-- A tree in which the root is a directory and no temporary file has been left. -/
structure Settled (base : Location) (root : Path) (top : Location) (targets : List Path)
    (files : Files)
    : Prop where
  base : files.base = base
  ground : files.Grounded root top
  unused : ∀ path ∈ targets, path.names ≠ [] → files.node? (beside (top ++ path.names)) = none

/-- A request that changes nothing at the root and below it. -/
def Request.KeepsBelow (root : Path) (top : Location) (request : Request σ α) : Prop :=
  ∀ surroundings,
    SameBelow root top surroundings.files (request.run.run surroundings).2.files

variable {base : Location} {root : Path} {top : Location} {targets : List Path}
  {files after : Files}

theorem TargetPaths.isTarget (paths : TargetPaths top targets) {path : Path}
    (member : path ∈ targets) (named : path.names ≠ [])
    : IsTarget path :=
  ⟨paths.sound path member, paths.spelled path member, named⟩

/-- A file to be written names something below the root: the root itself is a directory, of which nothing
can be read.
-/
theorem Stage.Holds.isTarget {workspace : Workspace} {stage : Stage} {own : List Path}
    (holds : stage.Holds workspace files own) (ground : files.Grounded workspace.root top)
    (plain : workspace.overlay = []) (sound : ∀ path ∈ own, path.fault? = none)
    (spelled : ∀ path ∈ own, path.IsSpelled)
    : ∀ file ∈ stage.changed, IsTarget file.path := by
  intro file member
  obtain ⟨among, read⟩ := holds.of_changed member
  refine ⟨sound _ among, spelled _ among, fun none => ?_⟩
  have free := (content?_of_read ground rfl plain (sound _ among) read).1
  rw [none, List.append_nil] at free
  exact free ground.open_

namespace Settled

variable {batch : List StagedFile}

/-- Changes at the files of a batch, and new directories above them, leave no temporary file. -/
theorem change (settled : Settled base root top targets files) (paths : TargetPaths top targets)
    (among : ∀ file ∈ batch, file.path ∈ targets) (same : after.base = files.base)
    (ground : after.Grounded root top)
    (node : ∀ place, top <+: place → (∀ file ∈ batch, place ≠ file.location top) →
      after.node? place = files.node? place ∨ ∃ file ∈ batch, IsAbove top place (file.location top))
    : Settled base root top targets after := by
  refine ⟨same.trans settled.base, ground, fun path member named => ?_⟩
  have below := (paths.isTarget member named).below_beside top
  have elsewhere (file : StagedFile) (inside : file ∈ batch)
      : beside (top ++ path.names) ≠ file.location top := fun here =>
    paths.apart path member file.path (among file inside) named (here ▸ List.prefix_rfl)
  rcases node _ below elsewhere with same | ⟨file, inside, lies⟩
  · rw [same, settled.unused path member named]
  · exact absurd lies.within (paths.apart path member file.path (among file inside) named)

theorem residue (settled : Settled base root top targets files) (paths : TargetPaths top targets)
    (among : ∀ file ∈ batch, file.path ∈ targets) (ground : after.Grounded root top)
    (residue : Residue files after top batch)
    : Settled base root top targets after := by
  refine settled.change paths among residue.base ground fun place below elsewhere => ?_
  rcases residue.node place below with same | ⟨-, -, above⟩ | ⟨file, inside, here, -⟩
  · exact .inl same
  · exact .inr above
  · exact absurd here (elsewhere file inside)

theorem allMoved (settled : Settled base root top targets files) (paths : TargetPaths top targets)
    (among : ∀ file ∈ batch, file.path ∈ targets) (all : AllMoved files after root top batch)
    : Settled base root top targets after := by
  refine settled.change paths among all.drafted.base all.ground fun place below elsewhere => ?_
  have settled : place ∉ Prepared.locations top [] ++ batch.map (·.location top) := by
    intro found
    obtain ⟨file, inside, here⟩ := List.mem_map.mp found
    exact elsewhere file inside here.symm
  exact (all.drafted.node place below settled).imp_right fun made => made.2.2

theorem sameBelow (settled : Settled base root top targets files) (paths : TargetPaths top targets)
    (same : SameBelow root top files after)
    : Settled base root top targets after := by
  have node : ∀ place, top <+: place → (∀ file ∈ ([] : List StagedFile), place ≠ file.location top) →
      after.node? place = files.node? place
        ∨ ∃ file ∈ ([] : List StagedFile), IsAbove top place (file.location top) :=
    fun place below _ => .inl (same.node place below)
  exact settled.change paths (by simp) same.base (same.grounded settled.ground) node

/-- Writing a run state apart from the temporary files leaves none of them. -/
theorem write (settled : Settled base root top targets files) {state : RunState} {path : Path}
    {result : Except Failure Unit} (ran : (state.write path).run.run files = (result, after))
    (apart : ∀ target ∈ targets, target.names ≠ [] →
      ¬ RunState.Touches files path (beside (top ++ target.names)))
    : Settled base root top targets after := by
  obtain ⟨ground, kept, same⟩ := RunState.write_frame settled.ground ran
  refine ⟨kept.base.trans settled.base, ground, fun target member named => ?_⟩
  rw [same _ (apart target member named), settled.unused target member named]

/-- The changed files of a step that could be worked out form a batch of its targets; what was read
of them tells what is at their locations.
-/
theorem changed (settled : Settled base root top targets files) (paths : TargetPaths top targets)
    {stage : Stage} {own : List Path} (within : ∀ path ∈ own, path ∈ targets)
    (holds : stage.Holds ⟨root, false, []⟩ files own)
    : Batch files top stage.changed ∧ ∀ file ∈ stage.changed, file.path ∈ own := by
  have sound (path : Path) (member : path ∈ own) : path.fault? = none :=
    paths.sound path (within path member)
  have target := holds.isTarget settled.ground rfl sound fun path member =>
    paths.spelled path (within path member)
  have among (file : StagedFile) (member : file ∈ stage.changed) : file.path ∈ own :=
    (holds.of_changed member).1
  refine ⟨⟨target, fun file member => ?_, fun file member => ?_, fun file member other member' => ?_⟩,
    among⟩
  · exact (content?_of_read settled.ground rfl rfl (target file member).sound
      (holds.of_changed member).2).2
  · exact settled.unused _ (within _ (among file member)) (target file member).named
  · exact paths.apart _ (within _ (among file member)) _ (within _ (among other member'))
      (target file member).named

end Settled

-----------------------------------------------------------------------------------------
-- Rehearsals that change no files
-----------------------------------------------------------------------------------------

/-- A script that writes, removes and makes nothing. -/
def CommandScript.IsQuiet (script : CommandScript) : Prop :=
  script.write = [] ∧ script.remove = [] ∧ script.make = []

theorem Notes.command_keepsBelow {scripts : Dictionary String CommandScript}
    (quiet : ∀ line script, scripts.get? line = some script → script.IsQuiet) (directory : Path)
    (line : String)
    : (Notes.command scripts directory line).KeepsBelow root top := by
  intro surroundings
  have still : (((scripts.get? line).getD {}).perform directory surroundings.files)
      = surroundings.files := by
    cases found : scripts.get? line with
    | none => rfl
    | some script =>
        obtain ⟨write, remove, make⟩ := quiet line script found
        simp [CommandScript.perform, write, remove, make]
  change SameBelow root top surroundings.files
    (((scripts.get? line).getD {}).perform directory surroundings.files)
  rw [still]
  exact .refl _

theorem Notes.checkpoint_files (refusals : Dictionary String Failure) (message : String)
    (surroundings : Surroundings Notes)
    : ((Notes.checkpoint refusals message).run.run surroundings).2.files = surroundings.files := by
  dsimp only [Notes.checkpoint, ExceptT.run_mk, StateT.run]
  split <;> rfl

/-- No temporary file is left in the empty tree. -/
theorem Settled.empty (targets : List Path) : Settled [] ⟨"", [""]⟩ [] targets .empty :=
  ⟨rfl, grounded_empty, fun path _ _ => by simp [node?, Files.empty, Dictionary.get?, beside]⟩

end Groundwork
