import Groundwork.Proofs.Run.Undoing
import Groundwork.Proofs.Workspace.Locality

/-!
The courses that a step can take if its commands and its checkpoint change nothing below the root.
What a step attempts, up to its commit, depends on nothing but the tree there; it can be attempted
again after it was taken back.
-/

namespace Groundwork

open Files Path Workspace

variable {σ : Type} {base : Location} {root : Path} {top : Location} {targets : List Path}
  {setup : RunSetup σ} {options : Options} {step : Step} {before one two after : Scene σ}

-----------------------------------------------------------------------------------------
-- Steps in parts
-----------------------------------------------------------------------------------------

/-- Why a step is passed over, if it is. -/
def Step.skip? (step : Step) (options : Options) (state : RunState) : Option SkipReason :=
  if state.isCompleted step.name then some .completed
  else if !step.guard.all (·.allows options) then some .guard
  else none

/-- What a step does up to its commit, with the stage and what was written. -/
def Step.attempt (step : Step) (setup : RunSetup σ) (options : Options)
    : RunAction σ (Stage × Written) := do
  let stage ← step.stageMutations setup.collaborators options
  let written ← step.commit stage
  return (stage, written)

/-- Whether the run state is written to its file, if there is one for it. -/
def RunSetup.Saves (setup : RunSetup σ) (state : RunState) (files after : Files) : Prop :=
  match setup.statePath with
  | none => after = files
  | some path => (state.write path).run.run files = (.ok (), after)

/-- The step that a fault comes from could not go on after its checkpoint. -/
def RunFault.IsRefusal : RunFault → Prop
  | .checkpointFailed .. => True
  | _ => False

/-- A command did not succeed. -/
def RunFault.IsCommand : RunFault → Prop
  | .commandFailed .. => True
  | _ => False

/-- Collaborators that change nothing below the root, and a file of the run state that leaves the
names of temporary files alone.
-/
structure RunSetup.Quiet (setup : RunSetup σ) (base : Location) (root : Path) (top : Location)
    (targets : List Path)
    : Prop where
  commands : ∀ line, (setup.collaborators.command root line).KeepsBelow root top
  checkpoints : ∀ message, (setup.collaborators.checkpoint message).KeepsBelow root top
  statePath : ∀ path, setup.statePath = some path → ∀ files : Files, files.base = base →
    ∀ target ∈ targets, target.names ≠ [] →
      ¬ RunState.Touches files path (beside (top ++ target.names))

theorem RunSetup.Quiet.leavesTargets (quiet : setup.Quiet base root top targets)
    (paths : TargetPaths top targets)
    : setup.LeavesTargets base root top targets :=
  ⟨quiet.commands,
    fun message _ settled => settled.sameBelow paths (quiet.checkpoints message _),
    quiet.statePath⟩

/-- What becomes of a step whose commands and checkpoint change nothing below the root. -/
inductive StepCourse (setup : RunSetup σ) (options : Options) (root : Path) (top : Location)
    (step : Step) (before : Scene σ)
    : Except RunFault StepStatus → Scene σ → Prop
  | skipped {reason} (skips : step.skip? options before.state = some reason)
    : StepCourse setup options root top step before (.ok (.skipped reason)) before
  /-- The step could not be worked out or committed. -/
  | failed {fault after} (due : step.skip? options before.state = none)
    (attempted : (step.attempt setup options).run.run before = (.error fault, after))
    (state : after.state = before.state)
    : StepCourse setup options root top step before (.error fault) after
  /-- A command did not succeed and the step was taken back. -/
  | halted {stage written committed line surroundings fault after}
    (due : step.skip? options before.state = none)
    (attempted : (step.attempt setup options).run.run before = (.ok (stage, written), committed))
    (fails : step.commandFault? line ((setup.collaborators.command root line).run.run surroundings).1
      = some fault)
    (state : after.state = before.state)
    (residue : Residue before.files after.files top stage.changed)
    : StepCourse setup options root top step before (.error fault) after
  | applied {stage written committed tree after} (due : step.skip? options before.state = none)
    (attempted : (step.attempt setup options).run.run before = (.ok (stage, written), committed))
    (state : after.state
      = { before.state with completed := before.state.completed ++ [step.name] })
    (same : SameBelow root top committed.files tree)
    (saves : setup.Saves after.state tree after.files)
    : StepCourse setup options root top step before
        (.ok (.applied stage.changedPaths step.commands.length)) after

/-- A step is passed over or applied, by what there is to say against it. -/
theorem Step.run_eq_skip? (step : Step) (setup : RunSetup σ) (options : Options) (scene : Scene σ)
    : (step.run setup options).run.run scene
      = match step.skip? options scene.state with
        | some reason => (.ok (.skipped reason), scene)
        | none => (step.applyStep setup options).run.run scene := by
  rw [Step.run_eq, skip?]
  split
  · rfl
  · split <;> rfl

theorem Step.skip?_none (due : step.name ∉ before.state.completed)
    (on : step.guard.all (·.allows options) = true)
    : step.skip? options before.state = none := by
  simp [skip?, RunState.isCompleted, due, on]

theorem Step.isCommand_of_commandFault? {line : String} {answer : Except Failure CommandExit}
    {fault : RunFault} (fails : step.commandFault? line answer = some fault)
    : fault.IsCommand := by
  unfold commandFault? at fails
  split at fails
  · split at fails <;> cases fails
    trivial
  · cases fails
    trivial

/-- A step is attempted by staging it and committing its stage. -/
theorem Step.run_attempt {stage : Stage} {outcome : Except Failure Written} {files : Files}
    (staged : (step.stageMutations setup.collaborators options).run.run before = (.ok stage, one))
    (commits : (one.workspace.commit stage).run.run one.files
      = (outcome.map (one.workspace, ·), files))
    : (step.attempt setup options).run.run before
      = ((outcome.mapError (.io step.name)).map (stage, ·), one.withFiles files) := by
  simp only [attempt, run_bind, staged, step.run_commit commits]
  cases outcome <;> rfl

/-- A step that was worked out and committed was attempted. -/
theorem Step.attempt_of_events {stage : Stage} {outcome : Except Failure Written}
    (events : Unfolds setup options step before [.staged (.ok stage), .committed stage outcome] after)
    : (step.attempt setup options).run.run before
      = ((outcome.mapError (.io step.name)).map (stage, ·), after) := by
  cases events with
  | cons staged rest =>
      cases rest with
      | cons committed none =>
          cases none
          obtain ⟨ran, -⟩ := staged
          obtain ⟨files, commits, rfl⟩ := committed
          exact Step.run_attempt ran commits

/-- What becomes of a step is one of the courses, unless its checkpoint fails; by cases on the order
of its events.
-/
theorem StepHistory.course (paths : TargetPaths top targets)
    (within : ∀ path ∈ step.targets, path ∈ targets) (quiet : setup.Quiet base root top targets)
    (settled : Settled base root top targets before.files)
    (plain : before.workspace = ⟨root, false, []⟩) {events : List RunEvent}
    {outcome : Except RunFault StepStatus}
    (history : StepHistory setup options step before events outcome after)
    (accepted : ∀ fault, outcome = .error fault → ¬ fault.IsRefusal)
    : StepCourse setup options root top step before outcome after := by
  have kept := history.keeps.2
  cases history with
  | completed done => exact .skipped (by simp [Step.skip?, RunState.isCompleted, done])
  | guarded due off => exact .skipped (by simp [Step.skip?, RunState.isCompleted, due, off])
  | handled due on effects order =>
      have due := Step.skip?_none due on
      cases order with
      | unstaged fault =>
          cases effects with
          | cons staged none =>
              cases none
              obtain ⟨ran, -⟩ := staged
              exact .failed due (by simp only [Step.attempt, run_bind, ran])
                (by simpa [List.filterMap_cons, RunEvent.recorded?] using kept)
      | uncommitted stage failure =>
          exact .failed due (Step.attempt_of_events effects)
            (by simpa [List.filterMap_cons, RunEvent.recorded?] using kept)
      | stopped stage written exits line answer fault commands fails =>
          obtain ⟨-, residue, -⟩ := effects.undone paths within quiet.commands settled plain
          rw [writtenEvents, List.append_assoc] at effects
          obtain ⟨moved, commits, effects⟩ := effects.split
          obtain ⟨ranned, commands, effects⟩ := effects.split
          have rooted : ranned.workspace.root = root := by
            rw [commands.keeps.1, commits.keeps.1, plain]
          cases effects with
          | cons ran _ =>
              obtain ⟨surroundings, ran, -⟩ := ran
              rw [rooted] at ran
              have answered : ((setup.collaborators.command root line).run.run
                  ranned.surroundings).1 = answer := by rw [ran]
              refine .halted due (Step.attempt_of_events commits) (answered ▸ fails) ?_ residue
              rw [kept]
              simp [writtenEvents, RunEvent.recorded?, List.filterMap_cons]
      | refused stage written exits failure => exact absurd trivial (accepted _ rfl)
      | unsaved stage written exits path failure => exact absurd trivial (accepted _ rfl)
      | applied stage written exits commands =>
          have recorded : after.state
              = { before.state with completed := before.state.completed ++ [step.name] } := by
            rw [kept]
            cases setup.statePath <;> simp [writtenEvents, RunEvent.recorded?, List.filterMap_cons]
          rw [List.append_assoc, writtenEvents, List.append_assoc] at effects
          obtain ⟨moved, commits, effects⟩ := effects.split
          obtain ⟨ranned, commands, effects⟩ := effects.split
          have plain' : moved.workspace = ⟨root, false, []⟩ := commits.keeps.1.trans plain
          have same := commands.commands quiet.commands (by rw [plain'])
          cases effects with
          | cons checkpointed rest =>
              obtain ⟨surroundings, asked, rfl⟩ := checkpointed
              have taken := quiet.checkpoints step.name ranned.surroundings
              rw [asked] at taken
              refine .applied due (Step.attempt_of_events commits) recorded (same.trans taken) ?_
              cases rest with
              | cons record rest =>
                  obtain ⟨-, rfl⟩ := record
                  unfold RunSetup.Saves
                  cases path : setup.statePath with
                  | none =>
                      rw [path] at rest
                      cases rest
                      rfl
                  | some path' =>
                      rw [path] at rest
                      cases rest with
                      | cons saved none =>
                          cases none
                          obtain ⟨files, wrote, rfl⟩ := saved
                          exact wrote

-----------------------------------------------------------------------------------------
-- Runs in parts
-----------------------------------------------------------------------------------------

/-- The fault that something ended with, if it failed. -/
def faultOf? {α : Type} : Except RunFault α → Option RunFault
  | .ok _ => none
  | .error fault => some fault

@[simp]
theorem faultOf?_map {α β : Type} (change : α → β) (outcome : Except RunFault α)
    : faultOf? (outcome.map change) = faultOf? outcome := by
  cases outcome <;> rfl

theorem eq_of_faultOf? {α : Type} {outcome : Except RunFault α} {fault : RunFault}
    (failed : faultOf? outcome = some fault)
    : outcome = .error fault := by
  cases outcome <;> cases failed
  rfl

theorem of_faultOf?_none {α : Type} {outcome : Except RunFault α} (passed : faultOf? outcome = none)
    (P : RunFault → Prop)
    : ∀ fault, outcome = .error fault → P fault := by
  rintro fault rfl
  cases passed

theorem Pipeline.runSteps_cons (setup : RunSetup σ) (options : Options) (step : Step)
    (rest : List Step) (scene : Scene σ)
    : (runSteps setup options (step :: rest)).run.run scene
      = match (step.run setup options).run.run scene with
        | (.error fault, after) => (.error fault, after)
        | (.ok status, middle) =>
            (((runSteps setup options rest).run.run middle).1.map (⟨step.name, status⟩ :: ·),
              ((runSteps setup options rest).run.run middle).2) := by
  rw [runSteps, run_bind]
  rcases (step.run setup options).run.run scene with ⟨fault | status, middle⟩
  · rfl
  · simp only [run_bind]
    rcases (runSteps setup options rest).run.run middle with ⟨fault | report, after⟩ <;> rfl

/-- How a run goes on after its first step: the others are run if that one came to its end. -/
inductive Pipeline.GoesOn (setup : RunSetup σ) (options : Options) (step : Step) (rest : List Step)
    (middle : Scene σ)
    : Except RunFault StepStatus → Except RunFault RunReport → Scene σ → Prop
  | halts (fault : RunFault)
    : GoesOn setup options step rest middle (.error fault) (.error fault) middle
  | passes {status outcome after}
    (later : (runSteps setup options rest).run.run middle = (outcome, after))
    : GoesOn setup options step rest middle (.ok status) (outcome.map (⟨step.name, status⟩ :: ·)) after

/-- The run of a step and others is a run of the step that goes on. -/
theorem Pipeline.runSteps_goesOn {rest : List Step} {outcome : Except RunFault RunReport}
    (wet : before.workspace.dryRun = false)
    (ran : (runSteps setup options (step :: rest)).run.run before = (outcome, after))
    : ∃ events status middle,
        StepHistory setup options step before events status middle
        ∧ GoesOn setup options step rest middle status outcome after := by
  obtain ⟨events, status, middle, stepRan, history⟩ := step.run_stepHistory setup options wet
  rw [runSteps_cons, stepRan] at ran
  refine ⟨events, status, middle, history, ?_⟩
  cases status with
  | error fault =>
      cases ran
      exact .halts fault
  | ok status =>
      cases ran
      exact .passes rfl

/-- A run that goes on after a step has the fault of the step, if that failed. -/
theorem Pipeline.GoesOn.fault {rest : List Step} {status : Except RunFault StepStatus}
    {outcome : Except RunFault RunReport}
    (goes : GoesOn setup options step rest before status outcome after)
    : ∀ fault, status = .error fault → faultOf? outcome = some fault := by
  rintro fault rfl
  cases goes
  rfl

-----------------------------------------------------------------------------------------
-- Attempts that come out alike
-----------------------------------------------------------------------------------------

/-- Templates that depend on nothing but their names. -/
def Collaborators.TemplatesFixed (collaborators : Collaborators σ) : Prop :=
  ∀ name files tree first second,
    (collaborators.template name files first).1 = (collaborators.template name tree second).1

theorem Collaborators.TemplatesFixed.show_ {collaborators : Collaborators σ}
    (fixed : collaborators.TemplatesFixed)
    : collaborators.TemplatesShow fun _ => () :=
  fun name files tree first second _ => ⟨fixed name files tree first second, rfl⟩

/-- A step is attempted with the same result from two scenes, and leaves trees that are grounded and
the same below the root.
-/
def Step.AttemptedAlike (step : Step) (setup : RunSetup σ) (options : Options) (root : Path)
    (top : Location) (one two : Scene σ)
    : Prop :=
  ∃ outcome first second,
    (step.attempt setup options).run.run one = (outcome, first)
    ∧ (step.attempt setup options).run.run two = (outcome, second)
    ∧ first.files.Grounded root top
    ∧ SameBelow root top first.files second.files

/-- Scenes from which targets are read with the same result, whatever was asked of the collaborators.
-/
theorem Scene.StagesAlike.of_read (plain : one.workspace = ⟨root, false, []⟩)
    (plain' : two.workspace = ⟨root, false, []⟩) {own : List Path}
    (read : ∀ path ∈ own, two.files.read (root.join path) = one.files.read (root.join path))
    : Scene.StagesAlike (fun _ => ()) own one two := by
  refine ⟨rfl, fun path member => ?_⟩
  simp only [plain, plain', Workspace.read, Dictionary.get?, read path member]

/-- A step is attempted alike on trees that are the same below the root; it reads and writes nothing
else.
-/
theorem Step.attempt_congr (paths : TargetPaths top targets)
    (within : ∀ path ∈ step.targets, path ∈ targets)
    (fixed : setup.collaborators.TemplatesFixed)
    (settled : Settled base root top targets one.files)
    (plain : one.workspace = ⟨root, false, []⟩) (plain' : two.workspace = ⟨root, false, []⟩)
    (same : SameBelow root top one.files two.files)
    : step.AttemptedAlike setup options root top one two := by
  have read : ∀ path ∈ step.targets,
      two.files.read (root.join path) = one.files.read (root.join path) := by
    intro path member
    have inside := inside_of_sound (paths.sound path (within path member)) root
    rw [read_eq, read_eq, inside.place settled.ground same]
  obtain ⟨outcome, names, staged, staged'⟩ :=
    step.stageMutations_congr (.of_read plain plain' read) fixed.show_ options fun _ => id
  cases outcome with
  | error fault =>
      refine ⟨.error fault, one.consulting setup.collaborators names,
        two.consulting setup.collaborators names, ?_, ?_, settled.ground, same⟩
      · simp only [attempt, run_bind, staged]
      · simp only [attempt, run_bind, staged']
  | ok stage =>
      have holds := step.stageMutations_holds staged
      rw [plain] at holds
      obtain ⟨whole, -⟩ := settled.changed paths within holds
      let asked := one.consulting setup.collaborators names
      let again := two.consulting setup.collaborators names
      have wet : asked.workspace.dryRun = false := show one.workspace.dryRun = false by rw [plain]
      have rooted : asked.workspace.root = root := show one.workspace.root = root by rw [plain]
      have workspace : again.workspace = asked.workspace :=
        show two.workspace = one.workspace by rw [plain, plain']
      obtain ⟨result, after, other, ran, ran', ground, same'⟩ :=
        commit_isLocal whole.target asked.files again.files
          (rooted.symm ▸ settled.ground) (rooted.symm ▸ same)
      obtain ⟨outcome, files, commits⟩ := commit_outcome wet stage asked.files
      obtain ⟨rfl, rfl⟩ := Prod.mk.inj (ran.symm.trans commits)
      refine ⟨_, _, _, Step.run_attempt staged ran, Step.run_attempt staged' ?_, rooted ▸ ground,
        rooted ▸ same'⟩
      change (again.workspace.commit stage).run.run again.files = _
      rw [workspace]
      exact ran'

/-- A step that was attempted with success was staged and committed. -/
theorem Step.parts_of_attempt {stage : Stage} {written : Written} {committed : Scene σ}
    (plain : one.workspace = ⟨root, false, []⟩)
    (attempted : (step.attempt setup options).run.run one = (.ok (stage, written), committed))
    : ∃ names,
        (step.stageMutations setup.collaborators options).run.run one
          = (.ok stage, one.consulting setup.collaborators names)
        ∧ ((Workspace.mk root false []).commit stage).run.run one.files
          = (.ok (⟨root, false, []⟩, written), committed.files) := by
  obtain ⟨outcome, names, staged, -⟩ :=
    step.stageMutations_consulting setup.collaborators options one
  cases outcome with
  | error fault =>
      simp only [attempt, run_bind, staged] at attempted
      cases attempted
  | ok found =>
      let asked := one.consulting setup.collaborators names
      have wet : asked.workspace.dryRun = false := show one.workspace.dryRun = false by rw [plain]
      obtain ⟨outcome, files, commits⟩ := commit_outcome wet found asked.files
      rw [Step.run_attempt staged commits] at attempted
      cases outcome with
      | error failure => cases attempted
      | ok _ =>
          cases attempted
          refine ⟨names, staged, ?_⟩
          rw [← plain]
          exact commits

/-- What is read of a target of a step that was worked out is read again where a residue of the step
was left.
-/
theorem Settled.read_again (paths : TargetPaths top targets)
    {own : List Path} (within : ∀ path ∈ own, path ∈ targets)
    (settled : Settled base root top targets one.files) (ground : two.files.Grounded root top)
    {stage : Stage} (holds : stage.Holds ⟨root, false, []⟩ one.files own)
    (ready : Ready one.files root top stage.changed)
    (residue : Residue one.files two.files top stage.changed)
    {path : Path} (member : path ∈ own)
    : two.files.read (root.join path) = one.files.read (root.join path) := by
  obtain ⟨whole, -⟩ := settled.changed paths within holds
  refine residue.read_congr settled.ground ground whole ready (paths.sound _ (within _ member))
    fun missing => ?_
  obtain ⟨file, known⟩ := Option.isSome_iff_exists.mp (holds.covers path member)
  have entry := Dictionary.mem_of_get? known
  have names : file.path.names = path.names := names_congr (holds.key _ entry).symm
  have read := content?_of_read settled.ground rfl rfl
    (paths.sound _ (within _ (holds.target _ entry))) (holds.loaded _ entry)
  have loaded : file.loaded = none := by
    rw [← read.2, names]
    simp [content?, missing]
  have changed : file.isChanged = true := by
    obtain ⟨content, current⟩ := Option.isSome_iff_exists.mp (holds.current _ entry)
    have current : file.current = some content := current
    simp only [StagedFile.isChanged, loaded, current]
    rfl
  exact ⟨file, List.mem_filter.mpr ⟨List.mem_map.mpr ⟨_, entry, rfl⟩, changed⟩, names⟩

/-- A step that was attempted with success is attempted alike where only a residue of it was left:
what it read is there, and what it wrote can be written again.
-/
theorem Step.attempt_again (paths : TargetPaths top targets)
    (within : ∀ path ∈ step.targets, path ∈ targets)
    (fixed : setup.collaborators.TemplatesFixed)
    (settled : Settled base root top targets one.files)
    (settled' : Settled base root top targets two.files)
    (plain : one.workspace = ⟨root, false, []⟩) (plain' : two.workspace = ⟨root, false, []⟩)
    {stage : Stage} {written : Written} {committed : Scene σ}
    (attempted : (step.attempt setup options).run.run one = (.ok (stage, written), committed))
    (residue : Residue one.files two.files top stage.changed)
    : step.AttemptedAlike setup options root top one two := by
  obtain ⟨names, staged, commits⟩ := Step.parts_of_attempt plain attempted
  have holds := step.stageMutations_holds staged
  rw [plain] at holds
  obtain ⟨whole, -⟩ := settled.changed paths within holds
  have ready := ready_of_commit rfl settled.ground whole commits
  have read : ∀ path ∈ step.targets,
      two.files.read (root.join path) = one.files.read (root.join path) :=
    fun path member => settled.read_again paths within settled'.ground holds ready residue member
  obtain ⟨outcome, names', staged₁, staged₂⟩ :=
    step.stageMutations_congr (.of_read plain plain' read) fixed.show_ options fun _ => id
  obtain ⟨rfl, -⟩ := Prod.mk.inj (staged.symm.trans staged₁)
  have holds' := step.stageMutations_holds staged₂
  rw [plain'] at holds'
  obtain ⟨whole', -⟩ := settled'.changed paths within holds'
  obtain ⟨after, commits'⟩ := commit_of_ready rfl settled'.ground whole' (ready.residue residue)
  obtain ⟨result, -⟩ := (commit_result rfl settled.ground whole commits).2 _ rfl
  cases result
  obtain ⟨first, -⟩ := committed_of_commit rfl settled.ground whole commits
  obtain ⟨second, -⟩ := committed_of_commit rfl settled'.ground whole' commits'
  have commits'' : (two.workspace.commit stage).run.run two.files
      = ((Except.ok (writtenOf stage.changed)).map (two.workspace, ·), after) := by
    rw [plain']
    exact commits'
  refine ⟨_, committed, (two.consulting setup.collaborators names').withFiles after, attempted,
    Step.run_attempt staged₂ commits'', first.ground,
    first.sameBelow second residue.base fun place below elsewhere => ?_⟩
  · rcases residue.node place below with same | ⟨-, -, file, member, lies⟩ | ⟨file, member, here, -⟩
    · exact same
    · exact absurd lies (elsewhere file member).2
    · exact absurd here (elsewhere file member).1

end Groundwork
