import Groundwork.Proofs.Run.Course

/-!
Runs that were halted by commands and are resumed: the last of them ends as a single run does that is
not halted. What a halted step leaves behind is no obstacle to attempting it again.
-/

namespace Groundwork

open Files Path Workspace

variable {σ : Type} {base : Location} {root : Path} {top : Location} {targets : List Path}
  {setup : RunSetup σ} {options : Options} {step : Step} {steps : List Step}
  {one two after last : Scene σ}

-----------------------------------------------------------------------------------------
-- Steps that are passed over
-----------------------------------------------------------------------------------------

/-- The report of a step that is passed over. -/
def Step.passedOver (step : Step) (state : RunState) : StepReport :=
  ⟨step.name, .skipped (if step.name ∈ state.completed then .completed else .guard)⟩

/-- A step is passed over because it is done already, or else because of its guard. -/
theorem Step.skip?_isSome_iff {state : RunState}
    : (step.skip? options state).isSome
      ↔ step.skip? options state
        = some (if step.name ∈ state.completed then .completed else .guard) := by
  simp only [skip?, RunState.isCompleted, List.contains_iff_mem]
  by_cases done : step.name ∈ state.completed
  · simp [done]
  · cases step.guard.all (·.allows options) <;> simp [done]

/-- Steps that are passed over make no difference to what comes after them; by induction on them. -/
theorem Pipeline.runSteps_skip (setup : RunSetup σ) {done : List Step} {scene : Scene σ}
    (skips : ∀ step ∈ done, (step.skip? options scene.state).isSome) (left : List Step)
    : (runSteps setup options (done ++ left)).run.run scene
      = (((runSteps setup options left).run.run scene).1.map
            (done.map (·.passedOver scene.state) ++ ·),
          ((runSteps setup options left).run.run scene).2) := by
  induction done with
  | nil =>
      rcases ran : (runSteps setup options left).run.run scene with ⟨fault | report, after⟩ <;>
        simp only [List.nil_append, List.map_nil, ran] <;> rfl
  | cons step rest ih =>
      rw [List.forall_mem_cons] at skips
      rw [List.cons_append, runSteps_cons, Step.run_eq_skip?, Step.skip?_isSome_iff.mp skips.1]
      simp only [ih skips.2]
      rcases (runSteps setup options left).run.run scene with ⟨fault | report, after⟩ <;> rfl

/-- A step that is passed over stays so as more steps are completed. -/
theorem Step.skip?_mono {state later : RunState}
    (grows : ∀ name ∈ state.completed, name ∈ later.completed)
    (skips : (step.skip? options state).isSome)
    : (step.skip? options later).isSome := by
  simp only [skip?, RunState.isCompleted, List.contains_iff_mem] at skips ⊢
  by_cases done : step.name ∈ later.completed
  · simp [done]
  · have due : step.name ∉ state.completed := fun found => done (grows _ found)
    simpa only [done, due, if_false] using skips

/-- A step that is passed over stays so when others are run. -/
theorem Step.skip?_runSteps {outcome : Except RunFault RunReport}
    (skips : (step.skip? options one.state).isSome) (wet : one.workspace.dryRun = false)
    (ran : (Pipeline.runSteps setup options steps).run.run one = (outcome, after))
    : (step.skip? options after.state).isSome := by
  obtain ⟨_, _, _, found, history, -⟩ := Pipeline.runSteps_history setup options steps wet
  cases found.symm.trans ran
  refine skip?_mono (fun name among => ?_) skips
  rw [history.completed.1]
  exact List.mem_append_left _ among

/-- A step that came to its end is passed over from then on. -/
theorem StepCourse.skips {status : StepStatus}
    (course : StepCourse setup options root top step one (.ok status) after)
    : (step.skip? options after.state).isSome := by
  cases course with
  | skipped skips => simp [skips]
  | applied due attempted state same saves =>
      simp [Step.skip?, state, RunState.isCompleted]

-----------------------------------------------------------------------------------------
-- A step from two scenes
-----------------------------------------------------------------------------------------

theorem Workspace.Residue.of_sameBelow {files tree other : Files} {batch : List StagedFile}
    (same : SameBelow root top files tree) (residue : Residue tree other top batch)
    : Residue files other top batch := by
  refine ⟨residue.base.trans same.base, fun place below => ?_⟩
  rw [← same.node place below]
  exact residue.node place below

theorem Workspace.Residue.sameBelow {files tree other : Files} {batch : List StagedFile}
    (residue : Residue files tree top batch) (same : SameBelow root top tree other)
    : Residue files other top batch := by
  refine ⟨same.base.trans residue.base, fun place below => ?_⟩
  rw [same.node place below]
  exact residue.node place below

/-- Run states that were saved on trees that are the same below the root leave them the same. -/
theorem RunSetup.Saves.sameBelow {state : RunState} {files tree left right : Files}
    (saves : setup.Saves state files left) (saves' : setup.Saves state tree right)
    (ground : files.Grounded root top) (same : SameBelow root top files tree)
    : SameBelow root top left right := by
  unfold RunSetup.Saves at saves saves'
  cases path : setup.statePath with
  | none =>
      simp only [path] at saves saves'
      subst saves saves'
      exact same
  | some path' =>
      simp only [path] at saves saves'
      exact RunState.write_sameBelow ground same saves saves'

/-- Something has come to the same end from two scenes: with the same outcome and state, and on trees
that are the same below the root.
-/
structure Scene.EndsAlike (root : Path) (top : Location) {α : Type} (outcome result : α)
    (after last : Scene σ)
    : Prop where
  outcome : result = outcome
  state : last.state = after.state
  same : SameBelow root top after.files last.files

/-- A step that is due in two scenes, and attempted alike from them, ends alike unless a command fails
in the second one; then it can be attempted again.
-/
theorem StepCourse.endsAlike {outcome result : Except RunFault StepStatus}
    (first : StepCourse setup options root top step one outcome after)
    (well : ∀ fault, outcome = .error fault → ¬ fault.IsCommand)
    (second : StepCourse setup options root top step two result last)
    (state : two.state = one.state) (alike : step.AttemptedAlike setup options root top one two)
    (level : step.skip? options one.state = none ∨ SameBelow root top one.files two.files)
    : Scene.EndsAlike root top outcome result after last
      ∨ ∃ stage written committed fault,
        result = .error fault
        ∧ fault.IsCommand
        ∧ step.skip? options one.state = none
        ∧ (step.attempt setup options).run.run one = (.ok (stage, written), committed)
        ∧ Residue two.files last.files top stage.changed
        ∧ last.state = one.state := by
  obtain ⟨attempt, started, again, ran, ran', ground, same⟩ := alike
  cases second with
  | skipped skips' =>
      rw [state] at skips'
      cases first with
      | skipped skips =>
          cases skips.symm.trans skips'
          exact .inl ⟨rfl, state, level.resolve_left (by simp [skips])⟩
      | failed due | halted due | applied due => exact absurd (skips'.symm.trans due) (by simp)
  | failed due' attempted' state' =>
      rw [state] at due'
      cases attempted'.symm.trans ran'
      cases first with
      | skipped skips => exact absurd (skips.symm.trans due') (by simp)
      | failed due attempted state₁ =>
          cases attempted.symm.trans ran
          exact .inl ⟨rfl, by rw [state', state₁, state], same⟩
      | halted due attempted | applied due attempted => cases attempted.symm.trans ran
  | halted due' attempted' fails state' residue =>
      rw [state] at due'
      cases attempted'.symm.trans ran'
      exact .inr ⟨_, _, _, _, rfl, Step.isCommand_of_commandFault? fails, due', ran, residue,
        state'.trans state⟩
  | applied due' attempted' state' same' saves' =>
      rw [state] at due'
      cases attempted'.symm.trans ran'
      cases first with
      | skipped skips => exact absurd (skips.symm.trans due') (by simp)
      | failed due attempted => cases attempted.symm.trans ran
      | halted due attempted fails => exact absurd (Step.isCommand_of_commandFault? fails) (well _ rfl)
      | applied due attempted state₁ same₁ saves =>
          cases attempted.symm.trans ran
          have recorded : last.state = after.state := by rw [state', state₁, state]
          rw [recorded] at saves'
          exact .inl ⟨rfl, recorded, saves.sameBelow saves' (same₁.grounded ground)
            (same₁.symm.trans (same.trans same'))⟩

-----------------------------------------------------------------------------------------
-- Runs of steps from two scenes
-----------------------------------------------------------------------------------------

/-- The second scene is as good as the first for running steps: the trees are the same below the root,
or the first step can be committed in the first scene and left no more than a residue in the second.
-/
inductive Scene.Trails (setup : RunSetup σ) (options : Options) (root : Path) (top : Location)
    : List Step → Scene σ → Scene σ → Prop
  | level {steps : List Step} {one two : Scene σ} (same : SameBelow root top one.files two.files)
    : Trails setup options root top steps one two
  | behind {step : Step} {rest : List Step} {one two committed : Scene σ} {stage : Stage}
    {written : Written} (due : step.skip? options one.state = none)
    (attempted : (step.attempt setup options).run.run one = (.ok (stage, written), committed))
    (residue : Residue one.files two.files top stage.changed)
    : Trails setup options root top (step :: rest) one two

/-- Steps may be run from the second scene in place of the first. -/
structure Scene.Replaces (setup : RunSetup σ) (options : Options) (base : Location) (root : Path)
    (top : Location) (targets : List Path) (steps : List Step) (one two : Scene σ)
    : Prop where
  plain : one.workspace = ⟨root, false, []⟩
  plain' : two.workspace = ⟨root, false, []⟩
  settled : Settled base root top targets one.files
  settled' : Settled base root top targets two.files
  state : two.state = one.state
  trails : Scene.Trails setup options root top steps one two

/-- After a step that ended alike in two scenes, the others may be run in the second one. -/
theorem Scene.Replaces.next {middle middle' : Scene σ} {events events' : List RunEvent}
    {status status' : StepStatus} (paths : TargetPaths top targets)
    (within : ∀ path ∈ step.targets, path ∈ targets) (quiet : setup.Quiet base root top targets)
    (plain : one.workspace = ⟨root, false, []⟩) (plain' : two.workspace = ⟨root, false, []⟩)
    (settled : Settled base root top targets one.files)
    (settled' : Settled base root top targets two.files)
    (history : StepHistory setup options step one events (.ok status) middle)
    (history' : StepHistory setup options step two events' (.ok status') middle')
    (state : middle'.state = middle.state) (same : SameBelow root top middle.files middle'.files)
    : Scene.Replaces setup options base root top targets steps middle middle' where
  plain := history.keeps.1.trans plain
  plain' := history'.keeps.1.trans plain'
  settled := (history.settled paths within (quiet.leavesTargets paths) settled plain).1
  settled' := (history'.settled paths within (quiet.leavesTargets paths) settled' plain').1
  state := state
  trails := .level same

/-- What is left to do of a run that ended with `fault?` in the scene `ended`: some of the steps are
passed over now, and the others may be run in place of the end of that run.
-/
def Scene.Resumes (setup : RunSetup σ) (options : Options) (base : Location) (root : Path)
    (top : Location) (targets : List Path) (steps : List Step) (fault? : Option RunFault)
    (ended scene : Scene σ)
    : Prop :=
  ∃ done left middle outcome,
    steps = done ++ left
    ∧ (∀ step ∈ done, (step.skip? options scene.state).isSome)
    ∧ Scene.Replaces setup options base root top targets left middle scene
    ∧ (Pipeline.runSteps setup options left).run.run middle = (outcome, ended)
    ∧ faultOf? outcome = fault?

/-- The tree may change above the root, and collaborators in any way, before a run is resumed. -/
theorem Scene.Resumes.sameBelow {fault? : Option RunFault} {ended : Scene σ}
    (resumes : Scene.Resumes setup options base root top targets steps fault? ended one)
    (paths : TargetPaths top targets) (workspace : two.workspace = one.workspace)
    (state : two.state = one.state) (same : SameBelow root top one.files two.files)
    : Scene.Resumes setup options base root top targets steps fault? ended two := by
  obtain ⟨done, left, middle, outcome, split, skips, replaces, ran, ends⟩ := resumes
  refine ⟨done, left, middle, outcome, split, state ▸ skips, ⟨replaces.plain,
    workspace.trans replaces.plain', replaces.settled, replaces.settled'.sameBelow paths same,
    state.trans replaces.state, ?_⟩, ran, ends⟩
  cases replaces.trails with
  | level before => exact .level (before.trans same)
  | behind due attempted residue => exact .behind due attempted (residue.sameBelow same)

/-- The first of the steps is attempted alike from both scenes, and if it is passed over in the first,
the trees are the same below the root.
-/
theorem Scene.Replaces.attemptedAlike
    (replaces : Scene.Replaces setup options base root top targets (step :: steps) one two)
    (paths : TargetPaths top targets) (within : ∀ path ∈ step.targets, path ∈ targets)
    (fixed : setup.collaborators.TemplatesFixed)
    : step.AttemptedAlike setup options root top one two
      ∧ (step.skip? options one.state = none ∨ SameBelow root top one.files two.files) := by
  cases replaces.trails with
  | level same =>
      exact ⟨step.attempt_congr paths within fixed replaces.settled replaces.plain replaces.plain' same,
        .inr same⟩
  | behind due attempted residue =>
      exact ⟨step.attempt_again paths within fixed replaces.settled replaces.settled' replaces.plain
        replaces.plain' attempted residue, .inl due⟩

/-- After a command failed in the second scene, the step may be run there in place of the first once
more; by cases on whether there was a residue before.
-/
theorem Scene.Replaces.trails_again {stage : Stage} {written : Written} {committed : Scene σ}
    (replaces : Scene.Replaces setup options base root top targets (step :: steps) one two)
    (due : step.skip? options one.state = none)
    (attempted : (step.attempt setup options).run.run one = (.ok (stage, written), committed))
    (residue : Residue two.files last.files top stage.changed)
    : Scene.Trails setup options root top (step :: steps) one last := by
  cases replaces.trails with
  | level same => exact .behind due attempted (residue.of_sameBelow same)
  | behind _ earlier old =>
      cases earlier.symm.trans attempted
      exact .behind due attempted (old.trans residue)

/-- Steps that are run from a scene in place of another end alike, or a command fails and they can be
resumed; by induction on the steps, up to the first that does not end well.
-/
theorem Pipeline.runSteps_resumes (paths : TargetPaths top targets) (steps : List Step)
    (within : ∀ step ∈ steps, ∀ path ∈ step.targets, path ∈ targets)
    (fixed : setup.collaborators.TemplatesFixed) (quiet : setup.Quiet base root top targets)
    (replaces : Scene.Replaces setup options base root top targets steps one two)
    {outcome result : Except RunFault RunReport}
    (ran : (runSteps setup options steps).run.run one = (outcome, after))
    (well : ∀ fault, faultOf? outcome = some fault → ¬ fault.IsCommand ∧ ¬ fault.IsRefusal)
    (ran' : (runSteps setup options steps).run.run two = (result, last))
    (accepted : ∀ fault, faultOf? result = some fault → ¬ fault.IsRefusal)
    : Scene.EndsAlike root top (faultOf? outcome) (faultOf? result) after last
      ∨ (∃ fault, faultOf? result = some fault ∧ fault.IsCommand)
        ∧ Scene.Resumes setup options base root top targets steps (faultOf? outcome) after last := by
  induction steps generalizing one two outcome result with
  | nil =>
      cases ran
      cases ran'
      cases replaces.trails with
      | level same => exact .inl ⟨rfl, replaces.state, same⟩
  | cons step rest ih =>
      rw [List.forall_mem_cons] at within
      obtain ⟨alike, level⟩ := replaces.attemptedAlike paths within.1 fixed
      obtain ⟨_, status, middle, history, goes⟩ := runSteps_goesOn (by rw [replaces.plain]) ran
      obtain ⟨_, status', middle', history', goes'⟩ := runSteps_goesOn (by rw [replaces.plain']) ran'
      have course := history.course paths within.1 quiet replaces.settled replaces.plain
        fun fault failed => (well fault (goes.fault fault failed)).2
      have course' := history'.course paths within.1 quiet replaces.settled' replaces.plain'
        fun fault failed => accepted fault (goes'.fault fault failed)
      rcases course.endsAlike (fun fault failed => (well fault (goes.fault fault failed)).1) course'
          replaces.state alike level with
        ⟨rfl, state, same⟩ | ⟨stage, written, committed, fault, rfl, command, due, attempted, residue, state⟩
      · cases goes' with
        | halts fault =>
            cases goes
            exact .inl ⟨rfl, state, same⟩
        | passes later' =>
            cases goes with
            | passes later =>
                simp only [faultOf?_map] at well accepted ⊢
                have next : Scene.Replaces setup options base root top targets rest middle middle' :=
                  .next paths within.1 quiet replaces.plain replaces.plain' replaces.settled
                    replaces.settled' history history' state same
                rcases ih within.2 next later well later' accepted with ends | ⟨command, resumes⟩
                · exact .inl ends
                · obtain ⟨done, left, start, outcome, split, skips, last, ended, found⟩ := resumes
                  refine .inr ⟨command, step :: done, left, start, outcome, by rw [split, List.cons_append],
                    List.forall_mem_cons.mpr ⟨?_, skips⟩, last, ended, found⟩
                  exact Step.skip?_runSteps course'.skips (by rw [next.plain']) later'
      · cases goes'
        have refused (failure : Failure) : fault ≠ .checkpointFailed step.name failure := by
          rintro rfl
          exact command
        obtain ⟨settled, -⟩ := history'.undone paths within.1 (quiet.leavesTargets paths)
          replaces.settled' replaces.plain' refused
        refine .inr ⟨⟨fault, rfl, command⟩, [], step :: rest, one, outcome, rfl, by simp, ?_, ran, rfl⟩
        exact ⟨replaces.plain, history'.keeps.1.trans replaces.plain', replaces.settled, settled, state,
          replaces.trails_again due attempted residue⟩

/-- A run of all steps from where others may be resumed ends as the run before was to end, or it is
halted by a command and may be resumed again. The steps that are done are passed over first.
-/
theorem Scene.Resumes.run {fault? : Option RunFault} {ended : Scene σ}
    (resumes : Scene.Resumes setup options base root top targets steps fault? ended one)
    (paths : TargetPaths top targets)
    (within : ∀ step ∈ steps, ∀ path ∈ step.targets, path ∈ targets)
    (fixed : setup.collaborators.TemplatesFixed) (quiet : setup.Quiet base root top targets)
    (well : ∀ fault, fault? = some fault → ¬ fault.IsCommand ∧ ¬ fault.IsRefusal)
    {result : Except RunFault RunReport}
    (ran : (Pipeline.runSteps setup options steps).run.run one = (result, last))
    (accepted : ∀ fault, faultOf? result = some fault → ¬ fault.IsRefusal)
    : Scene.EndsAlike root top fault? (faultOf? result) ended last
      ∨ (∃ fault, faultOf? result = some fault ∧ fault.IsCommand)
        ∧ Scene.Resumes setup options base root top targets steps fault? ended last := by
  obtain ⟨done, left, middle, outcome, rfl, skips, replaces, runs, rfl⟩ := resumes
  rw [Pipeline.runSteps_skip setup skips left] at ran
  cases ran
  rw [faultOf?_map] at accepted ⊢
  have inner : ∀ step ∈ left, ∀ path ∈ step.targets, path ∈ targets :=
    fun step member => within step (List.mem_append_right _ member)
  rcases Pipeline.runSteps_resumes paths left inner fixed quiet replaces runs well rfl accepted with
    ends | ⟨command, done', left', start, outcome', rfl, skips', replaces', ran', ends⟩
  · exact .inl ends
  · refine .inr ⟨command, done ++ done', left', start, outcome', (List.append_assoc ..).symm, ?_,
      replaces', ran', ends⟩
    intro step member
    rcases List.mem_append.mp member with old | new
    · exact Step.skip?_runSteps (skips step old) (by rw [replaces.plain']) rfl
    · exact skips' step new

-----------------------------------------------------------------------------------------
-- Runs of a pipeline that go on from one another
-----------------------------------------------------------------------------------------

/-- Runs of a pipeline that were all halted by a command, each from the run state that the one before
it left, with the messages of all checkpoints that were accepted. Between two runs the tree below the
root does not change; anything else may.
-/
inductive Pipeline.HaltedRuns (pipeline : Pipeline) (setup : RunSetup σ) (root : Path)
    (top : Location) (start : Scene σ)
    : List String → Scene σ → Prop
  | none : HaltedRuns pipeline setup root top start [] start
  | halted {messages : List String} {before after next : Scene σ} {fault : RunFault}
    {history : List (Step × List RunEvent)}
    (earlier : HaltedRuns pipeline setup root top start messages before)
    (ran : (pipeline.run setup).run.run before = (.error fault, after))
    (historyOf : RunHistory setup (Dictionary.layer pipeline.options setup.options) pipeline.steps
      before history (.error fault) after)
    (command : fault.IsCommand) (workspace : next.workspace = after.workspace)
    (state : next.state = after.state) (same : SameBelow root top after.files next.files)
    : HaltedRuns pipeline setup root top start (messages ++ acceptedMessages history) next

theorem RunFault.IsCommand.accepted {fault : RunFault} (command : fault.IsCommand)
    : ¬ fault.IsRefusal := by
  cases fault <;> cases command
  exact id

/-- After runs that were halted, the completed steps are the accepted checkpoints, and a single run can
be resumed; by induction on the runs.
-/
theorem Pipeline.HaltedRuns.resumes {pipeline : Pipeline} {start once ended : Scene σ}
    {messages : List String} (halted : pipeline.HaltedRuns setup root top start messages last)
    (sound : pipeline.flaws = []) (paths : TargetPaths top pipeline.targets)
    (plain : start.workspace = ⟨root, false, []⟩)
    (own : start.state.pipeline = pipeline.name) (fresh : start.state.completed = [])
    (settled : Settled base root top pipeline.targets start.files)
    (fixed : setup.collaborators.TemplatesFixed)
    (quiet : setup.Quiet base root top pipeline.targets)
    (workspace : once.workspace = start.workspace) (state : once.state = start.state)
    (same : SameBelow root top start.files once.files) {outcome : Except RunFault RunReport}
    (ran : (runSteps setup (Dictionary.layer pipeline.options setup.options) pipeline.steps).run.run
      once = (outcome, ended))
    (well : ∀ fault, faultOf? outcome = some fault → ¬ fault.IsCommand ∧ ¬ fault.IsRefusal)
    : last.state.pipeline = pipeline.name
      ∧ last.state.completed = messages
      ∧ Scene.Resumes setup (Dictionary.layer pipeline.options setup.options) base root top
        pipeline.targets pipeline.steps (faultOf? outcome) ended last := by
  induction halted with
  | none =>
      refine ⟨own, fresh, [], pipeline.steps, once, outcome, rfl, by simp, ?_, ran, rfl⟩
      exact ⟨workspace.trans plain, plain, settled.sameBelow paths same, settled, state.symm,
        .level same.symm⟩
  | @halted messages before after next fault history _ halts historyOf command workspace' state' same' ih =>
      obtain ⟨own', completed, resumes⟩ := ih
      rw [run_eq setup sound own'] at halts
      have accepted : ∀ found, faultOf? (.error fault : Except RunFault RunReport) = some found →
          ¬ found.IsRefusal := by
        rintro _ ⟨⟩
        exact command.accepted
      have grows := historyOf.completed.1
      refine ⟨?_, ?_, ?_⟩
      · rw [state', grows]
        exact own'
      · rw [state', grows, completed]
      · rcases resumes.run paths pipeline.within_targets fixed quiet well halts accepted with
          ends | ⟨-, resumes⟩
        · exact absurd command (well fault ends.outcome.symm).1
        · exact resumes.sameBelow paths workspace' state' same'

/-- Runs that were halted by commands any number of times, and a last one in which no command fails,
end as a single run in which none fails: with the same fault or none, the same tree below the root,
the same completed steps, and the same messages of accepted checkpoints in all.
-/
theorem Pipeline.run_resumed {pipeline : Pipeline} {start once finished ended : Scene σ}
    (sound : pipeline.flaws = []) (spelled : ∀ path ∈ pipeline.targets, path.IsSpelled)
    (apart : ∀ path ∈ pipeline.targets, ∀ other ∈ pipeline.targets, path.names ≠ [] →
      ¬ beside (top ++ path.names) <+: top ++ other.names)
    (plain : start.workspace = ⟨root, false, []⟩)
    (own : start.state.pipeline = pipeline.name) (fresh : start.state.completed = [])
    (settled : Settled start.files.base root top pipeline.targets start.files)
    (fixed : setup.collaborators.TemplatesFixed)
    (quiet : setup.Quiet start.files.base root top pipeline.targets)
    {messages : List String} (halted : pipeline.HaltedRuns setup root top start messages last)
    {outcome result : Except RunFault RunReport} {history record : List (Step × List RunEvent)}
    (ran : (pipeline.run setup).run.run last = (result, finished))
    (historyOf : RunHistory setup (Dictionary.layer pipeline.options setup.options) pipeline.steps last
      history result finished)
    (succeeds : ∀ fault, result = .error fault → ¬ fault.IsCommand ∧ ¬ fault.IsRefusal)
    (workspace : once.workspace = start.workspace) (state : once.state = start.state)
    (same : SameBelow root top start.files once.files)
    (ranOnce : (pipeline.run setup).run.run once = (outcome, ended))
    (recordOf : RunHistory setup (Dictionary.layer pipeline.options setup.options) pipeline.steps once
      record outcome ended)
    (succeedsOnce : ∀ fault, outcome = .error fault → ¬ fault.IsCommand ∧ ¬ fault.IsRefusal)
    : faultOf? result = faultOf? outcome
      ∧ (∀ place, top <+: place → finished.files.node? place = ended.files.node? place)
      ∧ finished.state.completed = ended.state.completed
      ∧ messages ++ acceptedMessages history = acceptedMessages record := by
  have paths : TargetPaths top pipeline.targets := ⟨fault?_of_flaws sound, spelled, apart⟩
  have well : ∀ fault, faultOf? outcome = some fault → ¬ fault.IsCommand ∧ ¬ fault.IsRefusal :=
    fun fault failed => succeedsOnce fault (eq_of_faultOf? failed)
  rw [run_eq setup sound (state ▸ own)] at ranOnce
  obtain ⟨own', completed, resumes⟩ := halted.resumes sound paths plain own fresh settled fixed quiet
    workspace state same ranOnce well
  rw [run_eq setup sound own'] at ran
  have grown : ended.state.completed = acceptedMessages record := by
    rw [recordOf.completed.1, state, fresh, List.nil_append]
  have grown' : finished.state.completed = messages ++ acceptedMessages history := by
    rw [historyOf.completed.1, completed]
  rcases resumes.run paths pipeline.within_targets fixed quiet well ran
      (fun fault failed => (succeeds fault (eq_of_faultOf? failed)).2) with
    ends | ⟨⟨fault, failed, command⟩, -⟩
  · refine ⟨ends.outcome, ends.same.node, by rw [ends.state], ?_⟩
    rw [← grown, ← grown', ends.state]
  · exact absurd command (succeeds fault (eq_of_faultOf? failed)).1

/-- The collaborators of a rehearsal in which no command succeeds but for those that come after another
one.
-/
def Collaborators.faltering : Collaborators Notes where
  command _ line := ExceptT.mk fun surroundings =>
    let notes := surroundings.outside
    let code := if notes.calls.isEmpty then 1 else 0
    (.ok ⟨some code, ""⟩, { surroundings with
      outside := { notes with calls := notes.calls ++ [line] } })
  checkpoint := Notes.checkpoint []
  template name _ notes := (.error (.ofMessage name), notes)

theorem Collaborators.faltering_quiet (targets : List Path)
    : RunSetup.Quiet { collaborators := .faltering } base root top targets := by
  refine ⟨fun line surroundings => .refl _, fun message surroundings => ?_, nofun⟩
  change SameBelow root top surroundings.files
    ((Notes.checkpoint [] message).run.run surroundings).2.files
  rw [Notes.checkpoint_files]
  exact .refl _

/-- A run that is resumed after its command failed once ends as one in which it does not fail. -/
theorem Pipeline.run_resumed_noting
    : ∃ last once history record result outcome finished ended,
        noting.HaltedRuns { collaborators := .faltering } ⟨"", [""]⟩ [] (.blank "notes") ["write"] last
        ∧ (noting.run { collaborators := .faltering }).run.run last = (result, finished)
        ∧ (noting.run { collaborators := .faltering }).run.run once = (outcome, ended)
        ∧ faultOf? result = faultOf? outcome
        ∧ finished.state.completed = ended.state.completed
        ∧ ["write"] ++ acceptedMessages history = acceptedMessages record := by
  let setup : RunSetup Notes := { collaborators := .faltering }
  let once : Scene Notes :=
    { Scene.blank "notes" with surroundings := ⟨.empty, { calls := ["true"] }⟩ }
  obtain ⟨first, halt, last, halts, firstOf, -⟩ :=
    @run_history _ noting setup (.blank "notes") (by decide) rfl rfl
  obtain rfl : ((noting.run setup).run.run (.blank "notes")).2 = last := by rw [halts]
  obtain rfl : .error (.commandFailed "check" "false" (some 1) "") = halt :=
    congrArg Prod.fst halts
  have messages : acceptedMessages first = ["write"] := by
    have grown := congrArg RunState.completed firstOf.completed.1
    exact grown.symm
  have halted : noting.HaltedRuns setup ⟨"", [""]⟩ [] (.blank "notes") ["write"]
      ((noting.run setup).run.run (.blank "notes")).2 :=
    messages ▸ .halted .none halts firstOf trivial rfl rfl (.refl _)
  obtain ⟨history, result, finished, ran, historyOf, -⟩ :=
    @run_history _ noting setup ((noting.run setup).run.run (.blank "notes")).2 (by decide) rfl rfl
  obtain ⟨record, outcome, ended, ranOnce, recordOf, -⟩ :=
    @run_history _ noting setup once (by decide) rfl rfl
  have passed : faultOf? ((noting.run setup).run.run
      ((noting.run setup).run.run (.blank "notes")).2).1 = none := by decide +kernel
  have passedOnce : faultOf? ((noting.run setup).run.run once).1 = none := by decide +kernel
  rw [ran] at passed
  rw [ranOnce] at passedOnce
  have start : Settled (Scene.blank "notes").files.base ⟨"", [""]⟩ [] noting.targets
      (Scene.blank "notes").files := .empty _
  have quiet : setup.Quiet (Scene.blank "notes").files.base ⟨"", [""]⟩ [] noting.targets :=
    Collaborators.faltering_quiet _
  have workspace : once.workspace = (Scene.blank "notes").workspace := rfl
  have state : once.state = (Scene.blank "notes").state := rfl
  have same : SameBelow ⟨"", [""]⟩ [] (Scene.blank "notes").files once.files := .refl _
  obtain ⟨fault, -, completed, accepted⟩ := run_resumed (by decide) noting_spelled noting_apart rfl rfl
    rfl start (fun _ _ _ _ _ => rfl) quiet halted ran historyOf (of_faultOf?_none passed _) workspace
    state same ranOnce recordOf (of_faultOf?_none passedOnce _)
  exact ⟨_, once, history, record, result, outcome, finished, ended, halted, ran, ranOnce, fault,
    completed, accepted⟩

end Groundwork
