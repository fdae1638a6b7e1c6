import Groundwork.Proofs.Run.Composition
import Groundwork.Proofs.Run.Resumption

/-!
Runs that were refused a checkpoint and are run again. The refused step is applied once more, to the
files that it wrote before; if its edits leave these as they are, the run ends as one that was not
refused.
-/

namespace Groundwork

open Files Path Workspace

variable {σ : Type} {base : Location} {root : Path} {top : Location} {targets : List Path}
  {setup : RunSetup σ} {options : Options} {step : Step} {steps : List Step} {name : String}
  {failure : Failure} {one two before after halted last : Scene σ}

-----------------------------------------------------------------------------------------
-- Steps that are refused
-----------------------------------------------------------------------------------------

/-- A step whose checkpoint failed before it was recorded has left what it attempted below the root, and
the run state as it was; by cases on the order of its events.
-/
theorem StepHistory.refused (paths : TargetPaths top targets)
    (within : ∀ path ∈ step.targets, path ∈ targets) (quiet : setup.Quiet base root top targets)
    (settled : Settled base root top targets before.files)
    (plain : before.workspace = ⟨root, false, []⟩) {events : List RunEvent}
    (history : StepHistory setup options step before events
      (.error (.checkpointFailed name failure)) after)
    (unrecorded : name ∉ after.state.completed)
    : step.skip? options before.state = none
      ∧ ((step.attempt setup options).run.run before
            = (.error (.checkpointFailed name failure), after)
          ∨ step.name = name
            ∧ after.state = before.state
            ∧ Settled base root top targets after.files
            ∧ ∃ stage written committed,
                (step.attempt setup options).run.run before = (.ok (stage, written), committed)
                ∧ SameBelow root top committed.files after.files) := by
  have kept := history.keeps.2
  generalize outcome : Except.error (RunFault.checkpointFailed name failure) = result at history
  cases history with
  | completed | guarded => cases outcome
  | handled due on effects order =>
      refine ⟨Step.skip?_none due on, ?_⟩
      cases order with
      | applied => cases outcome
      | uncommitted => cases outcome
      | unstaged fault =>
          cases outcome
          cases effects with
          | cons staged none =>
              cases none
              obtain ⟨ran, -⟩ := staged
              exact .inl (by simp only [Step.attempt, run_bind, ran])
      | stopped stage written exits line answer fault commands fails =>
          cases outcome
          exact (Step.isCommand_of_commandFault? fails).elim
      | unsaved stage written exits path found commands statePath =>
          cases outcome
          refine absurd ?_ unrecorded
          rw [kept]
          simp [writtenEvents, RunEvent.recorded?, List.filterMap_cons]
      | refused stage written exits found commands =>
          cases outcome
          rw [writtenEvents, List.append_assoc] at effects
          obtain ⟨moved, commits, effects⟩ := effects.split
          obtain ⟨ranned, commands, effects⟩ := effects.split
          have plain' : moved.workspace = ⟨root, false, []⟩ := commits.keeps.1.trans plain
          have same := commands.commands quiet.commands (by rw [plain'])
          cases effects with
          | cons checkpointed none =>
              cases none
              obtain ⟨surroundings, asked, rfl⟩ := checkpointed
              have taken := quiet.checkpoints step.name ranned.surroundings
              rw [asked] at taken
              obtain ⟨whole, among, -, placed⟩ := commits.committed paths within settled plain
              obtain ⟨-, all⟩ := placed written rfl
              have settled' := settled.allMoved paths (fun file member => within _ (among file member)) all
              refine .inr ⟨rfl, ?_, settled'.sameBelow paths (same.trans taken), stage, written, moved,
                Step.attempt_of_events commits, same.trans taken⟩
              rw [kept]
              simp [writtenEvents, RunEvent.recorded?, List.filterMap_cons]

-----------------------------------------------------------------------------------------
-- Edits that leave files as they are
-----------------------------------------------------------------------------------------

/-- Mutations are worked out to the same edits wherever that is done. -/
theorem Step.resolveAll_congr (fixed : setup.collaborators.TemplatesFixed) (step : Step)
    (options : Options) (one two : Scene σ)
    : ((step.resolveAll setup.collaborators options).run.run two).1
      = ((step.resolveAll setup.collaborators options).run.run one).1 := by
  have resolving (mutations : List Mutation) (one two : Scene σ)
      : ((mutations.mapM (step.resolve setup.collaborators options)).run.run two).1
        = ((mutations.mapM (step.resolve setup.collaborators options)).run.run one).1 := by
    induction mutations generalizing one two with
    | nil => rfl
    | cons mutation rest ih =>
        have alike : Scene.StagesAlike (fun _ => ()) [] one two := ⟨rfl, by simp⟩
        have same := step.resolve_congr alike fixed.show_ options mutation
        rw [List.mapM_cons, run_bind, run_bind]
        rcases first : (step.resolve setup.collaborators options mutation).run.run one with
          ⟨outcome, middle⟩
        rcases second : (step.resolve setup.collaborators options mutation).run.run two with
          ⟨outcome', middle'⟩
        rw [first, second] at same
        obtain rfl : outcome' = outcome := same
        cases outcome' with
        | error fault => rfl
        | ok edit =>
            have later := ih middle middle'
            simp only [run_bind]
            rcases ran : (rest.mapM (step.resolve setup.collaborators options)).run.run middle with
              ⟨edits, _⟩
            rcases ran' : (rest.mapM (step.resolve setup.collaborators options)).run.run middle' with
              ⟨edits', _⟩
            rw [ran, ran'] at later
            obtain rfl : edits' = edits := later
            cases edits' <;> rfl
  exact resolving step.mutations one two

/-- The edits of a step, made once more to what its targets hold, leave that as it is. -/
def Step.IdleOn (step : Step) (collaborators : Collaborators σ) (options : Options) (top : Location)
    (scene : Scene σ)
    : Prop :=
  ∀ edits asked, (step.resolveAll collaborators options).run.run scene = (.ok edits, asked) →
    ∀ path ∈ step.targets,
      Edit.composed (editsOf (·.components = path.components) (step.mutations.zip edits))
          (scene.files.content? (top ++ path.names))
        = .ok (scene.files.content? (top ++ path.names))

theorem Step.IdleOn.sameBelow (idle : step.IdleOn setup.collaborators options top one)
    (fixed : setup.collaborators.TemplatesFixed) (same : SameBelow root top one.files two.files)
    : step.IdleOn setup.collaborators options top two := by
  intro edits asked resolved path member
  have again := step.resolveAll_congr fixed options one two
  rw [resolved] at again
  rcases ran : (step.resolveAll setup.collaborators options).run.run one with ⟨outcome, asked'⟩
  rw [ran] at again
  obtain rfl : .ok edits = outcome := again
  have content : two.files.content? (top ++ path.names) = one.files.content? (top ++ path.names) := by
    rw [Files.content?, Files.content?, same.node _ (List.prefix_append ..)]
  rw [content]
  exact idle edits asked' ran path member

/-- The second scene is one in which a step was refused that is yet to be run in the first: the step,
attempted there, gives the tree of the second scene, which its edits leave as it is.
-/
structure Scene.Precedes (setup : RunSetup σ) (options : Options) (base : Location) (root : Path)
    (top : Location) (targets : List Path) (step : Step) (one two : Scene σ)
    : Prop where
  plain : one.workspace = ⟨root, false, []⟩
  plain' : two.workspace = ⟨root, false, []⟩
  settled : Settled base root top targets one.files
  settled' : Settled base root top targets two.files
  state : two.state = one.state
  due : step.skip? options one.state = none
  attempted : ∃ stage written committed,
    (step.attempt setup options).run.run one = (.ok (stage, written), committed)
    ∧ SameBelow root top committed.files two.files
  idle : step.IdleOn setup.collaborators options top two

/-- What a refused step wrote, or found there before, is what it reads in the scene that it left. -/
theorem Scene.Precedes.reads
    (precedes : Scene.Precedes setup options base root top targets step one two)
    (paths : TargetPaths top targets) (within : ∀ path ∈ step.targets, path ∈ targets) {path : Path}
    (first : step.targets.find? (·.components = path.components) = some path)
    : ∃ content,
        two.files.content? (top ++ path.names) = some content
        ∧ two.workspace.read two.files path = .ok (some content) := by
  have sound (path : Path) (member : path ∈ step.targets) := paths.sound path (within path member)
  have spelled (path : Path) (member : path ∈ step.targets) := paths.spelled path (within path member)
  obtain ⟨stage, written, committed, attempted, same⟩ := precedes.attempted
  obtain ⟨names, staged, commits⟩ := Step.parts_of_attempt precedes.plain attempted
  obtain ⟨edits, resolved, length, composes⟩ := step.stageMutations_composes staged
  have holds := step.stageMutations_holds staged
  rw [precedes.plain] at holds
  obtain ⟨whole, -⟩ := precedes.settled.changed paths within holds
  have member := List.mem_of_find?_eq_some first
  obtain ⟨file, known⟩ := Option.isSome_iff_exists.mp (holds.covers path member)
  have entry := Dictionary.mem_of_get? known
  obtain rfl : path = file.path :=
    Option.some.inj (first.symm.trans (step.targets_of_zip length ▸ composes.first _ _ known))
  obtain ⟨content, there, reading⟩ := Workspace.read_of_commit rfl rfl precedes.settled.ground
    (holds.readFrom sound spelled) whole commits entry (holds.current _ entry)
  have inside := inside_of_sound (sound _ member) root
  have ground := same.symm.grounded precedes.settled'.ground
  refine ⟨content, ?_, ?_⟩
  · rw [← there, Files.content?, Files.content?, same.node _ (List.prefix_append ..)]
  · rw [read_eq, ← inside.place ground same, ← read_eq] at reading
    simp only [precedes.plain', Workspace.read, Dictionary.get?, reading]

/-- A step whose edits leave its targets as they are changes no file. -/
theorem Step.IdleOn.changed {stage : Stage} (idle : step.IdleOn setup.collaborators options top one)
    (plain : one.workspace = ⟨root, false, []⟩) (ground : one.files.Grounded root top)
    (sound : ∀ path ∈ step.targets, path.fault? = none)
    (spelled : ∀ path ∈ step.targets, path.IsSpelled)
    (staged : (step.stageMutations setup.collaborators options).run.run one = (.ok stage, two))
    : stage.changed = [] := by
  obtain ⟨edits, resolved, length, composes⟩ := step.stageMutations_composes staged
  have holds := step.stageMutations_holds staged
  have reads := holds.readFrom sound spelled
  refine List.eq_nil_iff_forall_not_mem.mpr fun file changed => ?_
  obtain ⟨⟨key, member⟩, differs⟩ := reads.mem_changed.mp changed
  have known := Dictionary.get?_of_mem holds.ordered member
  obtain rfl : key = file.path.components := holds.key _ member
  have loaded := (content?_of_read ground (by rw [plain]) (by rw [plain])
    (reads.file _ member).sound (reads.file _ member).loaded).2
  have goes := idle edits two resolved file.path (holds.target _ member)
  rw [loaded] at goes
  exact differs (Except.ok.inj ((composes.composed _ _ known).symm.trans goes))

/-- Attempting a refused step again writes nothing: all of its files are read and left as they are. -/
theorem Scene.Precedes.attempt_again
    (precedes : Scene.Precedes setup options base root top targets step one two)
    (paths : TargetPaths top targets) (within : ∀ path ∈ step.targets, path ∈ targets)
    (fixed : setup.collaborators.TemplatesFixed)
    : ∃ stage committed,
        (step.attempt setup options).run.run two = (.ok (stage, []), committed)
        ∧ committed.files = two.files := by
  obtain ⟨_, _, _, attempted, -⟩ := precedes.attempted
  obtain ⟨names, staged, -⟩ := Step.parts_of_attempt precedes.plain attempted
  obtain ⟨edits, resolved, length, -⟩ := step.stageMutations_composes staged
  have again := step.resolveAll_congr fixed options one two
  rw [resolved] at again
  rcases resolved' : (step.resolveAll setup.collaborators options).run.run two with ⟨outcome, asked⟩
  rw [resolved'] at again
  obtain rfl : outcome = .ok edits := again
  obtain ⟨stage, staged'⟩ := step.stageMutations_ok resolved' fun path first => by
    rw [step.targets_of_zip length] at first
    obtain ⟨content, there, reading⟩ := precedes.reads paths within first
    have goes := precedes.idle edits asked resolved' path (List.mem_of_find?_eq_some first)
    rw [there] at goes
    exact ⟨some content, some content, reading, goes⟩
  have unchanged := precedes.idle.changed precedes.plain' precedes.settled'.ground
    (fun path member => paths.sound path (within path member))
    (fun path member => paths.spelled path (within path member)) staged'
  obtain ⟨_, names', consulted, -⟩ := step.stageMutations_consulting setup.collaborators options two
  cases consulted.symm.trans staged'
  let asked := two.consulting setup.collaborators names'
  have commits : (asked.workspace.commit stage).run.run asked.files
      = ((Except.ok []).map (asked.workspace, ·), asked.files) := by
    have wet : asked.workspace.dryRun = false := show two.workspace.dryRun = false by rw [precedes.plain']
    rw [Workspace.commit, wet, unchanged]
    rfl
  exact ⟨stage, _, Step.run_attempt staged' commits, rfl⟩

-----------------------------------------------------------------------------------------
-- Runs of steps up to the one that is refused
-----------------------------------------------------------------------------------------

/-- A step that ends without a command's fault is applied from both scenes if it is yet to be run in the
first and was refused in the second; then they are the same below the root.
-/
theorem Scene.Precedes.applied
    (precedes : Scene.Precedes setup options base root top targets step one two)
    (paths : TargetPaths top targets) (within : ∀ path ∈ step.targets, path ∈ targets)
    (fixed : setup.collaborators.TemplatesFixed) {outcome result : Except RunFault StepStatus}
    (first : StepCourse setup options root top step one outcome after)
    (well : ∀ fault, outcome = .error fault → ¬ fault.IsCommand)
    (second : StepCourse setup options root top step two result last)
    (well' : ∀ fault, result = .error fault → ¬ fault.IsCommand)
    : ∃ status status',
        outcome = .ok status
        ∧ result = .ok status'
        ∧ last.state = after.state
        ∧ SameBelow root top after.files last.files := by
  obtain ⟨stage, written, committed, attempted, same⟩ := precedes.attempted
  obtain ⟨stage', committed', attempted', still⟩ := precedes.attempt_again paths within fixed
  have due' : step.skip? options two.state = none := precedes.state ▸ precedes.due
  cases first with
  | skipped skips => exact absurd (skips.symm.trans precedes.due) (by simp)
  | failed _ failed => cases failed.symm.trans attempted
  | halted _ _ fails => exact absurd (Step.isCommand_of_commandFault? fails) (well _ rfl)
  | applied _ ran state₁ same₁ saves =>
      cases ran.symm.trans attempted
      cases second with
      | skipped skips => exact absurd (skips.symm.trans due') (by simp)
      | failed _ failed => cases failed.symm.trans attempted'
      | halted _ _ fails => exact absurd (Step.isCommand_of_commandFault? fails) (well' _ rfl)
      | applied _ ran' state₂ same₂ saves' =>
          cases ran'.symm.trans attempted'
          have recorded : last.state = after.state := by rw [state₂, state₁, precedes.state]
          rw [recorded] at saves'
          rw [still] at same₂
          exact ⟨_, _, rfl, rfl, recorded,
            saves.sameBelow saves' (same₁.grounded (same.symm.grounded precedes.settled'.ground))
              (same₁.symm.trans (same.trans same₂))⟩

/-- What is left to do of a run that ended with `fault?` in the scene `ended`, in a scene where one of its
steps was refused: the steps before are passed over now.
-/
def Scene.Refused (setup : RunSetup σ) (options : Options) (base : Location) (root : Path)
    (top : Location) (targets : List Path) (steps : List Step) (fault? : Option RunFault)
    (ended scene : Scene σ)
    : Prop :=
  ∃ done step rest middle outcome,
    steps = done ++ step :: rest
    ∧ (∀ other ∈ done, (other.skip? options scene.state).isSome)
    ∧ Scene.Precedes setup options base root top targets step middle scene
    ∧ (Pipeline.runSteps setup options (step :: rest)).run.run middle = (outcome, ended)
    ∧ faultOf? outcome = fault?

/-- The tree may change above the root, and collaborators in any way, before a run is made again. -/
theorem Scene.Refused.sameBelow {fault? : Option RunFault} {ended : Scene σ}
    (refused : Scene.Refused setup options base root top targets steps fault? ended one)
    (paths : TargetPaths top targets) (fixed : setup.collaborators.TemplatesFixed)
    (workspace : two.workspace = one.workspace) (state : two.state = one.state)
    (same : SameBelow root top one.files two.files)
    : Scene.Refused setup options base root top targets steps fault? ended two := by
  obtain ⟨done, step, rest, middle, outcome, split, skips, precedes, ran, ends⟩ := refused
  obtain ⟨stage, written, committed, attempted, same'⟩ := precedes.attempted
  exact ⟨done, step, rest, middle, outcome, split, state ▸ skips,
    { plain := precedes.plain
      plain' := workspace.trans precedes.plain'
      settled := precedes.settled
      settled' := precedes.settled'.sameBelow paths same
      state := state.trans precedes.state
      due := precedes.due
      attempted := ⟨stage, written, committed, attempted, same'.trans same⟩
      idle := precedes.idle.sameBelow fixed same }, ran, ends⟩

/-- Of two runs of steps from scenes that are the same below the root, the second is refused at a step
that the first comes to as well; by induction on the steps up to that one.
-/
theorem Pipeline.runSteps_refused (paths : TargetPaths top targets) (steps : List Step)
    (within : ∀ step ∈ steps, ∀ path ∈ step.targets, path ∈ targets)
    (fixed : setup.collaborators.TemplatesFixed) (quiet : setup.Quiet base root top targets)
    (plain : one.workspace = ⟨root, false, []⟩) (plain' : two.workspace = ⟨root, false, []⟩)
    (settled : Settled base root top targets one.files)
    (settled' : Settled base root top targets two.files) (state : two.state = one.state)
    (same : SameBelow root top one.files two.files) {outcome : Except RunFault RunReport}
    (ran : (runSteps setup options steps).run.run one = (outcome, after))
    (well : ∀ fault, faultOf? outcome = some fault → ¬ fault.IsCommand ∧ ¬ fault.IsRefusal)
    (ran' : (runSteps setup options steps).run.run two
      = (.error (.checkpointFailed name failure), halted))
    (unrecorded : name ∉ halted.state.completed)
    (idle : ∀ step ∈ steps, step.name = name → step.IdleOn setup.collaborators options top halted)
    : Scene.Refused setup options base root top targets steps (faultOf? outcome) after halted := by
  induction steps generalizing one two outcome with
  | nil => cases ran'
  | cons step rest ih =>
      rw [List.forall_mem_cons] at within idle
      obtain ⟨_, status, middle, history, goes⟩ := runSteps_goesOn (by rw [plain]) ran
      obtain ⟨_, status', middle', history', goes'⟩ := runSteps_goesOn (by rw [plain']) ran'
      have alike : step.AttemptedAlike setup options root top one two :=
        step.attempt_congr paths within.1 fixed settled plain plain' same
      have course := history.course paths within.1 quiet settled plain
        fun fault failed => (well fault (goes.fault fault failed)).2
      generalize ends : (Except.error (.checkpointFailed name failure) : Except RunFault RunReport)
        = result at goes'
      cases goes' with
      | halts fault =>
          cases ends
          obtain ⟨attempt, first, second, attempted₁, attempted₂, -, same'⟩ := alike
          obtain ⟨due', failed | ⟨rfl, state', settled₂, stage, written, committed, attempted, left⟩⟩ :=
            history'.refused paths within.1 quiet settled' plain' unrecorded
          · -- What cannot be attempted in one of the scenes cannot be attempted in the other.
            cases attempted₂.symm.trans failed
            cases course with
            | skipped skips => exact absurd (skips.symm.trans (state ▸ due')) (by simp)
            | failed _ attempted =>
                cases attempted.symm.trans attempted₁
                exact absurd trivial (well _ (goes.fault _ rfl)).2
            | halted _ attempted | applied _ attempted => cases attempted.symm.trans attempted₁
          · cases attempted₂.symm.trans attempted
            exact ⟨[], step, rest, one, outcome, rfl, by simp,
              { plain := plain
                plain' := history'.keeps.1.trans plain'
                settled := settled
                settled' := settled₂
                state := state'.trans state
                due := state ▸ due'
                attempted := ⟨stage, written, first, attempted₁, same'.trans left⟩
                idle := idle.1 rfl }, ran, rfl⟩
      | passes later' =>
          have course' := history'.course paths within.1 quiet settled' plain' nofun
          rcases course.endsAlike (fun fault failed => (well fault (goes.fault fault failed)).1) course'
              state alike (.inr same) with
            ⟨rfl, state', same'⟩ | ⟨_, _, _, _, failed, -⟩
          · have failed := (congrArg faultOf? ends).symm
            rw [faultOf?_map] at failed
            obtain rfl := eq_of_faultOf? failed
            cases goes with
            | passes later =>
                simp only [faultOf?_map] at well ⊢
                have next : Scene.Replaces setup options base root top targets rest middle middle' :=
                  .next paths within.1 quiet plain plain' settled settled' history history' state' same'
                obtain ⟨done, step', left, start, outcome, split, skips, precedes, ended, found⟩ :=
                  ih within.2 next.plain next.plain' next.settled next.settled' state' same' later well
                    later' idle.2
                refine ⟨step :: done, step', left, start, outcome, by rw [split, List.cons_append],
                  List.forall_mem_cons.mpr ⟨?_, skips⟩, precedes, ended, found⟩
                exact Step.skip?_runSteps course'.skips (by rw [next.plain']) later'
          · cases failed

/-- Running the steps again where one of them was refused ends as the run that was not refused, unless a
command or a checkpoint fails: the steps before are passed over, the refused one writes nothing, and
those after it are run alike.
-/
theorem Scene.Refused.run {fault? : Option RunFault} {ended : Scene σ}
    (refused : Scene.Refused setup options base root top targets steps fault? ended one)
    (paths : TargetPaths top targets)
    (within : ∀ step ∈ steps, ∀ path ∈ step.targets, path ∈ targets)
    (fixed : setup.collaborators.TemplatesFixed) (quiet : setup.Quiet base root top targets)
    (well : ∀ fault, fault? = some fault → ¬ fault.IsCommand ∧ ¬ fault.IsRefusal)
    {result : Except RunFault RunReport}
    (ran : (Pipeline.runSteps setup options steps).run.run one = (result, last))
    (well' : ∀ fault, faultOf? result = some fault → ¬ fault.IsCommand ∧ ¬ fault.IsRefusal)
    : Scene.EndsAlike root top fault? (faultOf? result) ended last := by
  obtain ⟨done, step, rest, middle, outcome, rfl, skips, precedes, runs, rfl⟩ := refused
  rcases ran' : (Pipeline.runSteps setup options (step :: rest)).run.run one with ⟨result', last'⟩
  rw [Pipeline.runSteps_skip setup skips, ran'] at ran
  cases ran
  rw [faultOf?_map] at well' ⊢
  have inner : ∀ path ∈ step.targets, path ∈ targets := within step (by simp)
  obtain ⟨_, status, start, history, goes⟩ := Pipeline.runSteps_goesOn (by rw [precedes.plain]) runs
  obtain ⟨_, status', start', history', goes'⟩ :=
    Pipeline.runSteps_goesOn (by rw [precedes.plain']) ran'
  have course := history.course paths inner quiet precedes.settled precedes.plain
    fun fault failed => (well fault (goes.fault fault failed)).2
  have course' := history'.course paths inner quiet precedes.settled' precedes.plain'
    fun fault failed => (well' fault (goes'.fault fault failed)).2
  obtain ⟨found, found', rfl, rfl, state, same⟩ := precedes.applied paths inner fixed course
    (fun fault failed => (well fault (goes.fault fault failed)).1) course'
    fun fault failed => (well' fault (goes'.fault fault failed)).1
  have next : Scene.Replaces setup options base root top targets rest start start' :=
    .next paths inner quiet precedes.plain precedes.plain' precedes.settled precedes.settled' history
      history' state same
  obtain _ | later := goes
  obtain _ | later' := goes'
  simp only [faultOf?_map] at well well' ⊢
  rcases Pipeline.runSteps_resumes paths rest (fun other member => within other (by simp [member]))
      fixed quiet next later well later' (fun fault failed => (well' fault failed).2) with
    ends | ⟨⟨fault, failed, command⟩, -⟩
  · exact ends
  · exact absurd command (well' fault failed).1

-----------------------------------------------------------------------------------------
-- Runs of a pipeline that are made again
-----------------------------------------------------------------------------------------

/-- A run that was refused the checkpoint of a step, and is made again with the run state that it left
and with a checkpoint that is accepted, ends as a run that was not refused: with the same fault or
none, the same tree below the root and the same completed steps. For this the edits of the refused
step, made once more to the files that it left, must leave these as they are.
-/
theorem Pipeline.run_again {pipeline : Pipeline} {start halted again once finished ended : Scene σ}
    (sound : pipeline.flaws = []) (spelled : ∀ path ∈ pipeline.targets, path.IsSpelled)
    (apart : ∀ path ∈ pipeline.targets, ∀ other ∈ pipeline.targets, path.names ≠ [] →
      ¬ beside (top ++ path.names) <+: top ++ other.names)
    (plain : start.workspace = ⟨root, false, []⟩)
    (own : start.state.pipeline = pipeline.name)
    (settled : Settled start.files.base root top pipeline.targets start.files)
    (fixed : setup.collaborators.TemplatesFixed)
    (quiet : setup.Quiet start.files.base root top pipeline.targets)
    (refused : (pipeline.run setup).run.run start = (.error (.checkpointFailed name failure), halted))
    (unrecorded : name ∉ halted.state.completed)
    (idle : ∀ step ∈ pipeline.steps, step.name = name →
      step.IdleOn setup.collaborators (Dictionary.layer pipeline.options setup.options) top halted)
    (workspace : again.workspace = halted.workspace) (state : again.state = halted.state)
    (same : SameBelow root top halted.files again.files) {outcome result : Except RunFault RunReport}
    (ran : (pipeline.run setup).run.run again = (result, finished))
    (succeeds : ∀ fault, result = .error fault → ¬ fault.IsCommand ∧ ¬ fault.IsRefusal)
    (workspaceOnce : once.workspace = start.workspace) (stateOnce : once.state = start.state)
    (sameOnce : SameBelow root top start.files once.files)
    (ranOnce : (pipeline.run setup).run.run once = (outcome, ended))
    (succeedsOnce : ∀ fault, outcome = .error fault → ¬ fault.IsCommand ∧ ¬ fault.IsRefusal)
    : faultOf? result = faultOf? outcome
      ∧ (∀ place, top <+: place → finished.files.node? place = ended.files.node? place)
      ∧ finished.state.completed = ended.state.completed := by
  have paths : TargetPaths top pipeline.targets := ⟨fault?_of_flaws sound, spelled, apart⟩
  have well (fault : RunFault) (failed : faultOf? outcome = some fault) :=
    succeedsOnce fault (eq_of_faultOf? failed)
  have well' (fault : RunFault) (failed : faultOf? result = some fault) :=
    succeeds fault (eq_of_faultOf? failed)
  rw [run_eq setup sound own] at refused
  rw [run_eq setup sound (stateOnce ▸ own)] at ranOnce
  obtain ⟨_, _, _, halts, history, -⟩ := runSteps_history setup
    (Dictionary.layer pipeline.options setup.options) pipeline.steps
    (show start.workspace.dryRun = false by rw [plain])
  cases halts.symm.trans refused
  have own' : again.state.pipeline = pipeline.name := by
    rw [state, history.completed.1]
    exact own
  rw [run_eq setup sound own'] at ran
  have left := runSteps_refused paths pipeline.steps pipeline.within_targets fixed quiet
    (workspaceOnce.trans plain) plain (settled.sameBelow paths sameOnce) settled stateOnce.symm
    sameOnce.symm ranOnce well refused unrecorded idle
  have ends := (left.sameBelow paths fixed workspace state same).run paths pipeline.within_targets
    fixed quiet well ran well'
  exact ⟨ends.outcome, ends.same.node, by rw [ends.state]⟩

/-- A pipeline that writes a file and then replaces a word in it. -/
def Pipeline.replacing (replacement : String) : Pipeline where
  name := "notes"
  steps :=
    [{ name := "write", mutations := [.writeNew ⟨"a", []⟩ "one"] },
      { name := "change",
        mutations := [.replace ⟨"a", []⟩ (.literal "one") replacement false false] }]

/-- Collaborators that do nothing, and accept the checkpoint of the second step only if they are to. -/
def Collaborators.reluctant : Collaborators Bool where
  command _ _ := pure ⟨some 0, ""⟩
  checkpoint message := ExceptT.mk fun surroundings =>
    (if surroundings.outside || message != "change" then .ok () else .error (.ofMessage "refused"),
      surroundings)
  template name _ accepting := (.error (.ofMessage name), accepting)

/-- An empty tree and collaborators that accept all checkpoints or refuse one. -/
def Scene.reluctant (accepting : Bool) : Scene Bool where
  workspace := ⟨⟨"", [""]⟩, false, []⟩
  state := ⟨"notes", ⟨"", [""]⟩, []⟩
  surroundings := ⟨.empty, accepting⟩

/-- The scene when checkpoints have come to be accepted. -/
def Scene.accepting (scene : Scene Bool) : Scene Bool :=
  { scene with surroundings := { scene.surroundings with outside := true } }

/-- A run that was refused after a word was replaced by another one ends, made again, as one that was not
refused.
-/
theorem Pipeline.run_again_replacing
    : ∃ failure halted result finished outcome ended,
        ((replacing "two").run { collaborators := .reluctant }).run.run (.reluctant false)
          = (.error (.checkpointFailed "change" failure), halted)
        ∧ ((replacing "two").run { collaborators := .reluctant }).run.run halted.accepting
          = (result, finished)
        ∧ ((replacing "two").run { collaborators := .reluctant }).run.run (.reluctant true)
          = (outcome, ended)
        ∧ faultOf? result = faultOf? outcome
        ∧ finished.files.content? ["a"] = ended.files.content? ["a"]
        ∧ finished.state.completed = ended.state.completed := by
  let setup : RunSetup Bool := { collaborators := .reluctant }
  have fails : faultOf? (((replacing "two").run setup).run.run (.reluctant false)).1
      = some (.checkpointFailed "change" (.ofMessage "refused")) := by
    decide +kernel
  have facts : "change" ∉ (((replacing "two").run setup).run.run (.reluctant false)).2.state.completed
      ∧ (((replacing "two").run setup).run.run (.reluctant false)).2.files.content? ["a"] = some "two".toUTF8
      ∧ faultOf? (((replacing "two").run setup).run.run
          (((replacing "two").run setup).run.run (.reluctant false)).2.accepting).1 = none
      ∧ faultOf? (((replacing "two").run setup).run.run (.reluctant true)).1 = none := by
    decide +kernel
  rcases refused : ((replacing "two").run setup).run.run (.reluctant false) with ⟨failed, halted⟩
  rw [refused] at fails facts
  obtain rfl := eq_of_faultOf? fails
  obtain ⟨unrecorded, held, passes, passesOnce⟩ := facts
  rcases ran : ((replacing "two").run setup).run.run halted.accepting with ⟨result, finished⟩
  rcases ranOnce : ((replacing "two").run setup).run.run (.reluctant true) with ⟨outcome, ended⟩
  rw [ran] at passes
  rw [ranOnce] at passesOnce
  have targets : (replacing "two").targets = [⟨"a", []⟩, ⟨"a", []⟩] := rfl
  have spelled : ∀ path ∈ (replacing "two").targets, path.IsSpelled := by
    simp only [targets, List.forall_mem_cons]
    exact ⟨⟨"a", by decide⟩, ⟨"a", by decide⟩, by simp⟩
  have apart : ∀ path ∈ (replacing "two").targets, ∀ other ∈ (replacing "two").targets,
      path.names ≠ [] → ¬ beside ([] ++ path.names) <+: [] ++ other.names := by
    decide +kernel
  have plain : (Scene.reluctant false).workspace = ⟨⟨"", [""]⟩, false, []⟩ := rfl
  have own : (Scene.reluctant false).state.pipeline = (replacing "two").name := rfl
  have settled : Settled (Scene.reluctant false).files.base ⟨"", [""]⟩ [] (replacing "two").targets
      (Scene.reluctant false).files :=
    .empty _
  have quiet : setup.Quiet (Scene.reluctant false).files.base ⟨"", [""]⟩ [] (replacing "two").targets :=
    ⟨fun _ _ => .refl _, fun _ _ => .refl _, nofun⟩
  have idle : ∀ step ∈ (replacing "two").steps, step.name = "change" →
      step.IdleOn .reluctant (Dictionary.layer [] []) [] halted := by
    rw [replacing, List.forall_mem_cons, List.forall_mem_singleton]
    refine ⟨fun same => absurd same (by decide), fun _ edits asked resolved path member => ?_⟩
    obtain rfl : path = ⟨"a", []⟩ := List.mem_singleton.mp member
    obtain rfl : [.replace (.literal "one") "two" false] = edits :=
      Except.ok.inj (congrArg Prod.fst resolved)
    rw [show [] ++ (Path.mk "a" []).names = ["a"] from rfl, held]
    decide +kernel
  have onTree : halted.accepting.workspace = halted.workspace := rfl
  have kept : halted.accepting.state = halted.state := rfl
  have same : SameBelow ⟨"", [""]⟩ [] halted.files halted.accepting.files := .refl _
  have onTreeOnce : (Scene.reluctant true).workspace = (Scene.reluctant false).workspace := rfl
  have keptOnce : (Scene.reluctant true).state = (Scene.reluctant false).state := rfl
  have sameOnce : SameBelow ⟨"", [""]⟩ [] (Scene.reluctant false).files (Scene.reluctant true).files :=
    .refl _
  obtain ⟨fault, nodes, completed⟩ := run_again (by decide) spelled apart plain own settled
    (fun _ _ _ _ _ => rfl) quiet refused unrecorded idle onTree kept same ran
    (of_faultOf?_none passes _) onTreeOnce keptOnce sameOnce ranOnce (of_faultOf?_none passesOnce _)
  refine ⟨.ofMessage "refused", halted, result, finished, outcome, ended, rfl, ran, rfl, fault, ?_,
    completed⟩
  rw [Files.content?, Files.content?, nodes ["a"] List.nil_prefix]

/-- A word that is replaced by a longer one with the word in it is replaced twice if the run is refused
and made again.
-/
theorem Pipeline.replacing_twice
    : ∃ failure halted finished ended report record,
        ((replacing "ones").run { collaborators := .reluctant }).run.run (.reluctant false)
          = (.error (.checkpointFailed "change" failure), halted)
        ∧ "change" ∉ halted.state.completed
        ∧ ((replacing "ones").run { collaborators := .reluctant }).run.run halted.accepting
          = (.ok report, finished)
        ∧ finished.files.content? ["a"] = some "oness".toUTF8
        ∧ ((replacing "ones").run { collaborators := .reluctant }).run.run (.reluctant true)
          = (.ok record, ended)
        ∧ ended.files.content? ["a"] = some "ones".toUTF8 := by
  let run := ((replacing "ones").run { collaborators := .reluctant }).run.run
  have fails : faultOf? (run (.reluctant false)).1
      = some (.checkpointFailed "change" (.ofMessage "refused")) := by
    decide +kernel
  have facts : "change" ∉ (run (.reluctant false)).2.state.completed
      ∧ (run (run (.reluctant false)).2.accepting).1.toOption.isSome
      ∧ (run (run (.reluctant false)).2.accepting).2.files.content? ["a"] = some "oness".toUTF8
      ∧ (run (.reluctant true)).1.toOption.isSome
      ∧ (run (.reluctant true)).2.files.content? ["a"] = some "ones".toUTF8 := by
    decide +kernel
  rcases refused : run (.reluctant false) with ⟨outcome, halted⟩
  rw [refused] at fails facts
  obtain rfl := eq_of_faultOf? fails
  obtain ⟨unrecorded, passes, twice, passesOnce, onlyOnce⟩ := facts
  rcases ran : run halted.accepting with ⟨fault | report, finished⟩ <;> rw [ran] at passes twice
  · cases passes
  rcases ranOnce : run (.reluctant true) with ⟨fault | record, ended⟩ <;>
    rw [ranOnce] at passesOnce onlyOnce
  · cases passesOnce
  exact ⟨_, halted, finished, ended, report, record, refused, unrecorded, ran, twice, ranOnce, onlyOnce⟩

end Groundwork
