import Groundwork.Proofs.Run.Course
import Groundwork.Proofs.Workspace.Rehearsal

/-!
Dry runs. They change nothing but the contents that they keep beside the tree, and tell what a run on
the tree does: which steps it passes over or applies, which files it changes, how it ends, and what
its targets hold then.
-/

namespace Groundwork

open Files Path Workspace

variable {σ τ : Type} {view : σ → τ} {base : Location} {root : Path} {top : Location}
  {targets : List Path} {setup : RunSetup σ} {options : Options} {step : Step} {steps : List Step}
  {one two before after last : Scene σ}

-----------------------------------------------------------------------------------------
-- Dry runs on their own
-----------------------------------------------------------------------------------------

/-- The scene with another workspace, after templates were looked up. -/
def Scene.rehearsing (collaborators : Collaborators σ) (scene : Scene σ) (names : List String)
    (workspace : Workspace)
    : Scene σ :=
  { scene.consulting collaborators names with workspace }

theorem Scene.rehearsing_rehearsing (collaborators : Collaborators σ) (scene : Scene σ)
    (first second : List String) (workspace later : Workspace)
    : (scene.rehearsing collaborators first workspace).rehearsing collaborators second later
      = scene.rehearsing collaborators (first ++ second) later := by
  rw [Scene.rehearsing, Scene.rehearsing, Scene.rehearsing, ← Scene.consulting_append]
  rfl

/-- What comes of a dry step once it is worked out. -/
def Scene.plan (collaborators : Collaborators σ) (scene : Scene σ) (names : List String)
    : Except RunFault Stage → Except RunFault StepStatus × Scene σ
  | .error fault => (.error fault, scene.consulting collaborators names)
  | .ok stage =>
      (.ok (.planned stage.changedPaths),
        scene.rehearsing collaborators names (scene.workspace.lay stage.changed))

/-- A dry step that is due is planned once it is worked out. -/
theorem Step.run_dry (due : step.skip? options one.state = none)
    (dry : one.workspace.dryRun = true) {outcome : Except RunFault Stage} {names : List String}
    (staged : (step.stageMutations setup.collaborators options).run.run one
      = (outcome, one.consulting setup.collaborators names))
    : (step.run setup options).run.run one = one.plan setup.collaborators names outcome := by
  rw [Step.run_eq_skip?, due]
  simp only [applyStep, run_bind, staged]
  cases outcome with
  | error fault => rfl
  | ok stage =>
      have commits := step.run_commit_dry stage
        (show (one.consulting setup.collaborators names).workspace.dryRun = true from dry)
      have kept : (one.workspace.lay stage.changed).dryRun = true := dry
      simp only [commits, RunAction.run_getScene]
      change (if (one.workspace.lay stage.changed).dryRun = true then _ else _
        : RunAction σ StepStatus).run.run _ = _
      rw [if_pos kept]
      rfl

/-- A dry run looks up templates and keeps contents beside the tree, and does nothing else; by
induction on the steps.
-/
theorem Pipeline.runSteps_dry (setup : RunSetup σ) (options : Options) (steps : List Step)
    (dry : one.workspace.dryRun = true)
    : ∃ outcome names overlay,
        (runSteps setup options steps).run.run one
          = (outcome, one.rehearsing setup.collaborators names { one.workspace with overlay }) := by
  induction steps generalizing one with
  | nil => exact ⟨_, [], one.workspace.overlay, rfl⟩
  | cons step rest ih =>
      rw [runSteps_cons]
      cases skips : step.skip? options one.state with
      | some reason =>
          obtain ⟨outcome, names, overlay, later⟩ := ih dry
          rw [Step.run_eq_skip?, skips]
          simp only [later]
          exact ⟨_, names, overlay, rfl⟩
      | none =>
          obtain ⟨staging, names, staged, -⟩ :=
            step.stageMutations_consulting setup.collaborators options one
          rw [Step.run_dry skips dry staged]
          cases staging with
          | error fault => exact ⟨_, names, one.workspace.overlay, rfl⟩
          | ok stage =>
              obtain ⟨outcome, more, overlay, later⟩ := @ih
                (one.rehearsing setup.collaborators names (one.workspace.lay stage.changed)) dry
              refine ⟨outcome.map (⟨step.name, .planned stage.changedPaths⟩ :: ·), names ++ more,
                overlay, ?_⟩
              simp only [Scene.plan, later, Scene.rehearsing_rehearsing]
              rfl

-----------------------------------------------------------------------------------------
-- Runs that a dry run foresees
-----------------------------------------------------------------------------------------

/-- Commands and checkpoints that succeed, and leave alone what templates depend on. -/
structure RunSetup.Obliging (setup : RunSetup σ) (root : Path) (view : σ → τ) : Prop where
  commands : ∀ line surroundings,
    ∃ exit after,
      (setup.collaborators.command root line).run.run surroundings = (.ok exit, after)
      ∧ exit.succeeded = true
      ∧ view after.outside = view surroundings.outside
  checkpoints : ∀ message surroundings,
    ∃ after,
      (setup.collaborators.checkpoint message).run.run surroundings = (.ok (), after)
      ∧ view after.outside = view surroundings.outside

/-- The file of the run state, and the new file that is written first, are apart from all targets. -/
def RunSetup.SavesApart (setup : RunSetup σ) (base top : Location) (targets : List Path) : Prop :=
  ∀ path, setup.statePath = some path → ∀ files : Files, files.base = base → ∀ target ∈ targets,
    ¬ files.OnWay path (top ++ target.names)
    ∧ ¬ files.locate path <+: top ++ target.names
    ∧ ¬ files.locate (RunState.temporaryPath path) <+: top ++ target.names

/-- Whatever a step does after staging leaves alone what templates depend on; by induction on the
events.
-/
theorem Unfolds.keeps_view (obliging : setup.Obliging root view) (rooted : before.workspace.root = root)
    {events : List RunEvent} (unfolds : Unfolds setup options step before events after)
    (later : ∀ outcome, RunEvent.staged outcome ∉ events)
    : view after.surroundings.outside = view before.surroundings.outside := by
  induction unfolds with
  | nil scene => rfl
  | @cons before middle after event events head rest ih =>
      have kept : middle.workspace.root = root := by rw [head.keeps.1, rooted]
      refine (ih kept fun outcome member => later outcome (List.mem_cons_of_mem _ member)).trans ?_
      cases event with
      | staged outcome => exact absurd List.mem_cons_self (later outcome)
      | committed stage outcome | saved path outcome =>
          obtain ⟨files, -, rfl⟩ := head
          rfl
      | undone written =>
          obtain ⟨_, files, -, rfl⟩ := head
          rfl
      | recorded name =>
          obtain ⟨-, rfl⟩ := head
          rfl
      | ran line answer =>
          obtain ⟨surroundings, ran, rfl⟩ := head
          rw [rooted] at ran
          obtain ⟨exit, after, ran', -, same⟩ := obliging.commands line before.surroundings
          cases ran.symm.trans ran'
          exact same
      | checkpointed message answer =>
          obtain ⟨surroundings, asked, rfl⟩ := head
          obtain ⟨after, asked', same⟩ := obliging.checkpoints message before.surroundings
          cases asked.symm.trans asked'
          exact same

/-- The events of a step start with its staging, and only with it; by cases on how they end. -/
theorem StepEvents.staged_first {statePath : Option Path} {events : List RunEvent}
    {outcome : Except RunFault StepStatus} (order : StepEvents step statePath events outcome)
    : ∃ staged rest,
        events = .staged staged :: rest ∧ ∀ other, RunEvent.staged other ∉ rest := by
  have ran (exits : List (String × CommandExit)) (other : Except RunFault Stage)
      : RunEvent.staged other ∉ exits.map RunEvent.succeeded := by
    simp [RunEvent.succeeded]
  cases order with
  | unstaged | uncommitted => exact ⟨_, _, rfl, by simp⟩
  | stopped | refused | unsaved => exact ⟨_, _, rfl, by simp [ran]⟩
  | applied => exact ⟨_, _, rfl, by cases statePath <;> simp [ran]⟩

/-- What templates depend on is the same after a step as after it was staged. -/
theorem StepHistory.keeps_view (obliging : setup.Obliging root view)
    (rooted : before.workspace.root = root) {events : List RunEvent}
    {outcome : Except RunFault StepStatus}
    (history : StepHistory setup options step before events outcome after)
    (due : step.skip? options before.state = none) {staged : Except RunFault Stage}
    (stages : (step.stageMutations setup.collaborators options).run.run before = (staged, one))
    : view after.surroundings.outside = view one.surroundings.outside := by
  cases history with
  | completed done => simp [Step.skip?, RunState.isCompleted, done] at due
  | guarded open_ off => simp [Step.skip?, RunState.isCompleted, open_, off] at due
  | handled _ _ effects order =>
      obtain ⟨found, rest, rfl, later⟩ := order.staged_first
      cases effects with
      | cons head effects =>
          obtain ⟨ran, names, -, rfl⟩ := head
          cases ran.symm.trans stages
          exact effects.keeps_view obliging rooted later

/-- Saving the run state leaves a tree that is foreseen as it was. -/
theorem RunSetup.Saves.foreseen {start tree files : Files}
    {overlay : Dictionary PathKey ByteArray} {state : RunState}
    (saves : setup.Saves state tree files) (apart : setup.SavesApart base top targets)
    (ground : tree.Grounded root top) (based : tree.base = base)
    (holds : Foreseen start tree overlay root top targets)
    : Foreseen start files overlay root top targets := by
  unfold RunSetup.Saves at saves
  cases kept : setup.statePath with
  | none =>
      simp only [kept] at saves
      exact saves ▸ holds
  | some path =>
      simp only [kept] at saves
      obtain ⟨parent, middle, found, made, -, -, -, nodes⟩ := RunState.write_ok ground saves
      obtain ⟨-, -, same⟩ := RunState.write_frame ground saves
      have apart (target : Path) (member : target ∈ targets) := apart path kept tree based target member
      refine holds.change (fun target member => ?_) fun target member way within => ?_
      · obtain ⟨off, -, offTemporary⟩ := apart target member
        have other : top ++ target.names ≠ tree.locate (RunState.temporaryPath path) := by
          intro here
          exact offTemporary (here ▸ List.prefix_rfl)
        exact same _ (not_or.mpr ⟨off, other⟩)
      · obtain ⟨-, offFile, offTemporary⟩ := apart target member
        have above : top ++ way <+: top ++ target.names :=
          (List.prefix_append_right_inj top).mpr within
        have notFile : top ++ way ≠ tree.locate path := fun here => offFile (here ▸ above)
        have notTemporary : top ++ way ≠ tree.locate (RunState.temporaryPath path) :=
          fun here => offTemporary (here ▸ above)
        rw [LikeAt, nodes, if_neg notFile, if_neg notTemporary]
        have grows := (ground.makeDirectories parent).1.node (top ++ way)
        rw [made] at grows
        exact grows.imp_right fun grown => .inl ⟨grown.1, grown.2.1⟩

-----------------------------------------------------------------------------------------
-- Steps side by side
-----------------------------------------------------------------------------------------

/-- What a dry run reports of a step that a run on the tree reports so. -/
def StepStatus.rehearsed : StepStatus → StepStatus
  | .applied files _ => .planned files
  | status => status

/-- What a dry run reports where a run on the tree reports so. -/
def RunReport.rehearsed (report : RunReport) : RunReport :=
  report.map fun step => { step with status := step.status.rehearsed }

/-- The first scene is one of a dry run that keeps beside its tree what the second scene holds. -/
structure Scene.Rehearses (view : σ → τ) (base : Location) (root : Path) (top : Location)
    (targets : List Path) (one two : Scene σ)
    : Prop where
  dry : one.workspace.dryRun = true
  rooted : one.workspace.root = root
  plain : two.workspace = ⟨root, false, []⟩
  ground : one.files.Grounded root top
  settled : Settled base root top targets two.files
  foreseen : Foreseen one.files two.files one.workspace.overlay root top targets
  view : view one.surroundings.outside = view two.surroundings.outside

theorem Scene.Rehearses.read (rehearses : Scene.Rehearses view base root top targets one two)
    (foreseen : ForeseenTargets root targets) {path : Path} (member : path ∈ targets)
    : one.workspace.read one.files path = two.workspace.read two.files path := by
  obtain ⟨-, rfl, plain, ground, settled, holds, -⟩ := rehearses
  rw [plain]
  exact holds.read foreseen ground settled.ground member

/-- A step that is worked out on the tree is worked out in the same way by a dry run. -/
theorem Scene.Rehearses.staged (rehearses : Scene.Rehearses view base root top targets one two)
    (options : Options) (foreseen : ForeseenTargets root targets)
    (within : ∀ path ∈ step.targets, path ∈ targets)
    (shows : setup.collaborators.TemplatesShow view)
    : ∃ outcome names,
        (step.stageMutations setup.collaborators options).run.run one
          = (outcome, one.consulting setup.collaborators names)
        ∧ (step.stageMutations setup.collaborators options).run.run two
          = (outcome, two.consulting setup.collaborators names)
        ∧ Scene.Rehearses view base root top targets (one.consulting setup.collaborators names)
          (two.consulting setup.collaborators names) := by
  have alike : Scene.StagesAlike view step.targets two one :=
    ⟨rehearses.view.symm, fun path member => rehearses.read foreseen (within path member)⟩
  obtain ⟨outcome, names, staged, staged'⟩ :=
    step.stageMutations_congr alike shows options fun _ => id
  exact ⟨outcome, names, staged', staged, rehearses.dry, rehearses.rooted, rehearses.plain,
    rehearses.ground, rehearses.settled, rehearses.foreseen, (alike.consulting shows names).view.symm⟩

/-- What a step stages on the tree can be committed, and a dry commit keeps what is written then. -/
theorem Scene.Rehearses.commits (rehearses : Scene.Rehearses view base root top targets one two)
    (paths : TargetPaths top targets) (foreseen : ForeseenTargets root targets)
    (within : ∀ path ∈ step.targets, path ∈ targets) {stage : Stage}
    (holds : stage.Holds ⟨root, false, []⟩ two.files step.targets)
    : ∃ tree,
        ((Workspace.mk root false []).commit stage).run.run two.files
          = (.ok (⟨root, false, []⟩, writtenOf stage.changed), tree)
        ∧ tree.base = base
        ∧ tree.Grounded root top
        ∧ Foreseen one.files tree (one.workspace.lay stage.changed).overlay root top targets := by
  obtain ⟨whole, own⟩ := rehearses.settled.changed paths within holds
  have members (file : StagedFile) (member : file ∈ stage.changed) : file.path ∈ targets :=
    within _ (own file member)
  have reads (file : StagedFile) (member : file ∈ stage.changed)
      : (Workspace.mk root false []).read two.files file.path = .ok file.loaded := by
    obtain ⟨⟨key, _⟩, entry, rfl⟩ := List.mem_map.mp (List.mem_filter.mp member).1
    exact holds.loaded _ entry
  have ready := foreseen.ready rehearses.settled.ground whole members reads holds.distinct
  let workspace : Workspace := ⟨root, false, []⟩
  obtain ⟨tree, ran⟩ := @commit_of_ready _ _ workspace rfl _ rehearses.settled.ground whole ready
  obtain ⟨committed, -⟩ := @committed_of_commit _ _ _ workspace _ rfl _ rehearses.settled.ground whole _ ran
  exact ⟨tree, ran, committed.base.trans rehearses.settled.base, committed.ground,
    rehearses.foreseen.commit foreseen members holds.distinct ready whole committed⟩

/-- A dry run takes a step as a run on the tree does, unless the checkpoint fails there; by cases on
the course of the step.
-/
theorem StepHistory.rehearsed (paths : TargetPaths top targets)
    (foreseen : ForeseenTargets root targets) (within : ∀ path ∈ step.targets, path ∈ targets)
    (shows : setup.collaborators.TemplatesShow view) (obliging : setup.Obliging root view)
    (quiet : setup.Quiet base root top targets) (apart : setup.SavesApart base top targets)
    (rehearses : Scene.Rehearses view base root top targets one two)
    (skips : step.skip? options one.state = step.skip? options two.state)
    {events : List RunEvent} {outcome : Except RunFault StepStatus}
    (history : StepHistory setup options step two events outcome after)
    (accepted : ∀ fault, outcome = .error fault → ¬ fault.IsRefusal)
    : ∃ dry,
        (step.run setup options).run.run one = (outcome.map StepStatus.rehearsed, dry)
        ∧ dry.state = one.state
        ∧ Scene.Rehearses view base root top targets dry after := by
  obtain ⟨staging, names, staged, staged', next⟩ :=
    rehearses.staged options foreseen within shows
  have attempts {stage : Stage} (same : staging = .ok stage)
      : ∃ tree,
          (step.attempt setup options).run.run two
            = (.ok (stage, writtenOf stage.changed),
                (two.consulting setup.collaborators names).withFiles tree)
          ∧ tree.base = base
          ∧ tree.Grounded root top
          ∧ Foreseen one.files tree (one.workspace.lay stage.changed).overlay root top targets := by
    subst same
    have holds := step.stageMutations_holds staged'
    rw [rehearses.plain] at holds
    obtain ⟨tree, commits, based, ground, kept⟩ := next.commits paths foreseen within holds
    let asked := two.consulting setup.collaborators names
    have commits' : (asked.workspace.commit stage).run.run asked.files
        = ((Except.ok (writtenOf stage.changed)).map (asked.workspace, ·), tree) := by
      rw [show asked.workspace = ⟨root, false, []⟩ from next.plain]
      exact commits
    exact ⟨tree, Step.run_attempt staged' commits', based, ground, kept⟩
  cases history.course paths within quiet rehearses.settled rehearses.plain accepted with
  | skipped skips' =>
      rw [skips'] at skips
      exact ⟨one, by rw [Step.run_eq_skip?, skips]; rfl, rfl, rehearses⟩
  | failed due attempted =>
      cases staging with
      | error fault =>
          simp only [Step.attempt, run_bind, staged'] at attempted
          cases attempted
          exact ⟨_, Step.run_dry (skips.trans due) rehearses.dry staged, rfl, next⟩
      | ok stage =>
          obtain ⟨tree, passed, -⟩ := attempts rfl
          cases passed.symm.trans attempted
  | halted due attempted fails =>
      obtain ⟨exit, later, ran, good, -⟩ := obliging.commands _ _
      rw [ran] at fails
      simp [Step.commandFault?, good] at fails
  | applied due attempted state same saves =>
      cases staging with
      | error fault =>
          simp only [Step.attempt, run_bind, staged'] at attempted
          cases attempted
      | ok stage =>
          obtain ⟨tree, passed, based, ground, kept⟩ := attempts rfl
          cases passed.symm.trans attempted
          refine ⟨_, Step.run_dry (skips.trans due) rehearses.dry staged, rfl, rehearses.dry,
            rehearses.rooted, history.keeps.1.trans rehearses.plain, rehearses.ground,
            (history.settled paths within (quiet.leavesTargets paths) rehearses.settled
              rehearses.plain).1, ?_, ?_⟩
          · exact saves.foreseen apart (same.grounded ground) (same.base.trans based)
              (kept.sameBelow same)
          · rw [history.keeps_view obliging (by rw [rehearses.plain]) due staged']
            exact next.view

-----------------------------------------------------------------------------------------
-- Runs side by side
-----------------------------------------------------------------------------------------

/-- Steps of an accepted pipeline have names of their own. -/
theorem Pipeline.names_of_flaws {pipeline : Pipeline} (sound : pipeline.flaws = [])
    : (pipeline.steps.map (·.name)).Nodup :=
  (flaws_eq_nil_iff.mp sound).distinct

/-- Whether a step is passed over depends on nothing of a run state but whether it has the step. -/
theorem Step.skip?_congr {state other : RunState}
    (same : step.name ∈ state.completed ↔ step.name ∈ other.completed)
    : step.skip? options state = step.skip? options other := by
  simp only [skip?, RunState.isCompleted, List.contains_iff_mem, same]

/-- A dry run of steps ends as a run on the tree does, unless a checkpoint fails there; by induction
on the steps, which have names of their own, so that no step is passed over for having been applied
in the same run.
-/
theorem Pipeline.runSteps_rehearsed (paths : TargetPaths top targets)
    (foreseen : ForeseenTargets root targets) (steps : List Step)
    (within : ∀ step ∈ steps, ∀ path ∈ step.targets, path ∈ targets)
    (names : (steps.map (·.name)).Nodup)
    (shows : setup.collaborators.TemplatesShow view) (obliging : setup.Obliging root view)
    (quiet : setup.Quiet base root top targets) (apart : setup.SavesApart base top targets)
    (rehearses : Scene.Rehearses view base root top targets one two)
    (completed : ∀ step ∈ steps, step.name ∈ one.state.completed ↔ step.name ∈ two.state.completed)
    {outcome : Except RunFault RunReport}
    (ran : (runSteps setup options steps).run.run two = (outcome, after))
    (accepted : ∀ fault, faultOf? outcome = some fault → ¬ fault.IsRefusal)
    : ∃ dry,
        (runSteps setup options steps).run.run one = (outcome.map RunReport.rehearsed, dry)
        ∧ Scene.Rehearses view base root top targets dry after := by
  induction steps generalizing one two outcome with
  | nil =>
      cases ran
      exact ⟨one, rfl, rehearses⟩
  | cons step rest ih =>
      rw [List.forall_mem_cons] at within completed
      rw [List.map_cons, List.nodup_cons] at names
      obtain ⟨_, status, middle, history, goes⟩ := runSteps_goesOn (by rw [rehearses.plain]) ran
      obtain ⟨dry, planned, state, next⟩ := history.rehearsed paths foreseen within.1 shows obliging
        quiet apart rehearses (Step.skip?_congr completed.1)
        fun fault failed => accepted fault (goes.fault fault failed)
      rw [runSteps_cons, planned]
      cases goes with
      | halts fault => exact ⟨dry, rfl, next⟩
      | @passes _ result _ ended =>
          rw [faultOf?_map] at accepted
          have grown := history.keeps.2
          obtain ⟨-, recorded⟩ := history.accepted
          have same : ∀ other ∈ rest,
              other.name ∈ dry.state.completed ↔ other.name ∈ middle.state.completed := by
            intro other inside
            have different : other.name ≠ step.name := fun same =>
              names.1 (List.mem_map.mpr ⟨other, inside, same⟩)
            rw [state, grown, history.accepted.1, completed.2 other inside]
            rcases recorded with none | one
            · simp [none]
            · simp [one, different]
          obtain ⟨last, later, ends⟩ := ih within.2 names.2 next same ended accepted
          refine ⟨last, ?_, ends⟩
          simp only [Except.map, later]
          cases result <;> rfl

-----------------------------------------------------------------------------------------
-- Dry runs of a pipeline
-----------------------------------------------------------------------------------------

/-- The scene as a dry run finds it. -/
def Scene.asDryRun (scene : Scene σ) : Scene σ :=
  { scene with workspace := { scene.workspace with dryRun := true } }

/-- A pipeline and a setting in which a dry run should foresee a run on the tree. Templates depend on
what a view shows of the collaborators, which commands and checkpoints leave alone, as they do the tree
below the root; they all succeed. Targets are written as usual, none lies above another, and the names
of temporary files and the file of the run state are apart from all of them.
-/
structure Pipeline.Foreseeable (pipeline : Pipeline) (setup : RunSetup σ) (view : σ → τ)
    (root : Path) (top : Location) (start : Scene σ)
    : Prop where
  sound : pipeline.flaws = []
  spelled : ∀ path ∈ pipeline.targets, path.IsSpelled
  normal : ∀ path ∈ pipeline.targets, path.IsNormal
  separate : ∀ path ∈ pipeline.targets, ∀ other ∈ pipeline.targets, path.names <+: other.names →
    path.names = other.names
  apart : ∀ path ∈ pipeline.targets, ∀ other ∈ pipeline.targets, path.names ≠ [] →
    ¬ beside (top ++ path.names) <+: top ++ other.names
  plain : start.workspace = ⟨root, false, []⟩
  settled : Settled start.files.base root top pipeline.targets start.files
  shows : setup.collaborators.TemplatesShow view
  obliging : setup.Obliging root view
  quiet : setup.Quiet start.files.base root top pipeline.targets
  saves : setup.SavesApart start.files.base top pipeline.targets

/-- A dry run leaves the tree, the run state and all that commands and checkpoints change as they are.
If the limits of the system leave room for all targets, it reports what a run on the tree does, unless
the run state cannot be saved there: the same steps are passed over or applied with the same files, it
ends with the same fault or none, and then all targets are read from it as from the tree.
-/
theorem Pipeline.run_rehearsed {pipeline : Pipeline} {start : Scene σ}
    (foreseeable : pipeline.Foreseeable setup view root top start)
    (limits : ∀ path ∈ pipeline.targets, FitsLimits root path)
    : ∃ dry names result,
        (pipeline.run setup).run.run start.asDryRun = (result, dry)
        ∧ dry.files = start.files
        ∧ dry.state = start.state
        ∧ dry.surroundings.outside
          = (start.consulting setup.collaborators names).surroundings.outside
        ∧ ∀ outcome after, (pipeline.run setup).run.run start = (outcome, after) →
            (∀ name failure, outcome ≠ .error (.checkpointFailed name failure)) →
            result = outcome.map RunReport.rehearsed
            ∧ ∀ path ∈ pipeline.targets,
                dry.workspace.read dry.files path = after.workspace.read after.files path := by
  obtain ⟨sound, spelled, normal, separate, apart, plain, settled, shows, obliging, quiet, saves⟩ :=
    foreseeable
  have paths : TargetPaths top pipeline.targets := ⟨fault?_of_flaws sound, spelled, apart⟩
  have foreseen : ForeseenTargets root pipeline.targets := ⟨paths.sound, normal, separate, limits⟩
  have rehearses : Scene.Rehearses view start.files.base root top pipeline.targets start.asDryRun start := by
    refine ⟨rfl, by rw [Scene.asDryRun, plain], plain, settled.ground, settled, ?_, rfl⟩
    rw [Scene.asDryRun, plain]
    exact .refl foreseen start.files
  by_cases own : start.state.pipeline = pipeline.name
  · obtain ⟨result, names, overlay, dry⟩ := runSteps_dry setup
      (Dictionary.layer pipeline.options setup.options) pipeline.steps rehearses.dry
    have recorded : start.asDryRun.state.pipeline = pipeline.name := own
    refine ⟨_, names, result, (run_eq setup sound recorded).trans dry, rfl, rfl, rfl,
      fun outcome after ran saved => ?_⟩
    · rw [run_eq setup sound own] at ran
      have accepted (fault : RunFault) (failed : faultOf? outcome = some fault)
          : ¬ fault.IsRefusal := by
        cases outcome with
        | ok report => cases failed
        | error found =>
            cases failed
            intro refusal
            cases fault <;> cases refusal
            exact saved _ _ rfl
      obtain ⟨last, ended, ends⟩ := runSteps_rehearsed paths foreseen pipeline.steps
        pipeline.within_targets (names_of_flaws sound) shows obliging quiet saves rehearses
        (fun _ _ => .rfl) ran accepted
      cases dry.symm.trans ended
      exact ⟨rfl, fun path member => ends.read foreseen member⟩
  · have refuses (scene : Scene σ) (state : scene.state = start.state)
        : (pipeline.run setup).run.run scene
          = (.error (.malformed [.foreignState start.state.pipeline pipeline.name]), scene) := by
      rw [run, run_bind, RunAction.run_getScene]
      simp [sound, state, own]
      rfl
    refine ⟨_, [], _, refuses start.asDryRun rfl, rfl, rfl, rfl, fun outcome after ran _ => ?_⟩
    cases (refuses start rfl).symm.trans ran
    exact ⟨rfl, fun path member => rehearses.read foreseen member⟩

/-- A pipeline of one step that writes a file. -/
def Pipeline.writing (file : String) : Pipeline where
  name := "notes"
  steps := [{ name := "write", mutations := [.writeNew ⟨file, []⟩ "first\n"] }]

theorem Pipeline.writing_targets (file : String) : (writing file).targets = [⟨file, []⟩] := rfl

/-- The collaborators of a rehearsal in which all commands and checkpoints succeed. -/
def Collaborators.willing : Collaborators Notes where
  command := Notes.command []
  checkpoint := Notes.checkpoint []
  template name _ notes := (.error (.ofMessage name), notes)

theorem Collaborators.willing_obliging {statePath : Option Path}
    : RunSetup.Obliging { collaborators := .willing, statePath } root fun _ : Notes => () :=
  ⟨fun _ _ => ⟨_, _, rfl, rfl, rfl⟩, fun _ _ => ⟨_, rfl, rfl⟩⟩

/-- Writing a file of a plain name is foreseeable, wherever the run state is saved apart from it. -/
theorem Pipeline.writing_foreseeable {file : String} {start : Scene Notes} {statePath : Option Path}
    (sound : (writing file).flaws = []) (plain : IsName file) (whole : '/' ∉ file.toList)
    (workspace : start.workspace = ⟨⟨"", [""]⟩, false, []⟩)
    (settled : Settled start.files.base ⟨"", [""]⟩ [] [⟨file, []⟩] start.files)
    (beside : ∀ path, statePath = some path → ∀ files : Files, files.base = start.files.base →
      ¬ RunState.Touches files path [temporaryName file])
    (saves : ∀ path, statePath = some path → ∀ files : Files, files.base = start.files.base →
      ¬ files.OnWay path [file]
      ∧ ¬ files.locate path <+: [file]
      ∧ ¬ files.locate (RunState.temporaryPath path) <+: [file])
    : (writing file).Foreseeable { collaborators := .willing, statePath } (fun _ => ()) ⟨"", [""]⟩ []
        start := by
  have names : (Path.mk file []).names = [file] := plain.namesOf_cons []
  have spelled : (Path.mk file []).IsSpelled := ⟨file, ofString_of_no_slash whole⟩
  have target : IsTarget ⟨file, []⟩ :=
    ⟨Pipeline.fault?_of_flaws sound _ (by simp [writing_targets]), spelled, by simp [names]⟩
  refine ⟨sound, ?_, ?_, ?_, ?_, workspace, ?_, fun _ _ _ _ _ _ => ⟨rfl, rfl⟩,
    Collaborators.willing_obliging, ?_, ?_⟩
  all_goals simp only [writing_targets, List.forall_mem_singleton]
  · exact spelled
  · refine ⟨fun dot => ?_, fun none => ?_⟩
    · obtain rfl : "." = file := List.mem_singleton.mp dot
      exact absurd plain.counts (by decide)
    · obtain rfl : file = "" := Option.some.inj none
      exact absurd plain.counts (by decide)
  · exact fun _ => trivial
  · intro _ within
    have other := target.ne_beside []
    rw [names] at within other
    exact other (within.eq_of_length rfl).symm
  · exact settled
  · refine ⟨fun line => Notes.command_keepsBelow (fun _ _ found => ?_) ⟨"", [""]⟩ line,
      fun message surroundings => ?_, fun path kept files based => ?_⟩
    · cases found
    · exact .refl _
    · simp only [List.forall_mem_singleton, names]
      exact fun _ => beside path kept files based
  · intro path kept files based
    simp only [List.forall_mem_singleton, names]
    exact saves path kept files based

/-- A dry run that writes a file tells what a run writes. -/
theorem Pipeline.run_rehearsed_writing
    : ∃ dry result,
        ((writing "notes.txt").run { collaborators := .willing }).run.run (Scene.blank "notes").asDryRun
          = (result, dry)
        ∧ dry.files = .empty
        ∧ faultOf? result = none
        ∧ dry.workspace.read dry.files ⟨"notes.txt", []⟩ = .ok (some "first\n".toUTF8) := by
  have foreseeable := @writing_foreseeable "notes.txt" (.blank "notes") none (by decide)
    ⟨by decide, by decide⟩ (by decide) rfl (.empty _) nofun nofun
  have limits : ∀ path ∈ (writing "notes.txt").targets, FitsLimits ⟨"", [""]⟩ path := by
    rw [writing_targets, List.forall_mem_singleton]
    exact ⟨by decide, by decide, by decide, by rintro _ ⟨⟩; decide⟩
  obtain ⟨⟨outcome, after⟩, real, passed, read⟩
      : ∃ ended, ((writing "notes.txt").run { collaborators := .willing }).run.run (.blank "notes") = ended
        ∧ faultOf? ended.1 = none
        ∧ ended.2.workspace.read ended.2.files ⟨"notes.txt", []⟩ = .ok (some "first\n".toUTF8) :=
    ⟨_, rfl, by decide +kernel, by decide +kernel⟩
  obtain ⟨dry, names, result, ran, files, -, -, agrees⟩ := run_rehearsed foreseeable limits
  obtain ⟨rfl, reads⟩ := agrees outcome after real fun _ _ failed => by
    rw [failed] at passed
    cases passed
  refine ⟨dry, _, ran, files, by rw [faultOf?_map]; exact passed, ?_⟩
  rw [reads _ (by simp [writing_targets]), read]

/-- A file cannot be written if the temporary file beside it has too long a name: were it written, the
temporary file could be, too.
-/
theorem Pipeline.writing_fails {file : String} (sound : (writing file).flaws = []) (plain : IsName file)
    (whole : '/' ∉ file.toList) (long : nameLimit < (temporaryName file).utf8ByteSize)
    : faultOf? (((writing file).run { collaborators := .willing }).run.run (.blank "notes")).1
      ≠ none := by
  intro passed
  have foreseeable := @writing_foreseeable file (.blank "notes") none sound plain whole rfl (.empty _)
    nofun nofun
  have paths : TargetPaths [] (writing file).targets :=
    ⟨fault?_of_flaws sound, foreseeable.spelled, foreseeable.apart⟩
  obtain ⟨history, outcome, after, ran, run, -⟩ :=
    @run_history _ (writing file) { collaborators := .willing } (.blank "notes") sound rfl rfl
  rw [ran] at passed
  cases run with
  | halted => cases passed
  | continued first =>
      cases first with
      | completed done => cases done
      | guarded _ off => cases off
      | handled _ _ effects order =>
          cases order with
          | applied stage written exits commands =>
              rw [List.append_assoc] at effects
              obtain ⟨middle, events, -⟩ := effects.split
              obtain ⟨all, -, -⟩ := events.written paths (fun _ => id)
                (foreseeable.quiet.leavesTargets paths).commands foreseeable.settled rfl
              cases events with
              | cons head =>
                  obtain ⟨staged, -⟩ := head
                  have holds := Step.stageMutations_holds _ staged
                  obtain ⟨entry, found⟩ := Option.isSome_iff_exists.mp
                    (holds.covers ⟨file, []⟩ List.mem_cons_self)
                  have member := Dictionary.mem_of_get? found
                  have at_ : entry.path = ⟨file, []⟩ := List.mem_singleton.mp (holds.target _ member)
                  have names : entry.path.names = [file] := by
                    rw [at_]
                    exact plain.namesOf_cons []
                  obtain ⟨-, loaded⟩ := content?_of_read foreseeable.settled.ground rfl rfl
                    (paths.sound _ (by simp [at_, writing_targets])) (holds.loaded _ member)
                  have new : entry.loaded = none := by
                    rw [← loaded, names]
                    rfl
                  have changed : entry ∈ stage.changed := by
                    refine List.mem_filter.mpr ⟨List.mem_map_of_mem member, ?_⟩
                    obtain ⟨content, some⟩ := Option.isSome_iff_exists.mp (holds.current _ member)
                    rw [StagedFile.isChanged, new, show entry.current = _ from some]
                    rfl
                  obtain ⟨temporary, -, reach⟩ := (all.accepts entry changed).temporary
                  rw [names, beside_append] at reach
                  have lies : middle.files.Reaches ⟨"", [""]⟩ [] temporary
                      ([] ++ ([] ++ [temporaryName file])) := reach
                  exact absurd (lies.clear all.ground).2.1 (Nat.not_le_of_lt long)

/-- The scene of a tree with a file where the directory of the run state should be. -/
def Scene.held : Scene Notes :=
  { Scene.blank "notes" with
    surroundings := ⟨Files.empty.setNode ["held"] (plainFile "kept\n".toUTF8), {}⟩ }

/-- A dry run does not foresee that the temporary file of a target has too long a name, nor that the
run state cannot be saved.
-/
theorem Pipeline.not_foreseen
    : (∃ file,
        (writing file).Foreseeable { collaborators := .willing } (fun _ => ()) ⟨"", [""]⟩ []
          (.blank "notes")
        ∧ faultOf? (((writing file).run { collaborators := .willing }).run.run
            (Scene.blank "notes").asDryRun).1 = none
        ∧ faultOf? (((writing file).run { collaborators := .willing }).run.run
            (.blank "notes")).1 ≠ none)
      ∧ ∃ statePath,
        (writing "notes.txt").Foreseeable { collaborators := .willing, statePath } (fun _ => ())
          ⟨"", [""]⟩ [] .held
        ∧ faultOf? (((writing "notes.txt").run { collaborators := .willing, statePath }).run.run
            Scene.held.asDryRun).1 = none
        ∧ faultOf? (((writing "notes.txt").run { collaborators := .willing, statePath }).run.run
            .held).1 ≠ none := by
  constructor
  · let file := String.ofList (List.replicate 250 'a')
    have sound : (writing file).flaws = [] := by decide +kernel
    have plain : IsName file := ⟨by decide +kernel, by decide +kernel⟩
    have whole : '/' ∉ file.toList := by
      rw [String.toList_ofList]
      decide
    refine ⟨file, ?_, by decide +kernel, writing_fails sound plain whole (by decide +kernel)⟩
    exact @writing_foreseeable _ (.blank "notes") none sound plain whole rfl (.empty _) nofun nofun
  · let path : Path := ⟨"", ["held", "state.json"]⟩
    have settled : Settled [] ⟨"", [""]⟩ [] [⟨"notes.txt", []⟩] Scene.held.files := by
      refine ⟨rfl, grounded_empty.setNode ⟨?_, [], "held", rfl, fun _ => rfl⟩ _, ?_⟩
      · simp [node?, Files.empty, Dictionary.get?]
      · rw [List.forall_mem_singleton]
        exact fun _ => by decide +kernel
    have on_way (files : Files) {place : Location} (way : files.OnWay path place)
        : place = [] ∨ "held" ∈ place := by
      obtain ⟨before, within, rfl⟩ := way
      rcases List.prefix_cons_iff.mp within with rfl | ⟨rest, rfl, within'⟩
      · exact .inl rfl
      · rcases List.prefix_cons_iff.mp within' with rfl | ⟨last, rfl, within''⟩
        · exact .inr (show "held" ∈ follow [] ["held"] by decide)
        · rw [List.prefix_nil.mp within'']
          exact .inr (show "held" ∈ follow [] ["held", "state.json"] by decide)
    have state (files : Files) : files.locate path = ["held", "state.json"] := rfl
    have temporary (files : Files)
        : files.locate (RunState.temporaryPath path) = ["held", "state.json.tmp"] := by
      have spelled : RunState.temporaryPath path = ⟨"", ["held", "state.json.tmp"]⟩ := by
        decide +kernel
      rw [spelled]
      rfl
    refine ⟨some path, ?_, by decide +kernel, by decide +kernel⟩
    refine @writing_foreseeable _ .held _ (by decide) ⟨by decide, by decide⟩ (by decide) rfl settled
      ?_ ?_
    · rintro _ ⟨⟩ files - (way | here)
      · exact absurd (on_way files way) (by decide +kernel)
      · exact absurd (here.trans (temporary files)) (by decide +kernel)
    · rintro _ ⟨⟩ files -
      refine ⟨fun way => absurd (on_way files way) (by decide +kernel), ?_, ?_⟩
      · rw [state]
        decide +kernel
      · rw [temporary]
        decide +kernel

end Groundwork
