import Groundwork.CommandLine.Basic
import Groundwork.Proofs.Git.WorkTree
import Groundwork.Proofs.Run.Prediction
import Groundwork.Proofs.StateDirectory

/-!
How applying a pipeline goes: it is planned, for which the target is only looked at, then the state
directory is made, then the pipeline is run. Only the run can fail in a step.
-/

namespace Groundwork.CommandLine

variable {α : Type} {arguments : ApplyArguments} {before after : Surroundings Outside}

-----------------------------------------------------------------------------------------
-- Actions of commands
-----------------------------------------------------------------------------------------

namespace CommandAction

theorem run_check (result : Except Failure α)
    : (check result).run.run before = (result.mapError .other, before) := by
  cases result <;> rfl

theorem run_checkRun (result : Except RunFault α)
    : (checkRun result).run.run before = (result.mapError .run, before) := by
  cases result <;> rfl

theorem run_files : files.run.run before = (.ok before.files, before) := rfl

theorem run_onFiles (action : FileAction α)
    : (onFiles action).run.run before
      = ((action.run.run before.files).1.mapError .other,
          { before with files := (action.run.run before.files).2 }) := by
  rw [onFiles, run_bind]
  exact run_check _

/-- What looks at repositories changes nothing. -/
theorem run_ofRepositories {request : Request Git.Repositories α} (looks : request.Leaves id)
    : ∃ result : Except Failure α,
        (ofRepositories request).run.run before = (result.mapError .other, before) := by
  have same := looks ⟨before.files, before.outside.repositories⟩
  refine ⟨(request.run.run ⟨before.files, before.outside.repositories⟩).1, ?_⟩
  rw [ofRepositories, run_bind]
  change (check _).run.run (Surroundings.mk
      (request.run.run ⟨before.files, before.outside.repositories⟩).2.files
      { before.outside with
        repositories := (request.run.run ⟨before.files, before.outside.repositories⟩).2.outside }) = _
  rw [id, id] at same
  rw [run_check, same]
  rfl

end CommandAction

-----------------------------------------------------------------------------------------
-- Actions that look for something
-----------------------------------------------------------------------------------------

/-- An action that changes nothing, and finds something or a fault that is not the fault of a step. -/
def CommandAction.Finds (action : CommandAction α) (before : Surroundings Outside)
    (found : α → Prop)
    : Prop :=
  (∃ fault, action.run.run before = (.error fault, before) ∧ fault.code = invalidCode)
  ∨ ∃ value, action.run.run before = (.ok value, before) ∧ found value

namespace CommandAction.Finds

variable {β : Type} {found : α → Prop} {later : β → Prop}

theorem pure {value : α} (here : found value) : Finds (Pure.pure value) before found :=
  .inr ⟨value, rfl, here⟩

theorem throw (failure : Failure) : Finds (throw (.other failure) : CommandAction α) before found :=
  .inl ⟨_, rfl, rfl⟩

theorem check {result : Except Failure α} (here : ∀ value, result = .ok value → found value)
    : Finds (check result) before found := by
  cases result with
  | error failure => exact .throw failure
  | ok value => exact .pure (here value rfl)

theorem checkRun {result : Except RunFault α} (here : ∀ value, result = .ok value → found value)
    (whole : ∀ fault, result = .error fault → fault.step? = none)
    : Finds (checkRun result) before found := by
  cases result with
  | error fault => exact .inl ⟨_, rfl, by simp [CommandFault.code, whole fault rfl]⟩
  | ok value => exact .pure (here value rfl)

theorem files : Finds files before (· = before.files) := .inr ⟨_, rfl, rfl⟩

theorem ofRepositories {request : Request Git.Repositories α} (looks : request.Leaves id)
    : Finds (ofRepositories request) before fun _ => True := by
  obtain ⟨result, ran⟩ := @run_ofRepositories _ before _ looks
  cases result with
  | error failure => exact .inl ⟨_, ran, rfl⟩
  | ok value => exact .inr ⟨value, ran, trivial⟩

/-- A sequence goes on with what was found. -/
theorem bind {action : CommandAction α} {next : α → CommandAction β}
    (first : action.Finds before found) (second : ∀ value, found value → (next value).Finds before later)
    : (action >>= next).Finds before later := by
  unfold Finds
  rw [run_bind]
  rcases first with ⟨fault, ran, whole⟩ | ⟨value, ran, here⟩
  · rw [ran]
    exact .inl ⟨fault, rfl, whole⟩
  · rw [ran]
    exact second value here

end CommandAction.Finds

-----------------------------------------------------------------------------------------
-- Plans
-----------------------------------------------------------------------------------------

/-- What a plan was made from. -/
structure ApplyPlan.Fits (plan : ApplyPlan) (arguments : ApplyArguments)
    (before : Surroundings Outside)
    : Prop where
  loads : Pipeline.load before.files arguments.pipeline = .ok plan.pipeline
  target : before.files.isDirectory arguments.target = true
  setup : ∃ settings options, plan.setup = setupOf arguments settings plan.pipeline options
  state
    : RunState.loadOrNew before.files (StateDirectory.ofRoot arguments.target).runState
        plan.pipeline.name arguments.target
      = .ok plan.state

/-- A definition that can be loaded has no flaws, and one that cannot is at fault as a whole. -/
theorem flaws_of_load {files : Files} {path : Path}
    : (∃ reasons, Pipeline.load files path = .error (.malformed reasons))
      ∨ ∃ pipeline, Pipeline.load files path = .ok pipeline ∧ pipeline.flaws = [] := by
  unfold Pipeline.load
  split
  · exact .inl ⟨_, rfl⟩
  · unfold Pipeline.parse
    split
    · exact .inl ⟨_, rfl⟩
    · next pipeline _ =>
      cases flaws : pipeline.flaws with
      | nil => exact .inr ⟨pipeline, rfl, flaws⟩
      | cons flaw rest => exact .inl ⟨_, rfl⟩

theorem step?_of_load {files : Files} {path : Path} {fault : RunFault}
    (fails : Pipeline.load files path = .error fault)
    : fault.step? = none := by
  rcases @flaws_of_load files path with ⟨reasons, refused⟩ | ⟨pipeline, loads, -⟩
  · cases fails.symm.trans refused
    rfl
  · cases fails.symm.trans loads

theorem sound_of_load {files : Files} {path : Path} {pipeline : Pipeline}
    (loads : Pipeline.load files path = .ok pipeline)
    : pipeline.flaws = [] := by
  rcases @flaws_of_load files path with ⟨reasons, refused⟩ | ⟨other, loads', sound⟩
  · cases loads.symm.trans refused
  · cases loads.symm.trans loads'
    exact sound

theorem ApplyPlan.Fits.sound {plan : ApplyPlan} (fits : plan.Fits arguments before)
    : plan.pipeline.flaws = [] :=
  sound_of_load fits.loads

/-- The run state of a plan is one of its pipeline; by cases on whether it was read from a file. -/
theorem ApplyPlan.Fits.own {plan : ApplyPlan} (fits : plan.Fits arguments before)
    : plan.state.pipeline = plan.pipeline.name := by
  have found := fits.state
  simp only [RunState.loadOrNew, bind, Except.bind] at found
  split at found
  · split at found
    · cases found
    · split at found
      · next same => cases found; exact beq_iff_eq.mp same
      · cases found
  · rw [← Except.ok.inj found]

/-- The settings that a plan was made with, and the options that came of their own and of those that
were assigned.
-/
structure ApplyPlan.Takes (plan : ApplyPlan) (arguments : ApplyArguments)
    (before : Surroundings Outside) (settings : Settings) (options : Options)
    : Prop where
  loads
    : Settings.load before.files
        (arguments.settings.getD (StateDirectory.ofRoot arguments.target).settings)
      = .ok settings
  assigns : assignAll settings.options arguments.assignments = .ok options
  setup : plan.setup = setupOf arguments settings plan.pipeline options

/-- To plan is to look. -/
theorem plan_finds (arguments : ApplyArguments) (before : Surroundings Outside)
    : (plan arguments).Finds before fun plan =>
        plan.Fits arguments before ∧ ∃ settings options, plan.Takes arguments before settings options := by
  refine .bind .files ?_
  rintro _ rfl
  refine .bind (.checkRun (fun _ loads => loads) fun _ => step?_of_load) fun pipeline loads => ?_
  refine .bind .files ?_
  rintro _ rfl
  cases target : before.files.isDirectory arguments.target with
  | false =>
      simp only [Bool.not_false, if_true]
      exact .bind (.throw _) fun _ => False.elim
  | true =>
      simp only [Bool.not_true, Bool.false_eq_true, if_false]
      refine .bind .files ?_
      rintro _ rfl
      refine .bind (.check fun _ loaded => loaded) fun settings loaded => ?_
      refine .bind (.check fun _ assigned => assigned) fun options assigned => ?_
      have last : CommandAction.Finds (do
          let state ← CommandAction.check (RunState.loadOrNew (← CommandAction.files)
            (StateDirectory.ofRoot arguments.target).runState pipeline.name arguments.target)
          return { pipeline, setup := setupOf arguments settings pipeline options, state })
          before fun plan : ApplyPlan =>
            plan.Fits arguments before
            ∧ ∃ settings options, plan.Takes arguments before settings options := by
        refine .bind .files ?_
        rintro _ rfl
        refine .bind (.check fun _ loads => loads) fun state found => ?_
        exact .pure ⟨⟨loads, target, ⟨settings, options, rfl⟩, found⟩, settings, options, loaded,
          assigned, rfl⟩
      split
      · exact .bind (.ofRepositories (WorkTree.ensureReady_leaves _ _ _)) fun _ _ => last
      · exact last

-----------------------------------------------------------------------------------------
-- Courses of applying a pipeline
-----------------------------------------------------------------------------------------

/-- Applying a pipeline comes to its run, which starts from a scene: all was planned, and the state
directory is there unless nothing is to be changed.
-/
structure ApplyPlan.Starts (plan : ApplyPlan) (arguments : ApplyArguments)
    (before : Surroundings Outside) (start : Scene Outside)
    : Prop where
  planned : (CommandLine.plan arguments).run.run before = (.ok plan, before)
  fits : plan.Fits arguments before
  ready
    : arguments.dryRun = true ∧ start = plan.scene arguments before
      ∨ arguments.dryRun = false
        ∧ ∃ files,
          (StateDirectory.init arguments.target).run.run before.files
            = (.ok (StateDirectory.ofRoot arguments.target), files)
          ∧ start = plan.scene arguments { before with files }

/-- The ways in which applying a pipeline can go. -/
inductive ApplyCourse (arguments : ApplyArguments) (before : Surroundings Outside)
    : Except CommandFault RunReport → Surroundings Outside → Prop
  /-- The run is not come to. The state directory is made before its ignore file turns out to have too
  long a path; else nothing is changed.
  -/
  | refused {fault files} (early : fault.code = invalidCode)
    (none : ∀ plan start, ¬ ApplyPlan.Starts plan arguments before start)
    (same : files = before.files
      ∨ arguments.dryRun = false
        ∧ before.files.isDirectory arguments.target = true
        ∧ before.files.makeDirectories (StateDirectory.ofRoot arguments.target).directory
          = (files, .ok ())
        ∧ Files.pathLimit
          ≤ (StateDirectory.ofRoot arguments.target).ignoreFile.toString.utf8ByteSize)
    : ApplyCourse arguments before (.error fault) { before with files }
  | ran {plan start outcome last} (starts : ApplyPlan.Starts plan arguments before start)
    (run : (plan.pipeline.run plan.setup).run.run start = (outcome, last))
    : ApplyCourse arguments before (outcome.mapError .run) last.surroundings

/-- To run a plan is to run its pipeline. -/
theorem ApplyPlan.run_run (plan : ApplyPlan) (arguments : ApplyArguments)
    {outcome : Except RunFault RunReport} {last : Scene Outside}
    (ran : (plan.pipeline.run plan.setup).run.run (plan.scene arguments before) = (outcome, last))
    : (plan.run arguments).run.run before = (outcome.mapError .run, last.surroundings) := by
  rw [ApplyPlan.run, run_bind]
  change (do
    set ((plan.pipeline.run plan.setup).run.run (plan.scene arguments before)).2.surroundings
    CommandAction.checkRun ((plan.pipeline.run plan.setup).run.run (plan.scene arguments before)).1
    : CommandAction RunReport).run.run before = _
  rw [ran, run_bind]
  exact CommandAction.run_checkRun outcome

theorem apply_course (arguments : ApplyArguments) (before : Surroundings Outside)
    : ∃ result after,
        (apply arguments).run.run before = (result, after)
        ∧ ApplyCourse arguments before result after := by
  rw [apply, run_bind]
  rcases plan_finds arguments before with ⟨fault, planned, early⟩ | ⟨plan, planned, fits, -⟩
  · rw [planned]
    refine ⟨_, _, rfl, .refused early ?_ (.inl rfl)⟩
    rintro plan start ⟨planned', -⟩
    cases planned.symm.trans planned'
  rw [planned]
  cases dry : arguments.dryRun with
  | true =>
      rcases ran : (plan.pipeline.run plan.setup).run.run (plan.scene arguments before) with
        ⟨outcome, last⟩
      exact ⟨_, _, plan.run_run arguments ran, .ran ⟨planned, fits, .inl ⟨dry, rfl⟩⟩ ran⟩
  | false =>
      simp only [Bool.not_false, if_true, run_bind, CommandAction.run_onFiles]
      rcases StateDirectory.init_course fits.target with
        ⟨files, made⟩ | ⟨failure, files, failed, same⟩
      · rcases ran : (plan.pipeline.run plan.setup).run.run
          (plan.scene arguments { before with files }) with ⟨outcome, last⟩
        rw [made]
        exact ⟨_, _, plan.run_run arguments ran,
          .ran ⟨planned, fits, .inr ⟨dry, files, made, rfl⟩⟩ ran⟩
      · rw [failed]
        refine ⟨_, _, rfl, .refused rfl ?_ (same.imp_right fun made => ⟨dry, fits.target, made⟩)⟩
        rintro other start ⟨planned', -, ⟨dry', -⟩ | ⟨-, _, made, -⟩⟩
        · cases dry.symm.trans dry'
        · cases failed.symm.trans made

-----------------------------------------------------------------------------------------
-- What the run of a plan can do
-----------------------------------------------------------------------------------------

section Starts

variable {plan : ApplyPlan} {start last : Scene Outside} {outcome : Except RunFault RunReport}

/-- The plan and the start of a run are told by the arguments and the surroundings. -/
theorem ApplyPlan.Starts.unique (starts : plan.Starts arguments before start) {plan' : ApplyPlan}
    {start' : Scene Outside} (starts' : plan'.Starts arguments before start')
    : plan' = plan ∧ start' = start := by
  obtain ⟨planned, -, ready⟩ := starts
  obtain ⟨planned', -, ready'⟩ := starts'
  cases planned.symm.trans planned'
  refine ⟨rfl, ?_⟩
  rcases ready with ⟨dry, rfl⟩ | ⟨wet, files, made, rfl⟩ <;>
    rcases ready' with ⟨dry', rfl⟩ | ⟨wet', files', made', rfl⟩
  · rfl
  · cases dry.symm.trans wet'
  · cases wet.symm.trans dry'
  · cases made.symm.trans made'
    rfl

theorem ApplyPlan.Starts.own (starts : plan.Starts arguments before start)
    : start.state.pipeline = plan.pipeline.name := by
  rcases starts.ready with ⟨-, rfl⟩ | ⟨-, files, -, rfl⟩ <;> exact starts.fits.own

/-- To look for templates in directories changes nothing; by induction on their names. -/
theorem consulting_setupOf (arguments : ApplyArguments) (settings : Settings) (pipeline : Pipeline)
    (options : Options) (scene : Scene Outside) (names : List String)
    : scene.consulting (setupOf arguments settings pipeline options).collaborators names = scene := by
  induction names with
  | nil => rfl
  | cons name rest ih => exact ih

/-- A dry run changes nothing. -/
theorem ApplyPlan.Starts.dry (starts : plan.Starts arguments before start)
    (dry : arguments.dryRun = true)
    (ran : (plan.pipeline.run plan.setup).run.run start = (outcome, last))
    : last.surroundings = before := by
  have own := starts.own
  rcases starts.ready with ⟨-, rfl⟩ | ⟨wet, -⟩
  · rw [Pipeline.run_eq plan.setup starts.fits.sound own] at ran
    obtain ⟨result, names, overlay, ended⟩ := @Pipeline.runSteps_dry _ (plan.scene arguments before)
      plan.setup (Dictionary.layer plan.pipeline.options plan.setup.options) plan.pipeline.steps dry
    cases ran.symm.trans ended
    obtain ⟨settings, options, setup⟩ := starts.fits.setup
    rw [Scene.rehearsing, setup, consulting_setupOf]
    rfl
  · cases dry.symm.trans wet

end Starts

end Groundwork.CommandLine
