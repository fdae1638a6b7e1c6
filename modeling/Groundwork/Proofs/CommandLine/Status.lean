import Groundwork.Proofs.CommandLine.Codes
import Groundwork.Proofs.Run.Recording
import Groundwork.Proofs.StateDirectory

/-!
What `status` shows after a pipeline was applied to a target any number of times: the steps that came
to their end in one of the runs, and these are the steps that the next run passes over as completed.
-/

namespace Groundwork

/-- A step came to its end in one of some runs. -/
def Step.FinishedIn (step : Step) (path : Path) (histories : List (List (Step × List RunEvent)))
    : Prop :=
  ∃ history ∈ histories, ∃ events, (step, events) ∈ history ∧ step.Finished path events

namespace CommandLine

open Files

variable {arguments : ApplyArguments} {plan : ApplyPlan} {pipeline : Pipeline} {target : Path}
  {start before after : Surroundings Outside} {ready : Scene Outside} {known : List String}

-----------------------------------------------------------------------------------------
-- Histories of applications
-----------------------------------------------------------------------------------------

/-- The options of the run of a plan. -/
def ApplyPlan.options (plan : ApplyPlan) : Options :=
  Dictionary.layer plan.pipeline.options plan.setup.options

/-- What becomes of applying a pipeline: its run is not come to, or it has a history. -/
inductive ApplyHistory (arguments : ApplyArguments) (before : Surroundings Outside)
    : List (Step × List RunEvent) → Surroundings Outside → Prop
  | refused {result after} (ran : (apply arguments).run.run before = (result, after))
    (none : ∀ plan ready, ¬ ApplyPlan.Starts plan arguments before ready)
    : ApplyHistory arguments before [] after
  | ran {plan ready history outcome last} (starts : ApplyPlan.Starts plan arguments before ready)
    (ran : (plan.pipeline.run plan.setup).run.run ready = (outcome, last))
    (run : RunHistory plan.setup plan.options plan.pipeline.steps ready history outcome last)
    : ApplyHistory arguments before history last.surroundings

/-- Whatever becomes of applying a pipeline to the tree, it has a history; by cases on its course. -/
theorem exists_applyHistory (wet : arguments.dryRun = false) (before : Surroundings Outside)
    : ∃ ending after history,
        (Invocation.apply arguments).run.run before = (ending, after)
        ∧ ApplyHistory arguments before history after := by
  obtain ⟨result, after, ran, course⟩ := apply_course arguments before
  cases course with
  | refused early none same => exact ⟨_, _, [], Invocation.run_apply ran, .refused ran none⟩
  | @ran plan ready outcome last starts run =>
      have plain : ready.workspace.dryRun = false := by
        rcases starts.ready with ⟨dry, -⟩ | ⟨-, files, -, rfl⟩
        · cases dry.symm.trans wet
        · exact wet
      obtain ⟨history, _, _, ran', history', -⟩ :=
        @Pipeline.run_history _ plan.pipeline plan.setup ready starts.fits.sound starts.own plain
      cases run.symm.trans ran'
      exact ⟨_, _, history, Invocation.run_apply ran, .ran starts run history'⟩

/-- The commands that applying a pipeline comes to leave the file of the run state as it is. -/
def ApplyArguments.CommandsSpare (arguments : ApplyArguments) (before : Surroundings Outside) : Prop :=
  ∀ plan ready step scene,
    ApplyPlan.Starts plan arguments before ready →
    Pipeline.Reaches plan.setup plan.options plan.pipeline.steps ready step scene →
    step.CommandsSpare plan.setup plan.options arguments.target
      (StateDirectory.ofRoot arguments.target).runState scene

/-- A pipeline is applied to a target any number of times, each time with a history, and no command
touches the file of the run state. In between anything may change but that file.
-/
inductive Applications (pipeline : Pipeline) (target : Path) (start : Surroundings Outside)
    : List (List (Step × List RunEvent)) → Surroundings Outside → Prop
  | begun : Applications pipeline target start [] start
  | applied {histories before ending history after} (arguments : ApplyArguments)
    (earlier : Applications pipeline target start histories before)
    (wet : arguments.dryRun = false) (same : arguments.target = target)
    (loads : Pipeline.load before.files arguments.pipeline = .ok pipeline)
    (ran : (Invocation.apply arguments).run.run before = (ending, after))
    (made : ApplyHistory arguments before history after)
    (spare : arguments.CommandsSpare before)
    : Applications pipeline target start (histories ++ [history]) after
  | meanwhile {histories before after}
    (earlier : Applications pipeline target start histories before)
    (spares : Spares (StateDirectory.ofRoot target).runState before.files after.files)
    : Applications pipeline target start histories after

-----------------------------------------------------------------------------------------
-- What applying a pipeline once leaves recorded
-----------------------------------------------------------------------------------------

/-- A run starts from the steps that are recorded. -/
theorem ApplyPlan.Starts.completed (starts : plan.Starts arguments before ready)
    (there : RunState.Recorded before.files (StateDirectory.ofRoot arguments.target).runState
      plan.pipeline.name known)
    : ready.state.completed = known := by
  obtain ⟨state, loads, completed⟩ := there.loads arguments.target
  cases starts.fits.state.symm.trans loads
  rcases starts.ready with ⟨-, rfl⟩ | ⟨-, files, -, rfl⟩ <;> exact completed

section Once

variable (wet : arguments.dryRun = false)
  (avoids : Avoids before.files.base
    (before.files.locate (StateDirectory.ofRoot arguments.target).runState) arguments.target)

include wet avoids

/-- The run of a plan keeps its run state in the file of the state directory, where its targets do not
go; a checkpoint is no more than a change of repositories.
-/
theorem ApplyPlan.Fits.keepsState (fits : plan.Fits arguments before)
    (apart : ∀ path ∈ plan.pipeline.targets, ¬ StateDirectory.runStateNames <+: path.names)
    : plan.setup.KeepsState before.files.base
        (before.files.locate (StateDirectory.ofRoot arguments.target).runState) arguments.target
        (StateDirectory.ofRoot arguments.target).runState plan.pipeline.targets := by
  obtain ⟨settings, options, setup⟩ := fits.setup
  refine ⟨?_, StateDirectory.isKeptAt_runState avoids, ?_, fun path member => ?_, fun message here => ?_⟩
  · simp [setup, setupOf, wet]
  · rintro ⟨parent, name, same, temporary⟩
    have split : StateDirectory.runStateNames = [StateDirectory.name] ++ ["run_state.json"] := rfl
    rw [StateDirectory.locate_runState, split, ← List.append_assoc] at same
    cases (List.append_inj' same rfl).2
    exact absurd temporary (by decide)
  · have sound := Pipeline.fault?_of_flaws fits.sound path member
    exact StateDirectory.avoids_join avoids sound (apart path member)
  · have same : ((plan.setup.collaborators.checkpoint message).run.run here).2.files = here.files := by
      rw [setup]
      cases commits : makesCommits arguments settings with
      | false => simp only [setupOf, Collaborators.ofSources, commits, Bool.false_eq_true, if_false]; rfl
      | true =>
          simp only [setupOf, Collaborators.ofSources, commits, if_true]
          exact WorkTree.checkpoint_leaves_files _ _ _ ⟨here.files, here.outside.repositories⟩
    rw [same]
    exact .refl _ _

/-- A run starts from what is recorded, for the file of the run state is left alone when the state
directory is made.
-/
theorem ApplyPlan.Starts.agrees (starts : plan.Starts arguments before ready)
    (keeps : plan.setup.KeepsState before.files.base
      (before.files.locate (StateDirectory.ofRoot arguments.target).runState) arguments.target
      (StateDirectory.ofRoot arguments.target).runState plan.pipeline.targets)
    (there : RunState.Recorded before.files (StateDirectory.ofRoot arguments.target).runState
      plan.pipeline.name known)
    : ready.Agrees before.files.base arguments.target
        (StateDirectory.ofRoot arguments.target).runState := by
  rcases starts.ready with ⟨dry, -⟩ | ⟨-, files, made, rfl⟩
  · cases dry.symm.trans wet
  · have spares := keeps.isKept.spares there.shows_ rfl (StateDirectory.init_spares avoids) made
    refine ⟨by simp [ApplyPlan.scene, wet], spares.base, ?_⟩
    have kept := there.spares spares
    rw [← starts.own, ← starts.completed there] at kept
    exact kept

end Once

/-- Applying a pipeline records the steps that came to their end, and forgets none; by cases on whether
its run is come to.
-/
theorem ApplyHistory.recording (wet : arguments.dryRun = false)
    {history : List (Step × List RunEvent)}
    (loads : Pipeline.load before.files arguments.pipeline = .ok pipeline)
    (apart : ∀ path ∈ pipeline.targets, ¬ StateDirectory.runStateNames <+: path.names)
    (there : RunState.Recorded before.files (StateDirectory.ofRoot arguments.target).runState
      pipeline.name known)
    (spare : arguments.CommandsSpare before) (made : ApplyHistory arguments before history after)
    : ∃ finished : List String,
        RunState.Recorded after.files (StateDirectory.ofRoot arguments.target).runState pipeline.name
          (known ++ finished)
        ∧ ∀ name, name ∈ finished
          ↔ ∃ entry ∈ history,
            entry.1.name = name
            ∧ entry.1.Finished (StateDirectory.ofRoot arguments.target).runState entry.2 := by
  have avoids (target : before.files.isDirectory arguments.target = true)
      : Avoids before.files.base
          (before.files.locate (StateDirectory.ofRoot arguments.target).runState) arguments.target := by
    obtain ⟨top, leads⟩ := isDirectory_iff.mp target
    exact StateDirectory.avoids_root leads there.free
  cases made with
  | refused ran never =>
      have spares : Spares (StateDirectory.ofRoot arguments.target).runState before.files after.files := by
        obtain ⟨_, _, ran', course⟩ := apply_course arguments before
        cases ran.symm.trans ran'
        cases course with
        | ran starts run => exact absurd starts (never _ _)
        | refused early _ same =>
            rcases same with rfl | ⟨-, target, made, -⟩
            · exact .refl _ _
            · have isKept := StateDirectory.isKeptAt_runState (avoids target)
              have spares := isKept.spares there.shows_ rfl
                (.makeDirectories (StateDirectory.avoids_directory (avoids target)))
                (FileAction.run_makeDirectories _)
              rw [made] at spares
              exact spares
      refine ⟨[], ?_, by simp⟩
      rw [List.append_nil]
      exact there.spares spares
  | @ran plan ready history outcome last starts ran run =>
      cases loads.symm.trans starts.fits.loads
      have avoids := avoids starts.fits.target
      have keeps := starts.fits.keepsState wet avoids apart
      have agrees := starts.agrees wet avoids keeps there
      have kept := run.recording keeps
        (fun step member path target => List.mem_flatMap.mpr ⟨step, member, target⟩) agrees
        (spare plan ready · · starts)
      rw [starts.own, starts.completed there] at kept
      exact kept

-----------------------------------------------------------------------------------------
-- What is shown after any number of applications
-----------------------------------------------------------------------------------------

variable {histories : List (List (Step × List RunEvent))} {last : Surroundings Outside}

/-- Recorded are the steps that came to their end in one of the runs; by induction on the applications.
-/
theorem Applications.recorded (applications : Applications pipeline target start histories last)
    (fresh : start.files.node? (start.files.locate (StateDirectory.ofRoot target).runState) = none)
    (apart : ∀ path ∈ pipeline.targets, ¬ StateDirectory.runStateNames <+: path.names)
    : ∃ done : List String,
        RunState.Recorded last.files (StateDirectory.ofRoot target).runState pipeline.name done
        ∧ ∀ name, name ∈ done
          ↔ ∃ history ∈ histories, ∃ entry ∈ history,
            entry.1.name = name ∧ entry.1.Finished (StateDirectory.ofRoot target).runState entry.2 := by
  induction applications with
  | begun => exact ⟨[], .none fresh pipeline.name, by simp⟩
  | @applied histories before ending history after arguments earlier wet same loads ran made spare ih =>
      obtain ⟨done, there, names⟩ := ih
      subst same
      obtain ⟨finished, there, more⟩ := made.recording wet loads apart there spare
      refine ⟨done ++ finished, there, fun name => ?_⟩
      rw [List.mem_append, names, more]
      simp only [List.mem_append, List.mem_singleton, or_and_right, exists_or, exists_eq_left]
  | meanwhile earlier spares ih =>
      obtain ⟨done, there, names⟩ := ih
      exact ⟨done, there.spares spares, names⟩

/-- The entries of histories are steps of the pipeline; by induction on the applications. -/
theorem Applications.steps (applications : Applications pipeline target start histories last)
    : ∀ history ∈ histories, ∀ entry ∈ history, entry.1 ∈ pipeline.steps := by
  induction applications with
  | begun => simp
  | @applied histories before ending history after arguments earlier wet same loads ran made spare ih =>
      refine List.forall_mem_append.mpr ⟨ih, List.forall_mem_singleton.mpr fun entry member => ?_⟩
      cases made with
      | refused => cases member
      | ran starts ran run =>
          cases loads.symm.trans starts.fits.loads
          exact run.steps.1.subset (List.mem_map_of_mem member)
  | meanwhile earlier spares ih => exact ih

/-- The line of `status` about a step, with the steps that are done. -/
def doneLine (done : List String) (step : Step) : String :=
  (if step.name ∈ done then "done    " else "pending ") ++ step.name

/-- What `status` prints if the file of the run state lists some steps. -/
theorem Invocation.run_status {path : Path} (loads : Pipeline.load before.files path = .ok pipeline)
    (there : RunState.Recorded before.files (StateDirectory.ofRoot target).runState pipeline.name
      known)
    : (Invocation.status path target).run.run before
      = ({ code := successCode, stdout := unlines (pipeline.steps.map (doneLine known)) }, before) := by
  obtain ⟨state, found, rfl⟩ := there.loads target
  have lines : statusLine state = doneLine state.completed := by
    funext step
    simp only [statusLine, doneLine, RunState.isCompleted, List.contains_iff_mem]
  have ran : (CommandLine.status path target).run.run before
      = (.ok (unlines (pipeline.steps.map (statusLine state))), before) := by
    simp only [CommandLine.status, run_bind, CommandAction.run_files, CommandAction.run_checkRun, loads,
      CommandAction.run_check, found, mapError_ok]
    rfl
  change (endingOf ((CommandLine.status path target).run.run before).1,
    ((CommandLine.status path target).run.run before).2) = _
  rw [ran, lines]
  rfl

/-- What `status` shows after any number of applications to a target that had no file of a run state:
done are the steps that came to their end in one of the runs, all others are pending. And a further run
passes over as completed just the steps that are shown as done, among those that it arrives at.
-/
theorem Applications.status_shows (applications : Applications pipeline target start histories last)
    (fresh : start.files.node? (start.files.locate (StateDirectory.ofRoot target).runState) = none)
    (apart : ∀ path ∈ pipeline.targets, ¬ StateDirectory.runStateNames <+: path.names)
    {path : Path} (loads : Pipeline.load last.files path = .ok pipeline)
    : ∃ done : List String,
        (∀ step ∈ pipeline.steps,
          step.name ∈ done ↔ step.FinishedIn (StateDirectory.ofRoot target).runState histories)
        ∧ (Invocation.status path target).run.run last
          = ({ code := successCode, stdout := unlines (pipeline.steps.map (doneLine done)) }, last)
        ∧ ∀ arguments plan ready step scene,
            arguments.target = target →
            ApplyPlan.Starts plan arguments last ready →
            plan.pipeline = pipeline →
            pipeline.ArrivesAt plan.setup ready step scene →
            ((∃ after,
                (step.run plan.setup plan.options).run.run scene = (.ok (.skipped .completed), after))
              ↔ step.name ∈ done) := by
  obtain ⟨done, there, names⟩ := applications.recorded fresh apart
  have distinct : (pipeline.steps.map (·.name)).Nodup := Pipeline.names_of_flaws (sound_of_load loads)
  refine ⟨done, fun step member => ?_, Invocation.run_status loads there, ?_⟩
  · rw [names]
    constructor
    · rintro ⟨history, among, ⟨other, events⟩, inside, same, finished⟩
      have taken := applications.steps history among _ inside
      cases List.inj_on_of_nodup_map distinct taken member same
      exact ⟨history, among, events, inside, finished⟩
    · rintro ⟨history, among, events, inside, finished⟩
      exact ⟨history, among, _, inside, rfl, finished⟩
  · rintro arguments plan ready step scene rfl starts rfl arrives
    rw [Step.run_completed_iff, (arrives.completed_iff distinct).2, starts.completed there]

/-- The text of a definition of two steps that write files, of which the second is off. -/
def guardedText : String :=
  "name='notes'\n[[steps]]\nname='a'\nmutations=[\x7bkind='write_new',dest='a',content='a'\x7d]\n" ++
    "[[steps]]\nname='b'\nguard=\x7benabled='b'\x7d\n" ++
    "mutations=[\x7bkind='write_new',dest='b',content='b'\x7d]\n"

/-- A tree with nothing but that definition. -/
def guarded : Surroundings Outside :=
  ⟨Files.empty.setNode ["notes.toml"] (.file guardedText.toUTF8 false), {}⟩

def guardedArguments : ApplyArguments :=
  { pipeline := ⟨"notes.toml", []⟩, target := ⟨".", []⟩, noCheckpoint := true }

/-- Applying the definition leaves it as it is, and then the first step is done. -/
theorem status_guarded
    : let after := ((Invocation.apply guardedArguments).run.run guarded).2
      (Pipeline.load guarded.files guardedArguments.pipeline).toOption.map
          (·.steps.map fun step => (step.name, step.targets, step.commands))
        = some [("a", [⟨"a", []⟩], []), ("b", [⟨"b", []⟩], [])]
      ∧ after.files.readText guardedArguments.pipeline
        = guarded.files.readText guardedArguments.pipeline
      ∧ ((Invocation.status guardedArguments.pipeline guardedArguments.target).run.run after).1.stdout
        = "done    a\npending b\n" := by
  decide +kernel

theorem Applications.status_shows_guarded
    : ∃ pipeline history after,
        Pipeline.load guarded.files guardedArguments.pipeline = .ok pipeline
        ∧ Applications pipeline guardedArguments.target guarded [history] after
        ∧ (Invocation.status guardedArguments.pipeline guardedArguments.target).run.run after
          = ({ code := successCode, stdout := "done    a\npending b\n" }, after)
        ∧ ∃ one two,
          pipeline.steps = [one, two]
          ∧ one.FinishedIn (StateDirectory.ofRoot guardedArguments.target).runState [history]
          ∧ ¬ two.FinishedIn (StateDirectory.ofRoot guardedArguments.target).runState [history] := by
  obtain ⟨shape, same, shown⟩ := status_guarded
  obtain ⟨pipeline, loads, shape⟩ := Option.map_eq_some_iff.mp shape
  have loads : Pipeline.load guarded.files guardedArguments.pipeline = .ok pipeline := by
    cases loaded : Pipeline.load guarded.files guardedArguments.pipeline with
    | ok pipeline => rw [loaded] at loads; exact congrArg Except.ok (Option.some.inj loads)
    | error fault => rw [loaded] at loads; cases loads
  obtain ⟨one, two, steps⟩ : ∃ one two, pipeline.steps = [one, two] := by
    exact List.length_eq_two.mp (by simpa using congrArg List.length shape)
  simp only [steps, List.map_cons, List.map_nil, List.cons.injEq, Prod.mk.injEq, and_true] at shape
  obtain ⟨⟨first, writes, idle⟩, second, writes', idle'⟩ := shape
  obtain ⟨ending, after, history, ran, made⟩ := @exists_applyHistory guardedArguments rfl guarded
  rw [ran] at same shown
  have again : Pipeline.load after.files guardedArguments.pipeline = .ok pipeline := by
    rw [← loads, Pipeline.load, Pipeline.load, same]
  have applications : Applications pipeline guardedArguments.target guarded [history] after := by
    refine .applied guardedArguments .begun rfl rfl loads ran made ?_
    intro plan ready step scene starts reaches line surroundings comes
    cases loads.symm.trans starts.fits.loads
    have within := comes.mem
    have member := reaches.mem
    simp only [steps, List.mem_cons, List.not_mem_nil, or_false] at member
    rcases member with rfl | rfl <;> simp_all
  have targets : pipeline.targets = [⟨"a", []⟩, ⟨"b", []⟩] := by
    simp [Pipeline.targets, steps, writes, writes']
  obtain ⟨done, finished, prints, -⟩ := Applications.status_shows applications (by decide +kernel)
    (by rw [targets]; decide) again
  have printed : unlines (pipeline.steps.map (doneLine done)) = "done    a\npending b\n" := by
    rw [prints] at shown
    exact shown
  rw [printed] at prints
  have lines : "a" ∈ done ∧ "b" ∉ done := by
    simp only [steps, List.map_cons, List.map_nil, doneLine, first, second] at printed
    by_cases a : "a" ∈ done
    · refine ⟨a, fun b => ?_⟩
      rw [if_pos a, if_pos b] at printed
      exact absurd printed (by decide)
    · rw [if_neg a] at printed
      split at printed <;> exact absurd printed (by decide)
  refine ⟨pipeline, history, after, loads, applications, prints, one, two, steps, ?_, ?_⟩
  · rw [← finished one (by simp [steps]), first]
    exact lines.1
  · rw [← finished two (by simp [steps]), second]
    exact lines.2

end CommandLine

end Groundwork
