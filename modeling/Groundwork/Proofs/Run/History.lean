import Groundwork.Proofs.Run.Faults
import Groundwork.Run.Rehearsal

/-!
Histories of runs: which events a run consists of, what each of them does to the scene, and in
which order they come. The main result reads the history of a run off its outcome, for arbitrary
collaborators.
-/

namespace Groundwork

variable {σ : Type}

-----------------------------------------------------------------------------------------
-- Events and what they do
-----------------------------------------------------------------------------------------

/-- Something that a run does, with how it ended. -/
inductive RunEvent where
  /-- The mutations of a step were worked out in memory. -/
  | staged (outcome : Except RunFault Stage)
  /-- The changed files of a stage were written, all or none. -/
  | committed (stage : Stage) (outcome : Except Failure Written)
  | ran (line : String) (answer : Except Failure CommandExit)
  /-- Files were put back after a command that did not succeed. -/
  | undone (written : Written)
  | checkpointed (message : String) (answer : Except Failure Unit)
  /-- The name of a step was added to those that are completed. -/
  | recorded (name : String)
  /-- The run state was written to its file. -/
  | saved (path : Path) (outcome : Except Failure Unit)

/-- The template that a mutation asks for. -/
def Mutation.template? : Mutation → Option String
  | .copyTemplate template .. => some template
  | _ => none

/-- The templates that a step asks for, in the order of its mutations. -/
def Step.templates (step : Step) : List String := step.mutations.filterMap Mutation.template?

/-- The scene after templates were looked up, one after the other. -/
def Scene.consulting (collaborators : Collaborators σ) (scene : Scene σ) (names : List String)
    : Scene σ :=
  let outside := names.foldl (fun outside name =>
    (collaborators.template name scene.files outside).2) scene.surroundings.outside
  { scene with surroundings := { scene.surroundings with outside } }

/-- What an event of a step does to a scene. Staging looks up templates and does nothing else;
writing, undoing and saving change the tree only; commands and checkpoints change what their
collaborator changes, and recording changes the run state.
-/
def RunEvent.Leads (setup : RunSetup σ) (options : Options) (step : Step)
    (before after : Scene σ)
    : RunEvent → Prop
  | .staged outcome =>
      (step.stageMutations setup.collaborators options).run.run before = (outcome, after)
      ∧ ∃ names, names <+: step.templates ∧ after = before.consulting setup.collaborators names
  | .committed stage outcome =>
      ∃ files,
        (before.workspace.commit stage).run.run before.files
          = (outcome.map (before.workspace, ·), files)
        ∧ after = before.withFiles files
  | .ran line answer =>
      ∃ surroundings,
        (setup.collaborators.command before.workspace.root line).run.run before.surroundings
          = (answer, surroundings)
        ∧ after = { before with surroundings }
  | .undone written =>
      ∃ outcome files,
        (before.workspace.restore written).run.run before.files = (outcome, files)
        ∧ after = before.withFiles files
  | .checkpointed message answer =>
      ∃ surroundings,
        (setup.collaborators.checkpoint message).run.run before.surroundings
          = (answer, surroundings)
        ∧ after = { before with surroundings }
  | .recorded name =>
      name ∉ before.state.completed
      ∧ after
        = { before with
            state := { before.state with completed := before.state.completed ++ [name] } }
  | .saved path outcome =>
      ∃ files,
        (before.state.write path).run.run before.files = (outcome, files)
        ∧ after = before.withFiles files

/-- Events of a step that follow one another, each from where the one before it led. -/
inductive Unfolds (setup : RunSetup σ) (options : Options) (step : Step)
    : Scene σ → List RunEvent → Scene σ → Prop
  | nil (scene) : Unfolds setup options step scene [] scene
  | cons {before middle after event events}
    (head : event.Leads setup options step before middle)
    (rest : Unfolds setup options step middle events after)
    : Unfolds setup options step before (event :: events) after

/-- The name that an event adds to the completed steps. -/
def RunEvent.recorded? : RunEvent → Option String
  | .recorded name => some name
  | _ => none

/-- No event changes the workspace, and only a record changes the run state; by cases on the event.
-/
theorem RunEvent.Leads.keeps {setup : RunSetup σ} {options : Options} {step : Step}
    {before after : Scene σ} {event : RunEvent}
    (lead : event.Leads setup options step before after)
    : after.workspace = before.workspace
      ∧ after.state
        = { before.state with
            completed := before.state.completed ++ event.recorded?.toList } := by
  cases event with
  | staged outcome =>
      obtain ⟨_, names, _, rfl⟩ := lead
      exact ⟨rfl, by simp [recorded?, Scene.consulting]⟩
  | committed stage outcome | saved path outcome =>
      obtain ⟨files, _, rfl⟩ := lead
      exact ⟨rfl, by simp [recorded?, Scene.withFiles]⟩
  | ran line answer | checkpointed message answer =>
      obtain ⟨surroundings, _, rfl⟩ := lead
      exact ⟨rfl, by simp [recorded?]⟩
  | undone written =>
      obtain ⟨_, files, _, rfl⟩ := lead
      exact ⟨rfl, by simp [recorded?, Scene.withFiles]⟩
  | recorded name =>
      obtain ⟨_, rfl⟩ := lead
      exact ⟨rfl, by simp [recorded?]⟩

/-- Events keep the workspace and add to the run state what they record; by induction on them. -/
theorem Unfolds.keeps {setup : RunSetup σ} {options : Options} {step : Step}
    {before after : Scene σ} {events : List RunEvent}
    (path : Unfolds setup options step before events after)
    : after.workspace = before.workspace
      ∧ after.state
        = { before.state with
            completed := before.state.completed ++ events.filterMap RunEvent.recorded? } := by
  induction path with
  | nil scene => simp
  | @cons before middle after event events head _ ih =>
      refine ⟨ih.1.trans head.keeps.1, ?_⟩
      rw [ih.2, head.keeps.2]
      cases kept : event.recorded? <;> simp [kept]

theorem Unfolds.append {setup : RunSetup σ} {options : Options} {step : Step}
    {before middle after : Scene σ} {first second : List RunEvent}
    (head : Unfolds setup options step before first middle)
    (tail : Unfolds setup options step middle second after)
    : Unfolds setup options step before (first ++ second) after := by
  induction head with
  | nil => exact tail
  | cons lead _ ih => exact .cons lead (ih tail)

/-- A single event unfolds. -/
theorem Unfolds.single {setup : RunSetup σ} {options : Options} {step : Step}
    {before after : Scene σ} {event : RunEvent}
    (lead : event.Leads setup options step before after)
    : Unfolds setup options step before [event] after :=
  .cons lead (.nil after)

-----------------------------------------------------------------------------------------
-- The order of the events
-----------------------------------------------------------------------------------------

/-- A command that succeeded. -/
def RunEvent.succeeded (command : String × CommandExit) : RunEvent := .ran command.1 (.ok command.2)

/-- The fault of a step whose command did not succeed, if it did not. -/
def Step.commandFault? (step : Step) (line : String)
    : Except Failure CommandExit → Option RunFault
  | .ok exit =>
      if exit.succeeded then none
      else some (.commandFailed step.name line exit.code exit.stderr)
  | .error failure => some (.commandFailed step.name line none failure.message)

/-- The commands of a step ended as listed, all of them well. -/
def Step.AllSucceed (step : Step) (exits : List (String × CommandExit)) : Prop :=
  step.commands = exits.map Prod.fst ∧ ∀ command ∈ exits, command.2.succeeded = true

/-- The commands of a step ended well as listed, up to one that did not. -/
def Step.StopsAt (step : Step) (exits : List (String × CommandExit)) (line : String) : Prop :=
  (∃ rest, step.commands = exits.map Prod.fst ++ line :: rest)
  ∧ ∀ command ∈ exits, command.2.succeeded = true

/-- The events up to the last of some commands that succeeded. -/
def writtenEvents (stage : Stage) (written : Written) (exits : List (String × CommandExit))
    : List RunEvent :=
  [.staged (.ok stage), .committed stage (.ok written)] ++ exits.map .succeeded

/-- The events of a step that is applied, and what becomes of it. The step stops at the first event
that does not end well; otherwise every event of the order comes once.
-/
inductive StepEvents (step : Step) (statePath : Option Path)
    : List RunEvent → Except RunFault StepStatus → Prop
  | unstaged (fault)
    : StepEvents step statePath [.staged (.error fault)] (.error fault)
  | uncommitted (stage failure)
    : StepEvents step statePath [.staged (.ok stage), .committed stage (.error failure)]
        (.error (.io step.name failure))
  | stopped (stage written exits line answer fault)
    (commands : step.StopsAt exits line)
    (fails : step.commandFault? line answer = some fault)
    : StepEvents step statePath
        (writtenEvents stage written exits ++ [.ran line answer, .undone written])
        (.error fault)
  | refused (stage written exits failure) (commands : step.AllSucceed exits)
    : StepEvents step statePath
        (writtenEvents stage written exits ++ [.checkpointed step.name (.error failure)])
        (.error (.checkpointFailed step.name failure))
  | unsaved (stage written exits path failure) (commands : step.AllSucceed exits)
    (kept : statePath = some path)
    : StepEvents step statePath
        (writtenEvents stage written exits
          ++ [.checkpointed step.name (.ok ()), .recorded step.name,
            .saved path (.error failure)])
        (.error (.checkpointFailed step.name failure))
  | applied (stage written exits) (commands : step.AllSucceed exits)
    : StepEvents step statePath
        (writtenEvents stage written exits
          ++ [.checkpointed step.name (.ok ()), .recorded step.name]
          ++ (statePath.map (RunEvent.saved · (.ok ()))).toList)
        (.ok (.applied stage.changedPaths step.commands.length))

/-- What becomes of a step: passed over without any event, or applied with the events of its order.
-/
inductive StepHistory (setup : RunSetup σ) (options : Options) (step : Step) (before : Scene σ)
    : List RunEvent → Except RunFault StepStatus → Scene σ → Prop
  | completed (done : step.name ∈ before.state.completed)
    : StepHistory setup options step before [] (.ok (.skipped .completed)) before
  | guarded (due : step.name ∉ before.state.completed)
    (off : step.guard.all (·.allows options) = false)
    : StepHistory setup options step before [] (.ok (.skipped .guard)) before
  | handled {events outcome after} (due : step.name ∉ before.state.completed)
    (on : step.guard.all (·.allows options) = true)
    (effects : Unfolds setup options step before events after)
    (order : StepEvents step setup.statePath events outcome)
    : StepHistory setup options step before events outcome after

/-- What becomes of steps taken in order up to the first fault, each with its events. -/
inductive RunHistory (setup : RunSetup σ) (options : Options)
    : List Step → Scene σ → List (Step × List RunEvent) → Except RunFault RunReport → Scene σ → Prop
  | finished (scene) : RunHistory setup options [] scene [] (.ok []) scene
  | halted {step rest before events fault after}
    (failed : StepHistory setup options step before events (.error fault) after)
    : RunHistory setup options (step :: rest) before [(step, events)] (.error fault) after
  | continued {step rest before events status middle history outcome after}
    (passed : StepHistory setup options step before events (.ok status) middle)
    (later : RunHistory setup options rest middle history outcome after)
    : RunHistory setup options (step :: rest) before ((step, events) :: history)
        (outcome.map (⟨step.name, status⟩ :: ·)) after

/-- The message of a checkpoint that was accepted. -/
def RunEvent.accepted? : RunEvent → Option String
  | .checkpointed message (.ok ()) => some message
  | _ => none

/-- The messages of the checkpoints of a history that were accepted, in order. -/
def acceptedMessages (history : List (Step × List RunEvent)) : List String :=
  history.flatMap fun entry => entry.2.filterMap RunEvent.accepted?

-----------------------------------------------------------------------------------------
-- Staging looks up templates and does nothing else
-----------------------------------------------------------------------------------------

theorem Scene.consulting_append (collaborators : Collaborators σ) (scene : Scene σ)
    (first second : List String)
    : (scene.consulting collaborators first).consulting collaborators second
      = scene.consulting collaborators (first ++ second) := by
  simp [Scene.consulting, Scene.files, List.foldl_append]

/-- A text is rendered or taken as it is, whatever the scene. -/
theorem Step.run_inlineText (σ : Type) (step : Step) (options : Options) (name text : String)
    (isTemplate : Bool)
    : ∃ outcome, ∀ scene : Scene σ,
        (step.inlineText options name text isTemplate : RunAction σ String).run.run scene
          = (outcome, scene) := by
  unfold Step.inlineText
  split
  · exact ⟨_, fun _ => RunAction.run_check _ _⟩
  · exact ⟨.ok text, fun _ => rfl⟩

/-- Working out an edit looks up the mutation's template, if it has one; by cases on its kind. -/
theorem Step.resolve_consulting (step : Step) (collaborators : Collaborators σ)
    (options : Options) (mutation : Mutation) (scene : Scene σ)
    : ∃ outcome,
        (step.resolve collaborators options mutation).run.run scene
          = (outcome, scene.consulting collaborators mutation.template?.toList) := by
  cases mutation with
  | insertAfter file anchor payload lenient render | insertBefore file anchor payload lenient render =>
      obtain ⟨outcome, ran⟩ := step.run_inlineText σ options "payload" payload render
      simp only [Step.resolve, run_bind, ran]
      cases outcome <;> exact ⟨_, rfl⟩
  | replace file anchor replacement firstOnly render =>
      obtain ⟨outcome, ran⟩ := step.run_inlineText σ options "replacement" replacement render
      simp only [Step.resolve, run_bind, ran]
      cases outcome <;> exact ⟨_, rfl⟩
  | copyTemplate template dest render =>
      simp only [Step.resolve, run_bind, RunAction.run_template, RunAction.run_check]
      cases (collaborators.template template scene.files scene.surroundings.outside).1 with
      | error failure => exact ⟨_, rfl⟩
      | ok source =>
          cases render with
          | false => exact ⟨_, rfl⟩
          | true =>
              simp only [mapError_ok, if_true, run_bind, RunAction.run_check]
              cases Template.renderBytes template source options <;> exact ⟨_, rfl⟩
  | writeNew dest content => exact ⟨_, rfl⟩

/-- Taking a mutation into a stage looks up its template, if it has one. -/
theorem Step.stageMutation_consulting (step : Step) (collaborators : Collaborators σ)
    (options : Options) (stage : Stage) (mutation : Mutation) (scene : Scene σ)
    : ∃ outcome,
        (step.stageMutation collaborators options stage mutation).run.run scene
          = (outcome, scene.consulting collaborators mutation.template?.toList) := by
  obtain ⟨resolved, ran⟩ := step.resolve_consulting collaborators options mutation scene
  simp only [Step.stageMutation, run_bind, ran]
  cases resolved with
  | error fault => exact ⟨_, rfl⟩
  | ok edit =>
      simp only [RunAction.run_getScene, RunAction.run_check]
      cases stage.load _ _ mutation.target with
      | error failure => exact ⟨_, rfl⟩
      | ok loaded =>
          simp only [mapError_ok]
          cases edit.apply loaded.1 with
          | error fault => exact ⟨_, rfl⟩
          | ok outcome =>
              cases outcome with
              | unchanged => exact ⟨_, rfl⟩
              | changed content => exact ⟨_, RunAction.run_check _ _⟩

/-- Staging looks up the templates of the mutations up to the first that fails; by induction on the
mutations, each of which looks up its own.
-/
theorem Step.stageMutations_consulting (step : Step) (collaborators : Collaborators σ)
    (options : Options) (scene : Scene σ)
    : ∃ outcome names,
        (step.stageMutations collaborators options).run.run scene
          = (outcome, scene.consulting collaborators names)
        ∧ names <+: step.templates := by
  have staging (mutations : List Mutation) (stage : Stage) (scene : Scene σ)
      : ∃ outcome names,
          (mutations.foldlM (step.stageMutation collaborators options) stage).run.run scene
            = (outcome, scene.consulting collaborators names)
          ∧ names <+: mutations.filterMap Mutation.template? := by
    induction mutations generalizing stage scene with
    | nil => exact ⟨.ok stage, [], rfl, List.nil_prefix⟩
    | cons mutation rest ih =>
        have templates : (mutation :: rest).filterMap Mutation.template?
            = mutation.template?.toList ++ rest.filterMap Mutation.template? := by
          cases asked : mutation.template? <;> simp [asked]
        obtain ⟨first, ran⟩ :=
          step.stageMutation_consulting collaborators options stage mutation scene
        rw [List.foldlM_cons, run_bind, ran]
        cases first with
        | error fault => exact ⟨_, _, rfl, templates ▸ List.prefix_append _ _⟩
        | ok next =>
            obtain ⟨outcome, names, later, within⟩ :=
              ih next (scene.consulting collaborators mutation.template?.toList)
            refine ⟨outcome, mutation.template?.toList ++ names, ?_, ?_⟩
            · simp only [later, Scene.consulting_append]
            · exact templates ▸ (List.prefix_append_right_inj _).mpr within
  exact staging step.mutations {} scene

-----------------------------------------------------------------------------------------
-- Every part of a step is one event, or one for each command
-----------------------------------------------------------------------------------------

/-- A commit to the tree keeps the workspace; by cases on how its two phases end. -/
theorem Workspace.commit_outcome {workspace : Workspace} (wet : workspace.dryRun = false)
    (stage : Stage) (files : Files)
    : ∃ outcome after,
        (workspace.commit stage).run.run files = (Except.map (workspace, ·) outcome, after) := by
  simp only [Workspace.commit, wet, Bool.false_eq_true, if_false, run_bind]
  rcases (Workspace.prepare workspace.root [] stage.changed).run.run files with
    ⟨failure | prepared, middle⟩
  · exact ⟨.error failure, middle, rfl⟩
  · simp only
    rcases (Workspace.place workspace.root [] prepared).run.run middle with
      ⟨failure | written, after⟩
    · exact ⟨.error failure, after, rfl⟩
    · exact ⟨.ok written, after, rfl⟩

/-- Restoring files of the tree keeps the workspace. -/
theorem Workspace.restore_outcome {workspace : Workspace} (wet : workspace.dryRun = false)
    (written : Written) (files : Files)
    : ∃ outcome after,
        (workspace.restore written).run.run files
          = (Except.map (fun _ : Unit => workspace) outcome, after) := by
  simp only [Workspace.restore, wet, Bool.false_eq_true, if_false, run_bind]
  rcases (Workspace.restoreFiles workspace.root written.reverse).run.run files with
    ⟨failure | _, after⟩
  · exact ⟨.error failure, after, rfl⟩
  · exact ⟨.ok (), after, rfl⟩

/-- How writing what was staged runs: as the commit to the tree does. -/
theorem Step.run_commit (step : Step) {stage : Stage} {scene : Scene σ}
    {outcome : Except Failure Written} {files : Files}
    (ran : (scene.workspace.commit stage).run.run scene.files
      = (outcome.map (scene.workspace, ·), files))
    : (step.commit stage).run.run scene
      = (outcome.mapError (.io step.name), scene.withFiles files) := by
  simp only [Step.commit, run_bind, RunAction.run_getScene, RunAction.run_onFiles, ran,
    RunAction.run_check]
  cases outcome <;> rfl

/-- A dry commit keeps the changed files of its stage beside the tree, which stays as it is. -/
theorem Step.run_commit_dry (step : Step) (stage : Stage) {scene : Scene σ}
    (dry : scene.workspace.dryRun = true)
    : (step.commit stage).run.run scene
      = (.ok (Workspace.writtenOf stage.changed),
          { scene with workspace := scene.workspace.lay stage.changed }) := by
  have laid : (scene.workspace.commit stage).run.run scene.files
      = (.ok (scene.workspace.lay stage.changed, Workspace.writtenOf stage.changed), scene.files) := by
    rw [Workspace.commit, if_pos dry]
    rfl
  simp only [Step.commit, run_bind, RunAction.run_getScene, RunAction.run_onFiles, laid,
    RunAction.run_check]
  rfl

/-- Writing what was staged is one commit event, whose failure is a fault of the step. -/
theorem Step.commit_event (setup : RunSetup σ) (options : Options) (step : Step) (stage : Stage)
    {scene : Scene σ} (wet : scene.workspace.dryRun = false)
    : ∃ outcome after,
        (step.commit stage).run.run scene = (outcome.mapError (.io step.name), after)
        ∧ (RunEvent.committed stage outcome).Leads setup options step scene after := by
  obtain ⟨outcome, files, ran⟩ := Workspace.commit_outcome wet stage scene.files
  exact ⟨outcome, scene.withFiles files, step.run_commit ran, ⟨files, ran, rfl⟩⟩

/-- Undoing a step is one event; nothing to restore leaves the tree alone. -/
theorem Step.undo_event (setup : RunSetup σ) (options : Options) (step : Step) (written : Written)
    {scene : Scene σ} (wet : scene.workspace.dryRun = false)
    : ∃ after,
        (Step.undo written).run.run scene = (.ok (), after)
        ∧ (RunEvent.undone written).Leads setup options step scene after := by
  obtain ⟨outcome, files, ran⟩ := Workspace.restore_outcome wet written scene.files
  refine ⟨scene.withFiles files, ?_, ⟨_, files, ran, rfl⟩⟩
  unfold Step.undo
  split
  · next empty =>
      obtain rfl := List.isEmpty_iff.mp empty
      have same : files = scene.files := by
        rw [Workspace.restore, wet] at ran
        exact (congrArg Prod.snd ran).symm
      rw [same]
      rfl
  · simp only [run_bind, RunAction.run_getScene, RunAction.run_onFiles, ran]
    cases outcome <;> rfl

/-- How the commands of a step end: all well, or with one that does not succeed, after which the
step is undone.
-/
inductive CommandsEnd (setup : RunSetup σ) (options : Options) (step : Step) (written : Written)
    (lines : List String) (before : Scene σ)
    : Except RunFault Unit → Scene σ → Prop
  | well {after : Scene σ} (exits : List (String × CommandExit))
    (named : lines = exits.map Prod.fst)
    (succeed : ∀ command ∈ exits, command.2.succeeded = true)
    (events : Unfolds setup options step before (exits.map .succeeded) after)
    : CommandsEnd setup options step written lines before (.ok ()) after
  | badly {after : Scene σ} (exits : List (String × CommandExit)) (line : String)
    (rest : List String) (answer : Except Failure CommandExit) (fault : RunFault)
    (named : lines = exits.map Prod.fst ++ line :: rest)
    (succeed : ∀ command ∈ exits, command.2.succeeded = true)
    (fails : step.commandFault? line answer = some fault)
    (events : Unfolds setup options step before
      (exits.map .succeeded ++ [.ran line answer, .undone written]) after)
    : CommandsEnd setup options step written lines before (.error fault) after

/-- Commands run in order up to the first that does not succeed, which undoes the step; by
induction on the commands.
-/
theorem Step.runCommands_events (setup : RunSetup σ) (options : Options) (step : Step)
    (written : Written) (lines : List String) {scene : Scene σ}
    (wet : scene.workspace.dryRun = false)
    : ∃ result after,
        (step.runCommands setup written lines).run.run scene = (result, after)
        ∧ CommandsEnd setup options step written lines scene result after := by
  induction lines generalizing scene with
  | nil => exact ⟨.ok (), scene, rfl, .well [] rfl (by simp) (.nil scene)⟩
  | cons line rest ih =>
      rcases asked : (setup.collaborators.command scene.workspace.root line).run.run
        scene.surroundings with ⟨answer, surroundings⟩
      have lead : (RunEvent.ran line answer).Leads setup options step scene
          { scene with surroundings } := ⟨surroundings, asked, rfl⟩
      have asked_wet : { scene with surroundings }.workspace.dryRun = false := wet
      obtain ⟨undone, undoes, undoLead⟩ :=
        step.undo_event setup options written asked_wet
      cases fails : step.commandFault? line answer with
      | some fault =>
          refine ⟨.error fault, undone, ?_,
            .badly [] line rest answer fault rfl (by simp) fails (.cons lead (.single undoLead))⟩
          simp only [Step.runCommands, run_bind, RunAction.run_getScene, RunAction.run_ask, asked]
          cases answer with
          | error failure =>
              cases fails
              simp only [run_bind, undoes]
              rfl
          | ok exit =>
              cases good : exit.succeeded <;> simp only [Step.commandFault?, good] at fails
              · cases fails
                simp only [good, Bool.false_eq_true, if_false, run_bind, undoes]
                rfl
              · cases fails
      | none =>
          obtain ⟨exit, rfl, good⟩ : ∃ exit, answer = .ok exit ∧ exit.succeeded = true := by
            cases answer with
            | error failure => cases fails
            | ok exit =>
                cases good : exit.succeeded <;> simp [Step.commandFault?, good] at fails
                exact ⟨exit, rfl, good⟩
          obtain ⟨result, after, ran, ended⟩ := ih asked_wet
          refine ⟨result, after, ?_, ?_⟩
          · simp only [Step.runCommands, run_bind, RunAction.run_getScene, RunAction.run_ask,
              asked, good, if_true, ran]
          · cases ended with
            | well exits named succeed events =>
                exact .well ((line, exit) :: exits) (by simp [named]) (by simpa [good] using succeed)
                  (.cons lead events)
            | badly exits stop more answer fault named succeed fails events =>
                exact .badly ((line, exit) :: exits) stop more answer fault (by simp [named])
                  (by simpa [good] using succeed) fails (.cons lead events)

-----------------------------------------------------------------------------------------
-- Steps and runs have histories
-----------------------------------------------------------------------------------------

@[simp]
theorem filterMap_recorded?_succeeded (exits : List (String × CommandExit))
    : exits.filterMap (RunEvent.recorded? ∘ RunEvent.succeeded) = [] :=
  List.filterMap_eq_nil_iff.mpr fun _ _ => rfl

@[simp]
theorem filterMap_accepted?_succeeded (exits : List (String × CommandExit))
    : exits.filterMap (RunEvent.accepted? ∘ RunEvent.succeeded) = [] :=
  List.filterMap_eq_nil_iff.mpr fun _ _ => rfl

/-- Asking for the checkpoint of a step is one event. -/
theorem Step.checkpoint_event (setup : RunSetup σ) (options : Options) (step : Step)
    (scene : Scene σ)
    : ∃ answer after,
        (RunAction.ask (setup.collaborators.checkpoint step.name)).run.run scene
          = (.ok answer, after)
        ∧ (RunEvent.checkpointed step.name answer).Leads setup options step scene after :=
  ⟨_, _, RunAction.run_ask _, ⟨_, rfl, rfl⟩⟩

/-- Recording a step that is not completed appends its name, then writes the run state if it is
kept in a file; only the writing may fail.
-/
theorem Step.record_events (setup : RunSetup σ) (options : Options) (step : Step)
    {scene : Scene σ} (due : step.name ∉ scene.state.completed)
    : ∃ outcome after saves,
        (step.record setup).run.run scene
          = (Except.mapError (.checkpointFailed step.name) outcome, after)
        ∧ Unfolds setup options step scene (.recorded step.name :: saves) after
        ∧ ((outcome = .ok () ∧ saves = (setup.statePath.map (RunEvent.saved · (.ok ()))).toList)
          ∨ ∃ path failure,
              setup.statePath = some path
              ∧ outcome = .error failure
              ∧ saves = [.saved path (.error failure)]) := by
  let marked : Scene σ := { scene with
    state := { scene.state with completed := scene.state.completed ++ [step.name] } }
  have marks : { scene with state := scene.state.markCompleted step.name } = marked := by
    simp [RunState.markCompleted, RunState.isCompleted, due, marked]
  have lead : (RunEvent.recorded step.name).Leads setup options step scene marked := ⟨due, rfl⟩
  have modifies : (modifyThe (Scene σ) fun scene =>
      { scene with state := scene.state.markCompleted step.name } : RunAction σ PUnit).run.run scene
      = (.ok (), marked) := congrArg (Prod.mk (Except.ok ())) marks
  simp only [Step.record, run_bind, modifies]
  cases kept : setup.statePath with
  | none => exact ⟨.ok (), marked, [], rfl, .single lead, .inl ⟨rfl, rfl⟩⟩
  | some path =>
      rcases wrote : (marked.state.write path).run.run marked.files with ⟨outcome, files⟩
      refine ⟨outcome, marked.withFiles files, [.saved path outcome], ?_,
        .cons lead (.single ⟨files, wrote, rfl⟩), ?_⟩
      · simp only [run_bind, RunAction.run_getScene, RunAction.run_onFiles, wrote,
          RunAction.run_check]
      · cases outcome with
        | ok _ => exact .inl ⟨rfl, rfl⟩
        | error failure => exact .inr ⟨path, failure, rfl, rfl, rfl⟩

/-- What a step does once its files are written: commands, checkpoint and record, in this order and
up to the first that fails.
-/
theorem Step.afterCommit_events (setup : RunSetup σ) (options : Options) (step : Step)
    (stage : Stage) (written : Written) {scene : Scene σ}
    (wet : scene.workspace.dryRun = false) (due : step.name ∉ scene.state.completed)
    : ∃ events outcome after,
        (do
            step.runCommands setup written step.commands
            RunAction.check (.checkpointFailed step.name)
              (← RunAction.ask (setup.collaborators.checkpoint step.name))
            step.record setup
            return .applied stage.changedPaths step.commands.length
            : RunAction σ StepStatus).run.run scene
          = (outcome, after)
        ∧ Unfolds setup options step scene events after
        ∧ StepEvents step setup.statePath
            ([.staged (.ok stage), .committed stage (.ok written)] ++ events) outcome := by
  obtain ⟨commandResult, ran, commands, ended⟩ :=
    step.runCommands_events setup options written step.commands wet
  rw [run_bind, commands]
  cases ended with
  | badly exits line rest answer fault named succeed fails events =>
      refine ⟨_, _, ran, rfl, events, ?_⟩
      rw [← List.append_assoc]
      exact .stopped stage written exits line answer fault ⟨⟨rest, named⟩, succeed⟩ fails
  | well exits named succeed events =>
      obtain ⟨answer, asked, asks, checkpointLead⟩ := step.checkpoint_event setup options ran
      simp only [run_bind, asks, RunAction.run_check]
      have toCheckpoint := events.append (.single checkpointLead)
      cases answer with
      | error failure =>
          refine ⟨_, _, asked, rfl, toCheckpoint, ?_⟩
          rw [← List.append_assoc]
          exact .refused stage written exits failure ⟨named, succeed⟩
      | ok _ =>
          have still : asked.state = scene.state := by
            simp [toCheckpoint.keeps.2, List.filterMap_cons, RunEvent.recorded?]
          obtain ⟨outcome, after, saves, recorded, recordEvents, ends⟩ :=
            step.record_events setup options (still ▸ due)
          simp only [mapError_ok, recorded]
          have together := toCheckpoint.append recordEvents
          rw [List.append_assoc] at together
          rcases ends with ⟨rfl, rfl⟩ | ⟨path, failure, kept, rfl, rfl⟩
          · refine ⟨_, _, after, rfl, together, ?_⟩
            rw [← List.append_assoc]
            have order : StepEvents step setup.statePath _ _ :=
              .applied stage written exits ⟨named, succeed⟩
            rwa [List.append_assoc] at order
          · refine ⟨_, _, after, rfl, together, ?_⟩
            rw [← List.append_assoc]
            exact .unsaved stage written exits path failure ⟨named, succeed⟩ kept

/-- A step that is due and allowed goes through the events of its order; by following it from
staging to its record and stopping where it fails.
-/
theorem Step.applyStep_events (setup : RunSetup σ) (options : Options) (step : Step)
    {scene : Scene σ} (wet : scene.workspace.dryRun = false)
    (due : step.name ∉ scene.state.completed)
    : ∃ events outcome after,
        (step.applyStep setup options).run.run scene = (outcome, after)
        ∧ Unfolds setup options step scene events after
        ∧ StepEvents step setup.statePath events outcome := by
  obtain ⟨stagedOutcome, names, staged, within⟩ :=
    step.stageMutations_consulting setup.collaborators options scene
  have stagedLead : (RunEvent.staged stagedOutcome).Leads setup options step scene
      (scene.consulting setup.collaborators names) := ⟨staged, names, within, rfl⟩
  rw [Step.applyStep, run_bind, staged]
  cases stagedOutcome with
  | error fault => exact ⟨_, _, _, rfl, .single stagedLead, .unstaged fault⟩
  | ok stage =>
      obtain ⟨commitOutcome, committed, commits, commitLead⟩ :=
        step.commit_event setup options stage
          (show (scene.consulting setup.collaborators names).workspace.dryRun = false from wet)
      have toCommit := Unfolds.cons stagedLead (.single commitLead)
      simp only [run_bind, commits]
      cases commitOutcome with
      | error failure => exact ⟨_, _, committed, rfl, toCommit, .uncommitted stage failure⟩
      | ok written =>
          have kept := toCommit.keeps
          obtain ⟨events, outcome, after, ran, unfolds, order⟩ :=
            step.afterCommit_events setup options stage written
              (show committed.workspace.dryRun = false from kept.1 ▸ wet)
              (by rw [kept.2]; simpa [RunEvent.recorded?] using due)
          refine ⟨_, outcome, after, ?_, toCommit.append unfolds, order⟩
          simp only [mapError_ok, RunAction.run_getScene, kept.1, wet]
          exact ran

/-- Every step of a run on the tree has a history. -/
theorem Step.run_stepHistory (setup : RunSetup σ) (options : Options) (step : Step)
    {scene : Scene σ} (wet : scene.workspace.dryRun = false)
    : ∃ events outcome after,
        (step.run setup options).run.run scene = (outcome, after)
        ∧ StepHistory setup options step scene events outcome after := by
  rw [Step.run_eq]
  by_cases done : step.name ∈ scene.state.completed
  · exact ⟨[], _, scene, by simp [RunState.isCompleted, done], .completed done⟩
  · cases on : step.guard.all (·.allows options) with
    | false => exact ⟨[], _, scene, by simp [RunState.isCompleted, done], .guarded done on⟩
    | true =>
        obtain ⟨events, outcome, after, ran, unfolds, order⟩ :=
          step.applyStep_events setup options wet done
        exact ⟨events, outcome, after, by simp [RunState.isCompleted, done, ran],
          .handled done on unfolds order⟩

theorem StepHistory.keeps {setup : RunSetup σ} {options : Options} {step : Step}
    {before after : Scene σ} {events : List RunEvent} {outcome : Except RunFault StepStatus}
    (history : StepHistory setup options step before events outcome after)
    : after.workspace = before.workspace
      ∧ after.state
        = { before.state with
            completed := before.state.completed ++ events.filterMap RunEvent.recorded? } := by
  cases history with
  | completed | guarded => simp
  | handled _ _ effects _ => exact effects.keeps

/-- Steps run on the tree have a history, and a fault names its last step; by induction on the
steps, each of which keeps the workspace.
-/
theorem Pipeline.runSteps_history (setup : RunSetup σ) (options : Options) (steps : List Step)
    {scene : Scene σ} (wet : scene.workspace.dryRun = false)
    : ∃ history outcome after,
        (runSteps setup options steps).run.run scene = (outcome, after)
        ∧ RunHistory setup options steps scene history outcome after
        ∧ ∀ fault, outcome = .error fault →
            ∃ earlier step events,
              history = earlier ++ [(step, events)] ∧ fault.step? = some step.name := by
  induction steps generalizing scene with
  | nil => exact ⟨[], _, scene, rfl, .finished scene, nofun⟩
  | cons step rest ih =>
      obtain ⟨events, outcome, middle, ran, passed⟩ := step.run_stepHistory setup options wet
      rw [runSteps, run_bind, ran]
      cases outcome with
      | error fault =>
          refine ⟨_, _, middle, rfl, .halted passed, ?_⟩
          rintro _ ⟨⟩
          exact ⟨[], step, events, rfl, step.run_blames setup options scene fault middle ran⟩
      | ok status =>
          obtain ⟨history, outcome, after, later, continues, named⟩ :=
            ih (show middle.workspace.dryRun = false from passed.keeps.1 ▸ wet)
          refine ⟨_, _, after, ?_, .continued passed continues, ?_⟩
          · simp only [run_bind, later]
            cases outcome <;> rfl
          · intro fault failed
            cases outcome with
            | ok report => cases failed
            | error found =>
                cases failed
                obtain ⟨earlier, last, events, rfl, blamed⟩ := named fault rfl
                exact ⟨_ :: earlier, last, events, rfl, blamed⟩

-----------------------------------------------------------------------------------------
-- What a history says of the steps it reaches
-----------------------------------------------------------------------------------------

/-- A step is recorded exactly if its checkpoint is accepted, and then once and under its name; by
cases on where its events end.
-/
theorem StepEvents.accepted {step : Step} {statePath : Option Path} {events : List RunEvent}
    {outcome : Except RunFault StepStatus} (order : StepEvents step statePath events outcome)
    : events.filterMap RunEvent.recorded? = events.filterMap RunEvent.accepted?
      ∧ (events.filterMap RunEvent.accepted? = []
        ∨ events.filterMap RunEvent.accepted? = [step.name]) := by
  cases order with
  | unstaged | uncommitted => simp [List.filterMap_cons, RunEvent.recorded?, RunEvent.accepted?]
  | stopped | refused | unsaved =>
      simp [writtenEvents, List.filterMap_cons, RunEvent.recorded?, RunEvent.accepted?]
  | applied =>
      cases statePath <;>
        simp [writtenEvents, List.filterMap_cons, RunEvent.recorded?, RunEvent.accepted?]

theorem StepHistory.accepted {setup : RunSetup σ} {options : Options} {step : Step}
    {before after : Scene σ} {events : List RunEvent} {outcome : Except RunFault StepStatus}
    (history : StepHistory setup options step before events outcome after)
    : events.filterMap RunEvent.recorded? = events.filterMap RunEvent.accepted?
      ∧ (events.filterMap RunEvent.accepted? = []
        ∨ events.filterMap RunEvent.accepted? = [step.name]) := by
  cases history with
  | completed | guarded => simp
  | handled _ _ _ order => exact order.accepted

/-- The completed steps grow by the accepted checkpoints, which are messages of the steps reached,
in order; by induction on the history.
-/
theorem RunHistory.completed {setup : RunSetup σ} {options : Options} {steps : List Step}
    {before after : Scene σ} {history : List (Step × List RunEvent)}
    {outcome : Except RunFault RunReport}
    (run : RunHistory setup options steps before history outcome after)
    : after.state
        = { before.state with
            completed := before.state.completed ++ acceptedMessages history }
      ∧ (acceptedMessages history).Sublist (steps.map (·.name)) := by
  induction run with
  | finished scene => simp [acceptedMessages]
  | @halted step rest before events fault after failed =>
      obtain ⟨same, accepted⟩ := failed.accepted
      refine ⟨by simp [failed.keeps.2, acceptedMessages, same], ?_⟩
      rcases accepted with none | one
      · simp [acceptedMessages, none]
      · simp [acceptedMessages, one]
  | @continued step rest before events status middle history outcome after passed _ ih =>
      obtain ⟨same, accepted⟩ := passed.accepted
      refine ⟨by simp [ih.1, passed.keeps.2, acceptedMessages, same], ?_⟩
      rcases accepted with none | one
      · simpa [acceptedMessages, none] using ih.2.cons step.name
      · simpa [acceptedMessages, one] using ih.2.cons_cons step.name

/-- The steps of a history are the first of those that were to be run, and all of them unless the
last one failed; by induction on the history.
-/
theorem RunHistory.steps {setup : RunSetup σ} {options : Options} {steps : List Step}
    {before after : Scene σ} {history : List (Step × List RunEvent)}
    {outcome : Except RunFault RunReport}
    (run : RunHistory setup options steps before history outcome after)
    : history.map Prod.fst <+: steps
      ∧ (∀ report, outcome = .ok report →
          history.map Prod.fst = steps ∧ report.map (·.name) = steps.map (·.name)) := by
  induction run with
  | finished scene => simp
  | halted failed => simp
  | @continued step rest before events status middle history outcome after passed _ ih =>
      refine ⟨by simpa using ih.1, ?_⟩
      intro report ended
      cases outcome with
      | error fault => cases ended
      | ok later =>
          cases ended
          simpa using ih.2 later rfl

/-- A run keeps its workspace; by induction on the history. -/
theorem RunHistory.workspace {setup : RunSetup σ} {options : Options} {steps : List Step}
    {before after : Scene σ} {history : List (Step × List RunEvent)}
    {outcome : Except RunFault RunReport}
    (run : RunHistory setup options steps before history outcome after)
    : after.workspace = before.workspace := by
  induction run with
  | finished scene => rfl
  | halted failed => exact failed.keeps.1
  | continued passed _ ih => exact ih.trans passed.keeps.1

-----------------------------------------------------------------------------------------
-- Histories of whole runs
-----------------------------------------------------------------------------------------

/-- A pipeline without flaws whose run state is its own does nothing but run its steps. -/
theorem Pipeline.run_eq {pipeline : Pipeline} (setup : RunSetup σ) {scene : Scene σ}
    (sound : pipeline.flaws = []) (own : scene.state.pipeline = pipeline.name)
    : (pipeline.run setup).run.run scene
      = (runSteps setup (Dictionary.layer pipeline.options setup.options)
          pipeline.steps).run.run scene := by
  rw [Pipeline.run, run_bind, RunAction.run_getScene]
  simp [sound, own]

/-- A run on the tree takes the steps of its pipeline in order up to the first fault, which names
the step that it arose in. Every step it reaches is passed over without an event or goes through
the events of its order, and the completed steps grow by the accepted checkpoints, in order.
-/
theorem Pipeline.run_history {pipeline : Pipeline} {setup : RunSetup σ} {scene : Scene σ}
    (sound : pipeline.flaws = []) (own : scene.state.pipeline = pipeline.name)
    (wet : scene.workspace.dryRun = false)
    : ∃ history outcome after,
        (pipeline.run setup).run.run scene = (outcome, after)
        ∧ RunHistory setup (Dictionary.layer pipeline.options setup.options) pipeline.steps scene
            history outcome after
        ∧ history.map Prod.fst <+: pipeline.steps
        ∧ (∀ report, outcome = .ok report →
            history.map Prod.fst = pipeline.steps
            ∧ report.map (·.name) = pipeline.steps.map (·.name))
        ∧ (∀ fault, outcome = .error fault →
            ∃ earlier step events,
              history = earlier ++ [(step, events)] ∧ fault.step? = some step.name)
        ∧ after.workspace = scene.workspace
        ∧ after.state
          = { scene.state with
              completed := scene.state.completed ++ acceptedMessages history }
        ∧ (acceptedMessages history).Sublist (pipeline.steps.map (·.name)) := by
  obtain ⟨history, outcome, after, ran, run, named⟩ :=
    runSteps_history setup (Dictionary.layer pipeline.options setup.options) pipeline.steps wet
  rw [run_eq setup sound own]
  exact ⟨history, outcome, after, ran, run, run.steps.1, run.steps.2, named, run.workspace,
    run.completed⟩

/-- A pipeline of two steps that write a file each, of which the second runs a command. -/
def Pipeline.noting : Pipeline where
  name := "notes"
  steps :=
    [{ name := "write", mutations := [.writeNew ⟨"notes.txt", []⟩ "first\n"] },
      { name := "check", mutations := [.writeNew ⟨"log.txt", []⟩ "checked\n"],
        commands := ["false"] }]

/-- The collaborators of a rehearsal in which one command does not succeed. -/
def Collaborators.failing (line : String) : Collaborators Notes where
  command := Notes.command [(line, { outcome := .ok ⟨some 1, ""⟩ })]
  checkpoint := Notes.checkpoint []
  template name _ notes := (.error (.ofMessage name), notes)

/-- An empty tree that the steps of a pipeline are to be applied to from the top. -/
def Scene.blank (pipeline : String) : Scene Notes where
  workspace := ⟨⟨"", [""]⟩, false, []⟩
  state := ⟨pipeline, ⟨"", [""]⟩, []⟩
  surroundings := ⟨.empty, {}⟩

/-- A run that stops at its second step has a history. -/
theorem Pipeline.run_history_noting
    : ∃ history outcome after,
        (noting.run { collaborators := .failing "false" }).run.run (.blank "notes")
          = (outcome, after)
        ∧ history.map Prod.fst <+: noting.steps
        ∧ after.state.completed = acceptedMessages history := by
  obtain ⟨history, outcome, after, ran, _, reached, _, _, _, completed, _⟩ :=
    @run_history _ noting { collaborators := .failing "false" } (.blank "notes") (by decide) rfl rfl
  exact ⟨history, outcome, after, ran, reached, by simp [completed, Scene.blank]⟩

end Groundwork
