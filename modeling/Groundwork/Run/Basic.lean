import Groundwork.Pipeline.Flaw
import Groundwork.Run.Staging
import Groundwork.RunState.Store

/-!
Runs of pipelines. The steps are taken in order and the first fault ends the run. A step writes its
files, runs its commands and makes its checkpoint; only then is it recorded as done, so that a later
run goes on after it. If a command fails, the files of its step are put back. A report tells what became
of each step that did not fail, in the order of the steps.
-/

namespace Groundwork

/-- Why a step was passed over. -/
inductive SkipReason where
  /-- The run state has it as done. -/
  | completed
  /-- Its guard does not allow it. -/
  | guard
deriving Repr, DecidableEq

/-- What became of a step. -/
inductive StepStatus where
  | skipped (reason : SkipReason)
  /-- Its files were written, its commands succeeded and its checkpoint was made. -/
  | applied (files : List Path) (commands : Nat)
  /-- The files that it would change; a dry run does no more than find them. -/
  | planned (files : List Path)
deriving Repr, DecidableEq

/-- What became of one step. -/
structure StepReport where
  name : String
  status : StepStatus
deriving Repr, DecidableEq

/-- What became of the steps of a run. -/
abbrev RunReport := List StepReport

namespace RunReport

/-- What became of the first step of a name. -/
def status? (report : RunReport) (name : String) : Option StepStatus :=
  (report.find? fun step => step.name == name).map (·.status)

end RunReport

/-- What stays the same throughout a run. -/
structure RunSetup (σ : Type) where
  collaborators : Collaborators σ
  /-- Where the run state is written after every step. -/
  statePath : Option Path := none
  options : Options := []

namespace Step

variable {σ : Type}

/-- Puts back the files that a failed step wrote, as far as that is possible. -/
def undo (written : Written) : RunAction σ Unit :=
  if written.isEmpty then pure ()
  else do
    let scene ← getThe (Scene σ)
    match ← RunAction.onFiles (scene.workspace.restore written) with
    | .ok workspace => modifyThe (Scene σ) fun scene => { scene with workspace }
    | .error _ => pure ()

/-- Runs commands in order. After one that fails no other is run, and the files written before are
put back. -/
def runCommands (step : Step) (setup : RunSetup σ) (written : Written)
    : List String → RunAction σ Unit
  | [] => pure ()
  | line :: rest => do
      let scene ← getThe (Scene σ)
      match ← RunAction.ask (setup.collaborators.command scene.workspace.root line) with
      | .ok exit =>
          if exit.succeeded then step.runCommands setup written rest
          else do
            undo written
            throw (.commandFailed step.name line exit.code exit.stderr)
      | .error failure =>
          undo written
          throw (.commandFailed step.name line none failure.message)

/-- Writes what was staged. -/
def commit (step : Step) (stage : Stage) : RunAction σ Written := do
  let scene ← getThe (Scene σ)
  let (workspace, written) ← RunAction.check (.io step.name)
    (← RunAction.onFiles (scene.workspace.commit stage))
  modifyThe (Scene σ) fun scene => { scene with workspace }
  return written

/-- Records the step as done, in the run state and then in its file. -/
def record (step : Step) (setup : RunSetup σ) : RunAction σ Unit := do
  modifyThe (Scene σ) fun scene => { scene with state := scene.state.markCompleted step.name }
  match setup.statePath with
  | none => pure ()
  | some path =>
      let scene ← getThe (Scene σ)
      RunAction.check (.checkpointFailed step.name)
        (← RunAction.onFiles (scene.state.write path))

/-- Does all that the step asks for. -/
def applyStep (step : Step) (setup : RunSetup σ) (options : Options)
    : RunAction σ StepStatus := do
  let stage ← step.stageMutations setup.collaborators options
  let written ← step.commit stage
  if (← getThe (Scene σ)).workspace.dryRun then return .planned stage.changedPaths
  else
    step.runCommands setup written step.commands
    RunAction.check (.checkpointFailed step.name)
      (← RunAction.ask (setup.collaborators.checkpoint step.name))
    step.record setup
    return .applied stage.changedPaths step.commands.length

/-- Applies the step unless it is done already or its guard does not allow it. -/
def run (step : Step) (setup : RunSetup σ) (options : Options) : RunAction σ StepStatus := do
  if (← getThe (Scene σ)).state.isCompleted step.name then return .skipped .completed
  else if !step.guard.all (·.allows options) then return .skipped .guard
  else step.applyStep setup options

end Step

namespace Pipeline

variable {σ : Type}

/-- Runs steps in order up to the first fault. -/
def runSteps (setup : RunSetup σ) (options : Options) : List Step → RunAction σ RunReport
  | [] => return []
  | step :: rest => do
      let status ← step.run setup options
      let report ← runSteps setup options rest
      return ⟨step.name, status⟩ :: report

/-- Runs a pipeline. Options of the setup go before those of the pipeline. -/
def run (pipeline : Pipeline) (setup : RunSetup σ) : RunAction σ RunReport := do
  let recorded := (← getThe (Scene σ)).state.pipeline
  if !pipeline.flaws.isEmpty then throw (.malformed (pipeline.flaws.map .flaw))
  else if recorded != pipeline.name then
    throw (.malformed [.foreignState recorded pipeline.name])
  else runSteps setup (Dictionary.layer pipeline.options setup.options) pipeline.steps

end Pipeline

end Groundwork
