import Groundwork.Assignment
import Groundwork.CommandLine.Invocation
import Groundwork.Run.Basic
import Groundwork.Run.Source
import Groundwork.StateDirectory

/-!
The commands of the program: to apply a pipeline, to check its definition, and to show which of its
steps are done. A fault in a step ends with another code than one that was found before any step.
-/

namespace Groundwork.CommandLine

/-- The name of the program. -/
def programName : String := "scaffold"

def programVersion : String := "0.1.0"

/-- What the program leaves behind: a code, and what it wrote. -/
structure Ending where
  code : Nat
  stdout : String := ""
  stderr : String := ""
deriving Repr, DecidableEq

/-- The code if nothing failed. -/
def successCode : Nat := 0

/-- The code if a step failed. -/
def stepCode : Nat := 1

/-- The code if the definition, the settings, the run state or the arguments are at fault. -/
def invalidCode : Nat := 2

/-- Why a command fails. -/
inductive CommandFault where
  | run (fault : RunFault)
  | other (failure : Failure)
deriving Repr, DecidableEq

namespace CommandFault

/-- What is written about a fault. -/
def text : CommandFault → String
  | .run fault =>
      match fault.step? with
      | some step =>
          s!"{programName}: step {Text.quoted step} failed\n{fault.message}\n" ++
            "fix the cause and re-run to resume from this step\n"
      | none => s!"{programName}: {fault.message}\n"
  | .other failure => s!"{programName}: {failure.message}\n"

def code : CommandFault → Nat
  | .run fault => if fault.step?.isSome then stepCode else invalidCode
  | .other _ => invalidCode

end CommandFault

/-- What a command does: it acts on files and repositories and may fail. -/
abbrev CommandAction := ExceptT CommandFault (StateM (Surroundings Outside))

namespace CommandAction

variable {α : Type}

/-- Passes a failure on. -/
def check : Except Failure α → CommandAction α
  | .ok value => pure value
  | .error failure => throw (.other failure)

/-- Passes a fault of a run on. -/
def checkRun : Except RunFault α → CommandAction α
  | .ok value => pure value
  | .error fault => throw (.run fault)

def files : CommandAction Files := return (← getThe (Surroundings Outside)).files

/-- Asks something of the repositories. -/
def ofRepositories (request : Request Git.Repositories α) : CommandAction α := do
  let surroundings ← getThe (Surroundings Outside)
  let (result, after) := (Outside.ofRepositories request).run.run surroundings
  set after
  check result

/-- Does something to the tree. -/
def onFiles (action : FileAction α) : CommandAction α := do
  let surroundings ← getThe (Surroundings Outside)
  let (result, files) := action.run.run surroundings.files
  set { surroundings with files }
  check result

end CommandAction

/-! ## Options -/

/-- Options with assignments laid over them, the last one of a name on top. -/
def assignAll (options : Options) : List String → Except Failure Options
  | [] => .ok options
  | raw :: rest =>
      match Assignment.parse raw with
      | .error fault => .error (.ofMessage fault.message)
      | .ok assignment => assignAll (options.insert assignment.key assignment.value) rest

/-! ## Reports -/

/-- The lines about one step. -/
def stepLines (report : StepReport) : List String :=
  match report.status with
  | .applied files commands =>
      [s!"applied  {report.name} ({files.length} files, {commands} commands)"]
  | .planned files =>
      s!"planned  {report.name}" :: files.map fun file => s!"           {file}"
  | .skipped .completed => [s!"skipped  {report.name} (already completed)"]
  | .skipped .guard => [s!"skipped  {report.name} (guard)"]

/-- Lines with their ends. -/
def unlines (lines : List String) : String := String.join (lines.map (· ++ "\n"))

def reportText (report : RunReport) : String := unlines (report.flatMap stepLines)

/-- Whether a step is done, as `status` shows it. -/
def statusLine (state : RunState) (step : Step) : String :=
  (if state.isCompleted step.name then "done    " else "pending ") ++ step.name

/-! ## Commands -/

/-- Whether steps are committed. -/
def makesCommits (arguments : ApplyArguments) (settings : Settings) : Bool :=
  settings.checkpoint.enabled && !arguments.noCheckpoint && !arguments.dryRun

/-- Where templates come from: the directory that is given, or the one of the pipeline. -/
def templateSource (arguments : ApplyArguments) (pipeline : Pipeline) : TemplateSource :=
  match arguments.templates.or (pipeline.templatesDir? arguments.pipeline) with
  | some root => .directory root
  | none => .none

/-- The run that arguments and settings ask for. -/
def setupOf (arguments : ApplyArguments) (settings : Settings) (pipeline : Pipeline)
    (options : Options) : RunSetup Outside where
  collaborators :=
    .ofSources arguments.target (.shell (.ofSettings settings))
      (if makesCommits arguments settings then .git settings.checkpoint.messagePrefix else .none)
      (templateSource arguments pipeline)
  statePath :=
    if arguments.dryRun then none else some (StateDirectory.ofRoot arguments.target).runState
  options

/-- What was found to start a run from. -/
structure ApplyPlan where
  pipeline : Pipeline
  setup : RunSetup Outside
  state : RunState

/-- Where the run of a plan starts. -/
def ApplyPlan.scene (plan : ApplyPlan) (arguments : ApplyArguments)
    (surroundings : Surroundings Outside) : Scene Outside :=
  ⟨⟨arguments.target, arguments.dryRun, []⟩, plan.state, surroundings⟩

/-- Checks all that a run depends on, before anything is changed. -/
def plan (arguments : ApplyArguments) : CommandAction ApplyPlan := do
  let pipeline ← CommandAction.checkRun (Pipeline.load (← CommandAction.files) arguments.pipeline)
  if !(← CommandAction.files).isDirectory arguments.target then
    throw (.other (.ofMessage s!"target {arguments.target} is not a directory"))
  let paths := StateDirectory.ofRoot arguments.target
  let settings ← CommandAction.check
    (Settings.load (← CommandAction.files) (arguments.settings.getD paths.settings))
  let options ← CommandAction.check (assignAll settings.options arguments.assignments)
  if makesCommits arguments settings then
    CommandAction.ofRepositories ((WorkTree.mk arguments.target).ensureReady
      settings.checkpoint.requireClean StateDirectory.pathPrefix)
  let state ← CommandAction.check
    (RunState.loadOrNew (← CommandAction.files) paths.runState pipeline.name arguments.target)
  return { pipeline, setup := setupOf arguments settings pipeline options, state }

/-- Runs the pipeline of a plan. -/
def ApplyPlan.run (plan : ApplyPlan) (arguments : ApplyArguments) : CommandAction RunReport := do
  let scene := plan.scene arguments (← getThe (Surroundings Outside))
  let (result, scene) := (plan.pipeline.run plan.setup).run.run scene
  set scene.surroundings
  CommandAction.checkRun result

/-- Applies a pipeline to a target. -/
def apply (arguments : ApplyArguments) : CommandAction RunReport := do
  let plan ← plan arguments
  if !arguments.dryRun then
    let _ ← CommandAction.onFiles (StateDirectory.init arguments.target)
  plan.run arguments

/-- Reads a definition and tells how many steps it has. -/
def check (path : Path) : CommandAction String := do
  let pipeline ← CommandAction.checkRun (Pipeline.load (← CommandAction.files) path)
  return s!"{pipeline.name}: {pipeline.steps.length} steps\n"

/-- Shows which steps of a pipeline are done in a target. -/
def status (path target : Path) : CommandAction String := do
  let pipeline ← CommandAction.checkRun (Pipeline.load (← CommandAction.files) path)
  let found := RunState.loadOrNew (← CommandAction.files) (StateDirectory.ofRoot target).runState
    pipeline.name target
  let state ← CommandAction.check (found.mapError (·.within s!"status for {target}"))
  return unlines (pipeline.steps.map (statusLine state))

/-! ## Help -/

/-- How the program is used. -/
def helpText : String :=
  unlines
    ["Apply declarative, resumable scaffolding pipelines", "",
      s!"Usage: {programName} [OPTIONS] <COMMAND>", "", "Commands:",
      "  apply   Apply a pipeline to a target directory, skipping already checkpointed steps",
      "  check   Validate a pipeline definition without touching any files",
      "  status  Show which steps of a pipeline are done in a target directory",
      "  help    Print this message or the help of the given subcommand(s)", "", "Options:",
      "  -v, --verbose  Log step progress to stderr",
      "  -h, --help     Print help", "  -V, --version  Print version"]

/-- What is written about arguments that cannot be taken. -/
def usageText (fault : UsageFault) : String :=
  match fault with
  | .missingCommand => helpText
  | fault => s!"error: {fault.message}\n\nFor more information, try '--help'.\n"

/-! ## Runs of the program -/

/-- What a command leaves behind. -/
def endingOf : Except CommandFault String → Ending
  | .ok output => { code := successCode, stdout := output }
  | .error fault => { code := fault.code, stderr := fault.text }

/-- Carries out what is asked for. -/
def Invocation.run (invocation : Invocation) : StateM (Surroundings Outside) Ending := do
  match invocation with
  | .apply arguments =>
      let applied : CommandAction String := do return reportText (← CommandLine.apply arguments)
      return endingOf (← applied.run)
  | .check path => return endingOf (← (CommandLine.check path).run)
  | .status path target => return endingOf (← (CommandLine.status path target).run)
  | .version => return { code := successCode, stdout := s!"{programName} {programVersion}\n" }
  | .help => return { code := successCode, stdout := helpText }
  | .refused fault => return { code := invalidCode, stderr := usageText fault }

/-- Runs the program with arguments. -/
def run (arguments : List String) : StateM (Surroundings Outside) Ending :=
  (Invocation.read arguments).run

end Groundwork.CommandLine
