import Groundwork.RunFault
import Groundwork.RunState.Basic
import Groundwork.Workspace.Commit

/-!
What a run needs from outside, commands, checkpoints and templates, and what it acts on. Collaborators
have a state of their own, so what they answer may depend on all that they were asked before. What an
action changed before it failed stays changed, the run state included.
-/

namespace Groundwork

/-- How a command ended. It has no code if it did not exit by itself. -/
structure CommandExit where
  code : Option Int
  stderr : String
deriving Repr, DecidableEq

namespace CommandExit

def succeeded (exit : CommandExit) : Bool := exit.code == some 0

end CommandExit

/-- A tree of files and the state of the collaborators. -/
structure Surroundings (σ : Type) where
  files : Files
  outside : σ

/-- What is asked of a collaborator: it may change the tree and its own state, and it may fail. -/
abbrev Request (σ α : Type) := ExceptT Failure (StateM (Surroundings σ)) α

/-- Those that a run depends on. -/
structure Collaborators (σ : Type) where
  /-- Runs a command line in a directory; it fails if the command cannot be started. -/
  command : (directory : Path) → (line : String) → Request σ CommandExit
  /-- Records that a step was done. -/
  checkpoint : (message : String) → Request σ Unit
  /-- The bytes of a template; looking for it changes no files. -/
  template : (name : String) → (files : Files) → σ → Except Failure ByteArray × σ

/-- The target of a run, what is recorded of it, and what surrounds it. -/
structure Scene (σ : Type) where
  workspace : Workspace
  state : RunState
  surroundings : Surroundings σ

namespace Scene

variable {σ : Type}

def files (scene : Scene σ) : Files := scene.surroundings.files

/-- The scene with another tree of files. -/
def withFiles (scene : Scene σ) (files : Files) : Scene σ :=
  { scene with surroundings := { scene.surroundings with files } }

end Scene

/-- An action on a scene that may fail. -/
abbrev RunAction (σ α : Type) := ExceptT RunFault (StateM (Scene σ)) α

namespace RunAction

variable {σ α : Type}

/-- Passes a failure on as a fault of a run. -/
def check (fault : Failure → RunFault) : Except Failure α → RunAction σ α
  | .ok value => pure value
  | .error failure => throw (fault failure)

/-- Does something to the tree, and passes on how it ended. -/
def onFiles (action : FileAction α) : RunAction σ (Except Failure α) :=
  ExceptT.mk fun scene =>
    let (result, files) := action.run.run scene.files
    (.ok result, scene.withFiles files)

/-- Asks something of a collaborator, and passes on what it answers. -/
def ask (request : Request σ α) : RunAction σ (Except Failure α) :=
  ExceptT.mk fun scene =>
    let (result, surroundings) := request.run.run scene.surroundings
    (.ok result, { scene with surroundings })

/-- Asks for a template. -/
def template (collaborators : Collaborators σ) (name : String)
    : RunAction σ (Except Failure ByteArray) :=
  ExceptT.mk fun scene =>
    let (result, outside) := collaborators.template name scene.files scene.surroundings.outside
    (.ok result, { scene with surroundings := { scene.surroundings with outside } })

end RunAction

end Groundwork
