import Groundwork.Files.Action
import Groundwork.RunState.Document

/-!
Run states in files. A file is replaced as a whole, by moving a new one to its place.
-/

namespace Groundwork.RunState

/-- Reads the run state in a file. -/
def load (files : Files) (path : Path) : Except Failure RunState :=
  match files.readText path with
  | .error fault => .error (.ofFiles fault s!"read run state {path}")
  | .ok text =>
      match ofDocument text with
      | .error fault => .error ⟨[s!"parse run state {path}"], .json fault⟩
      | .ok state => .ok state

/-- The run state of a pipeline: the one in a file, which must be of that pipeline, or a new one if
there is no file. -/
def loadOrNew (files : Files) (path : Path) (pipeline : String) (workingDirectory : Path)
    : Except Failure RunState :=
  if files.exists? path then do
    let state ← load files path
    if state.pipeline == pipeline then .ok state
    else
      .error (.ofMessage
        s!"run state {path} belongs to pipeline '{state.pipeline}', not '{pipeline}'")
  else .ok { pipeline, workingDirectory }

/-- The ending of the name under which a new file is written first. -/
def temporaryEnding : String := "json.tmp"

/-- Writes the run state to a file. -/
def write (state : RunState) (path : Path) : FileAction Unit := do
  match path.parent? with
  | none => throw (.ofMessage s!"run state path missing parent {path}")
  | some parent =>
      FileAction.makeDirectories parent
      let temporary := path.withExtension temporaryEnding
      FileAction.change s!"write temp run state {temporary}"
        (·.write temporary state.document.toUTF8)
      FileAction.change s!"replace run state {path}" (·.rename temporary path)

end Groundwork.RunState
