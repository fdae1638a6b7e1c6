import Groundwork.Edit
import Groundwork.Failure
import Groundwork.Pipeline.Flaw

/-!
What makes a run of a pipeline fail. Every fault that arises in a step names the step.
-/

namespace Groundwork

/-- A reason why a definition is refused. -/
inductive Refusal where
  | flaw (flaw : Flaw)
  | unreadable (fault : TomlFault)
  /-- The file of the definition cannot be read. -/
  | unreachable (path : Path) (fault : FileFault)
  /-- The run state was recorded for a pipeline of another name. -/
  | foreignState (recorded expected : String)
  | other (message : String)
deriving Repr, DecidableEq

def Refusal.message : Refusal → String
  | .flaw found => found.message
  | .unreadable fault => s!"parse pipeline: {fault.message}"
  | .unreachable path fault => s!"read {path}: {fault.message}"
  | .foreignState recorded expected =>
      s!"run state belongs to pipeline '{recorded}', not '{expected}'"
  | .other message => message

/-- Why a run failed. -/
inductive RunFault where
  | anchorNotFound (step : String) (file : Path) (anchor : String)
  | writeConflict (step : String) (file : Path)
  /-- A command did not succeed; it has no code if it did not exit by itself. -/
  | commandFailed (step command : String) (code : Option Int) (stderr : String)
  | checkpointFailed (step : String) (failure : Failure)
  | malformed (reasons : List Refusal)
  /-- A file cannot be edited because it is missing or no text. -/
  | uneditable (step : String) (file : Path) (fault : EditFault)
  | io (step : String) (failure : Failure)
deriving Repr, DecidableEq

namespace RunFault

/-- A fault of an edit, as a fault of the step that it belongs to. -/
def ofEdit (step : String) (file : Path) : EditFault → RunFault
  | .anchorNotFound anchor => .anchorNotFound step file anchor
  | .writeConflict => .writeConflict step file
  | fault => .uneditable step file fault

/-- The step that failed, if the fault arose in one. -/
def step? : RunFault → Option String
  | .anchorNotFound step .. | .writeConflict step .. | .commandFailed step ..
  | .checkpointFailed step .. | .uneditable step .. | .io step .. => some step
  | .malformed _ => none

def exitText : Option Int → String
  | some code => s!"exited with status {code}"
  | none => "did not exit normally"

/-- What a command wrote about its failure, if anything. -/
def stderrText (stderr : String) : String :=
  let text := Text.trimmed stderr
  if text.isEmpty then "" else s!": {text}"

def message : RunFault → String
  | .anchorNotFound step file anchor =>
      s!"step {Text.quoted step}: anchor {anchor} not found in {file}"
  | .writeConflict step file =>
      s!"step {Text.quoted step}: {file} already exists with different content"
  | .commandFailed step command code stderr =>
      s!"step {Text.quoted step}: command `{command}` {exitText code}{stderrText stderr}"
  | .checkpointFailed step failure =>
      s!"step {Text.quoted step}: checkpoint failed: {failure.message}"
  | .malformed reasons =>
      "malformed pipeline definition:\n- " ++ "\n- ".intercalate (reasons.map Refusal.message)
  | .uneditable step file fault => s!"step {Text.quoted step}: {file}: {fault.message}"
  | .io step failure => s!"step {Text.quoted step}: {failure.message}"

end RunFault

end Groundwork
