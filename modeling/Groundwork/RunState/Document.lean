import Groundwork.Json.Printer
import Groundwork.Json.Typed
import Groundwork.RunState.Basic

/-!
Run states as JSON documents. An object may have other fields, which are passed over, but none of
its own twice; a list holds the three fields in order.
-/

namespace Groundwork.RunState

open Groundwork.Json

/-- The names of the fields of a document. -/
def pipelineField : String := "pipeline"

def directoryField : String := "working_directory"

def completedField : String := "completed_steps"

/-! ## Writing -/

/-- The items of a list, each on a line of its own. -/
def writeCompleted (steps : List String) : String :=
  if steps.isEmpty then "[]"
  else "[\n" ++ ",\n".intercalate (steps.map fun step => "    " ++ writeString step) ++ "\n  ]"

/-- One field on a line. -/
def writeField (name value : String) : String := "  " ++ writeString name ++ ": " ++ value

/-- The document of a run state. -/
def document (state : RunState) : String :=
  "\x7b\n" ++ ",\n".intercalate
    [writeField pipelineField (writeString state.pipeline),
      writeField directoryField (writeString state.workingDirectory.toString),
      writeField completedField (writeCompleted state.completed)] ++ "\n\x7d\n"

/-! ## Reading -/

/-- The fields of a document that were found. -/
structure Fields where
  pipeline : Option String := none
  directory : Option String := none
  completed : Option (List String) := none

namespace Fields

/-- The run state of the fields, all of which must be there. -/
def toState (fields : Fields) : Except Fault RunState :=
  match fields.pipeline, fields.directory, fields.completed with
  | some pipeline, some directory, some completed =>
      .ok ⟨pipeline, Path.ofString directory, completed⟩
  | none, _, _ => mismatch s!"missing field `{pipelineField}`"
  | _, none, _ => mismatch s!"missing field `{directoryField}`"
  | _, _, none => mismatch s!"missing field `{completedField}`"

/-- Whether a field was found already. -/
def has (fields : Fields) (name : String) : Bool :=
  (name == pipelineField && fields.pipeline.isSome) ||
    (name == directoryField && fields.directory.isSome) ||
    (name == completedField && fields.completed.isSome)

/-- Reads the value of a field. -/
def readValue (fields : Fields) (name : String) (text : List Char)
    : Except Fault (Fields × List Char) := do
  if name == pipelineField then
    let (value, rest) ← readTypedString text
    return ({ fields with pipeline := some value }, rest)
  else if name == directoryField then
    let (value, rest) ← readTypedString text
    return ({ fields with directory := some value }, rest)
  else if name == completedField then
    let (value, rest) ← readTypedStrings text
    return ({ fields with completed := some value }, rest)
  else return (fields, ← skipOne text)

/-- Reads the fields of an object up to its end; `fuel` bounds their number. -/
def read (fuel : Nat) (first : Bool) (fields : Fields) (text : List Char)
    : Except Fault (Fields × List Char) :=
  match fuel with
  | 0 => ended "EOF while parsing an object"
  | fuel + 1 => do
      let (more, text) ← nextKey first text
      if more then
        let (name, rest) ← readString text
        if fields.has name then mismatch s!"duplicate field `{name}`"
        else
          let (fields, rest) ← fields.readValue name (← readColon rest)
          read fuel false fields rest
      else return (fields, text)

end Fields

/-- Reads the item of a list that gives the field of some number. -/
def readItem {α : Type} (index : Nat) (item : List Char → Except Fault (Parsed α))
    (text : List Char) : Except Fault (Parsed α) := do
  let (more, text) ← nextItem (index == 0) text
  if more then item text
  else mismatch s!"invalid length {index}, expected struct RunState with 3 elements"

/-- Reads a run state and the text after it. -/
def readState (text : List Char) : Except Fault (RunState × List Char) :=
  match skipBlanks text with
  | '\x7b' :: rest => do
      let (fields, rest) ← Fields.read (rest.length + 1) true {} rest
      return (← fields.toState, rest)
  | '[' :: rest => do
      let (pipeline, rest) ← readItem 0 readTypedString rest
      let (directory, rest) ← readItem 1 readTypedString rest
      let (completed, rest) ← readItem 2 readTypedStrings rest
      return (⟨pipeline, Path.ofString directory, completed⟩, ← endList rest)
  | other => refuse other

/-- Reads a document. -/
def ofDocument (text : String) : Except Fault RunState := do
  let (state, rest) ← readState text.toList
  endDocument rest
  return state

end Groundwork.RunState
