import Groundwork.Files.Action

/-!
The target directory of a pipeline, and the pending changes of one step. A file is read once and then
edited in memory; nothing is written. In a dry run changes are kept beside the tree, where later steps see
them.
-/

namespace Groundwork

/-- What a path names, whatever it is spelled like. -/
abbrev PathKey := List PathComponent

/-- The directory that a pipeline changes, with the changes of a dry run. -/
structure Workspace where
  root : Path
  dryRun : Bool
  overlay : Dictionary PathKey ByteArray := []

namespace Workspace

/-- The content of a file below the root, or nothing if there is no such file. -/
def read (workspace : Workspace) (files : Files) (path : Path)
    : Except Failure (Option ByteArray) :=
  match workspace.overlay.get? path.components with
  | some content => .ok (some content)
  | none =>
      let target := workspace.root.join path
      match files.read target with
      | .ok content => .ok (some content)
      | .error .notFound => .ok none
      | .error fault => .error (.ofFiles fault s!"read {target}")

end Workspace

/-- A file as it was read and as it is to be. -/
structure StagedFile where
  path : Path
  loaded : Option ByteArray
  current : Option ByteArray

namespace StagedFile

/-- Whether the file is to have another content than it was read with. -/
def isChanged (file : StagedFile) : Bool :=
  file.current.isSome && file.current != file.loaded

end StagedFile

/-- Pending changes by what their paths name; the first spelling of a path is kept. -/
structure Stage where
  files : Dictionary PathKey StagedFile := []

namespace Stage

/-- The content that a file is to have, read from the workspace on first use. -/
def load (stage : Stage) (workspace : Workspace) (files : Files) (path : Path)
    : Except Failure (Option ByteArray × Stage) :=
  match stage.files.get? path.components with
  | some file => .ok (file.current, stage)
  | none => do
      let loaded ← workspace.read files path
      let file : StagedFile := ⟨path, loaded, loaded⟩
      .ok (loaded, { stage with files := stage.files.insert path.components file })

/-- Sets the content that a file is to have, which must have been loaded. -/
def set (stage : Stage) (path : Path) (content : ByteArray) : Except Failure Stage :=
  match stage.files.get? path.components with
  | none => .error (.ofMessage s!"{path} was not loaded before staging")
  | some file =>
      let changed : StagedFile := { file with current := some content }
      .ok { stage with files := stage.files.insert path.components changed }

/-- The files to be written, in the order of their paths. -/
def changed (stage : Stage) : List StagedFile :=
  (stage.files.map (·.2)).filter StagedFile.isChanged

/-- The paths of the files to be written. -/
def changedPaths (stage : Stage) : List Path := stage.changed.map (·.path)

end Stage

end Groundwork
