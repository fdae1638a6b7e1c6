import Groundwork.Workspace.Basic

/-!
Writing what a step staged: all of its files or none of them. Every file is first written beside its
place under another name and then moved there; if a move fails, the files before it are put back.
-/

namespace Groundwork

/-- Files that were written, in the order of writing, with what they held before. -/
abbrev Written := List (Path × Option ByteArray)

namespace Workspace

/-- The ending of the names under which files are written first. -/
def temporaryEnding : String := "scaffold-tmp"

/-- The name beside a file under which it is written first. -/
def temporaryPath (target : Path) : Except Failure Path :=
  match target.fileName? with
  | none => .error (.ofMessage s!"{target} has no file name")
  | some name => .ok (target.withFileName s!".{name}.{temporaryEnding}")

/-- Writes a content beside the file it is meant for, in a directory that is made if need be. -/
def writeTemporary (target : Path) (content : ByteArray) : FileAction Path := do
  match target.parent? with
  | some parent => FileAction.makeDirectories parent
  | none => pure ()
  let temporary ← FileAction.look fun _ => temporaryPath target
  FileAction.change s!"write temp file {temporary}" (·.write temporary content)
  return temporary

/-- A file written beside its place. -/
structure Prepared where
  temporary : Path
  target : Path
  file : StagedFile

/-- Removes files that were written beside their places, as far as they are there. -/
def discard : List Prepared → FileAction Unit
  | [] => pure ()
  | p :: rest => do
      FileAction.quietly (FileAction.change "" (·.removeFile p.temporary))
      discard rest

/-- Writes every file beside its place; those `before` were written already. -/
def prepare (root : Path) (before : List Prepared) : List StagedFile → FileAction (List Prepared)
  | [] => return before
  | file :: rest => do
      let target := root.join file.path
      let content := file.current.getD .empty
      let temporary ← (writeTemporary target content).orUndo (discard before)
      prepare root (before ++ [⟨temporary, target, file⟩]) rest

/-- Puts back what one file held before, or removes it if it was not there. -/
def restoreFile (root : Path) (path : Path) (loaded : Option ByteArray) : FileAction Unit := do
  let target := root.join path
  match loaded with
  | some content =>
      let temporary ← writeTemporary target content
      FileAction.change s!"restore {target}" (·.rename temporary target)
  | none =>
      FileAction.change s!"remove {target}" fun files =>
        match files.removeFile target with
        | .error .notFound => .ok files
        | result => result

/-- Puts files back one after the other, up to the first that cannot be. -/
def restoreFiles (root : Path) : Written → FileAction Unit
  | [] => pure ()
  | (path, loaded) :: rest => do
      restoreFile root path loaded
      restoreFiles root rest

/-- Moves files to their places; those in `before` were moved already. -/
def place (root : Path) (before : Written) : List Prepared → FileAction Written
  | [] => return before
  | p :: rest => do
      let undo : FileAction Unit := do
        discard (p :: rest)
        restoreFiles root before.reverse
      (FileAction.change s!"replace {p.target}" (·.rename p.temporary p.target)).orUndo undo
      place root (before ++ [(p.file.path, p.file.loaded)]) rest

/-- The files to be written with what they held before. -/
def writtenOf (files : List StagedFile) : Written := files.map fun file => (file.path, file.loaded)

/-- Keeps contents beside the tree. -/
def lay (workspace : Workspace) (files : List StagedFile) : Workspace :=
  let overlay := files.foldl (fun overlay file =>
    overlay.insert file.path.components (file.current.getD .empty)) workspace.overlay
  { workspace with overlay }

/-- Writes every changed file of a stage, or none. -/
def commit (workspace : Workspace) (stage : Stage) : FileAction (Workspace × Written) :=
  if workspace.dryRun then
    return (workspace.lay stage.changed, writtenOf stage.changed)
  else do
    let prepared ← prepare workspace.root [] stage.changed
    let written ← place workspace.root [] prepared
    return (workspace, written)

/-- Takes contents that are kept beside the tree back to what they were. -/
def unlay (workspace : Workspace) : Written → Workspace
  | [] => workspace
  | (path, loaded) :: rest =>
      let overlay :=
        match loaded with
        | some content => workspace.overlay.insert path.components content
        | none => workspace.overlay.erase path.components
      unlay { workspace with overlay } rest

/-- Puts back what was written, the last file first. -/
def restore (workspace : Workspace) (written : Written) : FileAction Workspace :=
  if workspace.dryRun then return workspace.unlay written.reverse
  else do
    restoreFiles workspace.root written.reverse
    return workspace

end Workspace

end Groundwork
