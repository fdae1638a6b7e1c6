import Groundwork.Failure

/-!
Actions on a tree of files. What an action did before it failed stays done.
-/

namespace Groundwork

/-- An action that may change a tree and may fail. -/
abbrev FileAction := ExceptT Failure (StateM Files)

namespace FileAction

variable {α : Type}

/-- Asks something of the tree. -/
def look (question : Files → Except Failure α) : FileAction α :=
  ExceptT.mk fun files => (question files, files)

/-- Changes the tree, or fails while doing what `context` says. -/
def change (context : String) (operation : Files → Except FileFault Files) : FileAction Unit :=
  ExceptT.mk fun files =>
    match operation files with
    | .ok after => (.ok (), after)
    | .error fault => (.error (.ofFiles fault context), files)

/-- Makes a directory and those above it. -/
def makeDirectories (path : Path) : FileAction Unit :=
  ExceptT.mk fun files =>
    match files.makeDirectories path with
    | (after, .ok ()) => (.ok (), after)
    | (after, .error fault) => (.error (.ofFiles fault s!"create directory {path}"), after)

/-- Does what it can of an action and goes on. -/
def quietly (action : FileAction α) : FileAction Unit :=
  ExceptT.mk fun files => (.ok (), (action.run.run files).2)

/-- Does something else if an action fails, and fails with it. -/
def orUndo (action : FileAction α) (undo : FileAction Unit) : FileAction α :=
  tryCatch action fun failure => do
    quietly undo
    throw failure

end FileAction

end Groundwork
