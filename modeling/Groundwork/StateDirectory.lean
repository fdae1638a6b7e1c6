import Groundwork.Files.Action

/-!
The directory inside a target that holds run state and settings. It tells version control to ignore
all that lies in it.
-/

namespace Groundwork

/-- The paths of the state directory of a target. -/
structure StateDirectory where
  root : Path
  directory : Path
  ignoreFile : Path
  runState : Path
  settings : Path
deriving Repr, DecidableEq

namespace StateDirectory

/-- The name of the directory below the target. -/
def name : String := ".scaffold"

/-- What paths of the directory begin with, seen from the target. -/
def pathPrefix : String := name ++ "/"

/-- The content of the ignore file: a pattern that all names match. -/
def ignoreAll : String := "*\n"

/-- The paths for a target. -/
def ofRoot (root : Path) : StateDirectory :=
  let directory := root.join (Path.ofString name)
  { root, directory
    ignoreFile := directory.join (Path.ofString ".gitignore")
    runState := directory.join (Path.ofString "run_state.json")
    settings := directory.join (Path.ofString "config.toml") }

/-- Makes the directory and its ignore file, as far as they are missing. -/
def init (root : Path) : FileAction StateDirectory := do
  let paths := ofRoot root
  FileAction.makeDirectories paths.directory
  if !(← getThe Files).exists? paths.ignoreFile then
    FileAction.change s!"write file {paths.ignoreFile}"
      (·.write paths.ignoreFile ignoreAll.toUTF8)
  return paths

end StateDirectory

end Groundwork
