import Groundwork.CommandLine.Basic

/-!
The program on real files: the trees that it is about are read, the command is carried out on them,
and what it changed is written back. Command lines are run by the shell of this library, and no
repositories are read, so checkpoints have to be turned off.
-/

namespace Groundwork

/-- The location that the text of a path leads to. -/
def locationOf (text : String) : Location := (text.splitOn "/").filter fun name => !name.isEmpty

/-- The text of the path of a location. -/
def pathOf (location : Location) : String := "/" ++ "/".intercalate location

/-- The tree with the directories above a location. -/
def withAncestors (files : Files) (location : Location) : Files :=
  (List.range (location.length + 1)).foldl (fun files depth =>
    if depth == 0 then files else files.setNode (location.take depth) .directory) files

/-- Reads what lies at a location and below it. -/
partial def loadTree (files : Files) (location : Location) : IO Files := do
  let path := (← IO.currentDir) / pathOf location
  if ← path.isDir then
    let mut loaded := if location.isEmpty then files else files.setNode location .directory
    for found in ← path.readDir do
      loaded ← loadTree loaded (location ++ [found.fileName])
    return loaded
  else if ← path.pathExists then
    return files.setNode location (.file (← IO.FS.readBinFile path) false)
  else return files

/-- Reads the tree that an argument is about, if it is the path of something that is not yet
there. -/
def loadArgument (files : Files) (argument : String) : IO Files := do
  let path := (← IO.currentDir) / argument
  if argument.isEmpty || !(← path.pathExists) then return files
  else
    let location := locationOf (← IO.FS.realPath path).toString
    let top := if ← path.isDir then location else location.dropLast
    if (files.node? location).isSome then return files
    else loadTree (withAncestors files top) top

/-- Writes one node of a tree. -/
def storeNode (location : Location) : FileNode → IO Unit
  | .directory => IO.FS.createDirAll (pathOf location)
  | .file content executable => do
      IO.FS.writeBinFile (pathOf location) content
      if executable then
        IO.setAccessRights (pathOf location)
          ⟨⟨true, true, true⟩, ⟨true, false, true⟩, ⟨true, false, true⟩⟩

/-- Writes back what has changed. -/
def storeChanges (before after : Files) : IO Unit := do
  for (location, node) in before.nodes.reverse do
    if after.node? location != some node then
      let path := (← IO.currentDir) / pathOf location
      if ← path.isDir then
        if after.node? location != some .directory then IO.FS.removeDirAll path
      else if ← path.pathExists then IO.FS.removeFile path
  for (location, node) in after.nodes do
    if before.node? location != some node then storeNode location node

end Groundwork

open Groundwork in
/-- Runs the program in the working directory. -/
def main (arguments : List String) : IO UInt32 := do
  let base := locationOf (← IO.currentDir).toString
  let mut files ← loadTree (withAncestors Files.empty base) base
  for argument in arguments do
    files ← loadArgument files argument
  let before : Files := { files with base }
  let (ending, after) := (CommandLine.run arguments).run ⟨before, {}⟩
  storeChanges before after.files
  IO.print ending.stdout
  IO.eprint ending.stderr
  return UInt32.ofNat ending.code
