import Groundwork.Run.Scene

/-!
Rehearsals of runs: what commands do and which checkpoints are refused is given beforehand, and what
was asked is noted down.
-/

namespace Groundwork

/-- What a command does in a rehearsal: it writes, removes and makes what is listed, then ends. -/
structure CommandScript where
  write : List (Path × ByteArray) := []
  remove : List Path := []
  make : List Path := []
  outcome : Except Failure CommandExit := .ok ⟨some 0, ""⟩

/-- What a rehearsal noted down. -/
structure Notes where
  /-- The command lines that were run. -/
  calls : List String := []
  /-- The messages of the checkpoints that were not refused. -/
  checkpoints : List String := []
deriving Repr, DecidableEq

namespace Files

/-- Writes a file, making the directories above it. -/
def writeBelow (files : Files) (path : Path) (content : ByteArray) : Except FileFault Files :=
  match path.parent? with
  | none => files.write path content
  | some parent =>
      match files.makeDirectories parent with
      | (made, .ok ()) => made.write path content
      | (_, .error fault) => .error fault

/-- Removes what a path leads to, if anything. -/
def removeAny (files : Files) (path : Path) : Files := (files.removeTree path).toOption.getD files

end Files

namespace CommandScript

/-- The tree after a command did what is listed; what cannot be done is passed over. -/
def perform (script : CommandScript) (root : Path) (files : Files) : Files :=
  let files := script.write.foldl (fun files entry =>
    (files.writeBelow (root.join entry.1) entry.2).toOption.getD files) files
  let files := script.remove.foldl (fun files path => files.removeAny (root.join path)) files
  script.make.foldl (fun files path => (files.makeDirectories (root.join path)).1) files

end CommandScript

namespace Notes

/-- Runs a command as its script says; a command without a script does nothing and succeeds. -/
def command (scripts : Dictionary String CommandScript) (root : Path) (line : String)
    : Request Notes CommandExit :=
  ExceptT.mk fun surroundings =>
    let script := (scripts.get? line).getD {}
    let notes := { surroundings.outside with calls := surroundings.outside.calls ++ [line] }
    (script.outcome, ⟨script.perform root surroundings.files, notes⟩)

/-- Notes a checkpoint unless it is to be refused. -/
def checkpoint (refusals : Dictionary String Failure) (message : String) : Request Notes Unit :=
  ExceptT.mk fun surroundings =>
    match refusals.get? message with
    | some failure => (.error failure, surroundings)
    | none =>
        let notes := surroundings.outside
        (.ok (), { surroundings with
          outside := { notes with checkpoints := notes.checkpoints ++ [message] } })

end Notes

end Groundwork
