import Groundwork.Git.WorkTree
import Groundwork.Execution.Basic
import Groundwork.Run.Rehearsal
import Groundwork.TemplateSource

/-!
Where the commands, checkpoints and templates of a run come from.
-/

namespace Groundwork

/-- The state of collaborators: repositories, and the notes of a rehearsal. -/
structure Outside where
  repositories : Git.Repositories := []
  notes : Notes := {}

namespace Outside

variable {α : Type}

/-- Asks something of the repositories. -/
def ofRepositories (request : Request Git.Repositories α) : Request Outside α :=
  ExceptT.mk fun surroundings =>
    let (result, after) :=
      request.run.run ⟨surroundings.files, surroundings.outside.repositories⟩
    (result, ⟨after.files, { surroundings.outside with repositories := after.outside }⟩)

/-- Asks something of a rehearsal. -/
def ofNotes (request : Request Notes α) : Request Outside α :=
  ExceptT.mk fun surroundings =>
    let (result, after) := request.run.run ⟨surroundings.files, surroundings.outside.notes⟩
    (result, ⟨after.files, { surroundings.outside with notes := after.outside }⟩)

end Outside

/-- What runs commands: a shell, or scripts of a rehearsal. -/
inductive CommandSource where
  | shell (shell : CommandShell)
  | scripted (scripts : Dictionary String CommandScript)

/-- What takes checkpoints: nothing, commits with what stands before their messages, or the notes of
a rehearsal, which may refuse some. -/
inductive CheckpointSource where
  | none
  | git (start : Option String)
  | noted (refusals : Dictionary String Failure)

/-- The collaborators of a run on a target. -/
def Collaborators.ofSources (target : Path) (commands : CommandSource)
    (checkpoints : CheckpointSource) (templates : TemplateSource) : Collaborators Outside where
  command directory line :=
    match commands with
    | .shell shell => shell.run directory line
    | .scripted scripts => Outside.ofNotes (Notes.command scripts directory line)
  checkpoint message :=
    match checkpoints with
    | .none => pure ()
    | .git start => Outside.ofRepositories ((WorkTree.mk target).checkpoint start message)
    | .noted refusals => Outside.ofNotes (Notes.checkpoint refusals message)
  template name files outside := (templates.resolve files name, outside)

end Groundwork
