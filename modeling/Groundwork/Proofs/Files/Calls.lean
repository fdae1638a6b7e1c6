import Groundwork.Proofs.Actions
import Groundwork.Proofs.Files.Directories

/-!
The calls that actions on a tree are made of. An action makes one call after the other, each about some
paths; which comes next may depend on what came of those before.
-/

namespace Groundwork

open Files Path

variable {α : Type} {files : Files} {path : Path}

/-- What can be done with a tree, one thing at a time. -/
inductive FileCall where
  | read (path : Path)
  /-- Tells whether a path leads to a directory. -/
  | inspect (path : Path)
  | makeDirectory (path : Path)
  | write (path : Path) (content : ByteArray)
  | rename (source target : Path)
  | removeFile (path : Path)

namespace FileCall

/-- The paths that a call is about. -/
def paths : FileCall → List Path
  | .read path | .inspect path | .makeDirectory path | .write path _ | .removeFile path => [path]
  | .rename source target => [source, target]

/-- Whether a call is one that changes what its paths lead to. -/
def changes : FileCall → Bool
  | .read _ | .inspect _ => false
  | _ => true

/-- What a call makes of a tree. -/
def perform (call : FileCall) (files : Files) : Except FileFault Files :=
  match call with
  | .read path => (files.read path).map fun _ => files
  | .inspect _ => .ok files
  | .makeDirectory path => files.makeDirectory path
  | .write path content => files.write path content
  | .rename source target => files.rename source target
  | .removeFile path => files.removeFile path

/-- A call that is not one that changes something leaves the tree as it was; by cases on the call. -/
theorem perform_unchanged {call : FileCall} {after : Files} (changes : call.changes = false)
    (performed : call.perform files = .ok after)
    : after = files := by
  cases call with
  | read target =>
      cases found : files.read target with
      | error fault => simp [perform, found, Except.map] at performed
      | ok content =>
          simp only [perform, found, Except.map] at performed
          cases performed
          rfl
  | inspect target =>
      cases performed
      rfl
  | _ => cases changes

/-- A call that goes through keeps all directories, and what is anywhere but at the locations of its
paths; by cases on the call.
-/
theorem frame {call : FileCall} {after : Files} (performed : call.perform files = .ok after)
    : Keeps files after
      ∧ ∀ place, (∀ path ∈ call.paths, files.locate path ≠ place) →
        after.node? place = files.node? place := by
  cases call with
  | read | inspect =>
      obtain rfl := perform_unchanged rfl performed
      exact ⟨.refl after, fun _ _ => rfl⟩
  | makeDirectory target =>
      obtain ⟨admits, -, rfl⟩ := admits_of_makeDirectory performed
      refine ⟨keeps_setNode admits.free _, fun place apart => ?_⟩
      rw [node?_setNode (ne_nil_of_free admits.free), if_neg (Ne.symm (apart target (by simp [paths])))]
  | write target content =>
      obtain ⟨admits, rfl⟩ := admits_of_write performed
      refine ⟨keeps_setNode admits.free _, fun place apart => ?_⟩
      rw [node?_setNode (ne_nil_of_free admits.free), if_neg (Ne.symm (apart target (by simp [paths])))]
  | removeFile target =>
      obtain ⟨free, rfl⟩ := dropNode_of_removeFile performed
      refine ⟨keeps_dropNode free, fun place apart => ?_⟩
      rw [node?_dropNode (ne_nil_of_free free), if_neg (Ne.symm (apart target (by simp [paths])))]
  | rename source target =>
      obtain ⟨kept, node⟩ := keeps_of_rename performed
      refine ⟨kept, fun place apart => ?_⟩
      rw [node, if_neg (Ne.symm (apart target (by simp [paths]))),
        if_neg (Ne.symm (apart source (by simp [paths])))]

end FileCall

namespace FileAction

-----------------------------------------------------------------------------------------
-- Actions that make a single call
-----------------------------------------------------------------------------------------

/-- Makes a call that changes the tree and tells how it ended. -/
def attempt (call : FileCall) : FileAction (Except FileFault Unit) :=
  ExceptT.mk fun files =>
    match call.perform files with
    | .ok after => (.ok (.ok ()), after)
    | .error fault => (.ok (.error fault), files)

def readFile (path : Path) : FileAction (Except FileFault ByteArray) :=
  look fun files => .ok (files.read path)

def inspect (path : Path) : FileAction Bool := look fun files => .ok (files.isDirectory path)

theorem run_attempt (call : FileCall) (files : Files)
    : (attempt call).run.run files
      = match call.perform files with
        | .ok after => (.ok (.ok ()), after)
        | .error fault => (.ok (.error fault), files) :=
  rfl

theorem run_readFile (path : Path) (files : Files)
    : (readFile path).run.run files = (.ok (files.read path), files) :=
  rfl

theorem run_inspect (path : Path) (files : Files)
    : (inspect path).run.run files = (.ok (files.isDirectory path), files) :=
  rfl

-----------------------------------------------------------------------------------------
-- Actions that make allowed calls only
-----------------------------------------------------------------------------------------

/-- The calls that an action makes on a tree are allowed, each on the tree that it is made on. -/
inductive CallsOnly (allowed : Files → FileCall → Prop)
    : {α : Type} → FileAction α → Files → Prop
  | pure {α : Type} (value : α) (files : Files) : CallsOnly allowed (Pure.pure value) files
  | throw {α : Type} (failure : Failure) (files : Files)
    : CallsOnly allowed (throw failure : FileAction α) files
  | attempt {call : FileCall} {files : Files} (fine : allowed files call)
    : CallsOnly allowed (attempt call) files
  | readFile {path : Path} {files : Files} (fine : allowed files (.read path))
    : CallsOnly allowed (readFile path) files
  | inspect {path : Path} {files : Files} (fine : allowed files (.inspect path))
    : CallsOnly allowed (inspect path) files
  | bind {α β : Type} {action : FileAction α} {next : α → FileAction β}
    {files : Files}
    (first : CallsOnly allowed action files)
    (second : ∀ value after, action.run.run files = (.ok value, after) →
      CallsOnly allowed (next value) after)
    : CallsOnly allowed (action >>= next) files
  | tryCatch {α : Type} {action : FileAction α} {handler : Failure → FileAction α}
    {files : Files}
    (first : CallsOnly allowed action files)
    (second : ∀ failure after, action.run.run files = (.error failure, after) →
      CallsOnly allowed (handler failure) after)
    : CallsOnly allowed (tryCatch action handler) files

/-- Actions are the same if they run in the same way on every tree. -/
theorem ext_run {first second : FileAction α}
    (same : ∀ files, first.run.run files = second.run.run files) : first = second :=
  funext same

/-- A change is an attempt whose fault is a failure. -/
theorem change_eq (context : String) (call : FileCall)
    : change context call.perform
      = attempt call >>= fun answer =>
          match answer with
          | .ok () => Pure.pure ()
          | .error fault => throw (.ofFiles fault context) := by
  refine ext_run fun files => ?_
  rw [run_change, run_bind, run_attempt]
  cases call.perform files <;> rfl

/-- Going on whatever becomes of an action is handling its failure by doing nothing. -/
theorem quietly_eq (action : FileAction α)
    : quietly action = tryCatch (action >>= fun _ => Pure.pure ()) fun _ => Pure.pure () := by
  refine ext_run fun files => ?_
  rw [run_quietly, run_tryCatch, run_bind]
  rcases action.run.run files with ⟨failure | value, after⟩ <;> rfl

namespace CallsOnly

variable {allowed : Files → FileCall → Prop}

/-- A question that the tree has no say in is no call. -/
theorem settled (answer : Except Failure α) : CallsOnly allowed (look fun _ => answer) files := by
  cases answer with
  | ok value => exact .pure value files
  | error failure => exact .throw failure files

/-- A question about what a file holds is the call that reads it. -/
theorem question (answer : Except FileFault ByteArray → Except Failure α)
    (fine : allowed files (.read path))
    : CallsOnly allowed (look fun tree => answer (tree.read path)) files := by
  have asks : look (fun tree => answer (tree.read path))
      = FileAction.readFile path >>= fun found => look fun _ => answer found := by
    refine ext_run fun tree => ?_
    rw [run_bind, run_readFile]
    rfl
  rw [asks]
  exact .bind (.readFile fine) fun found _ _ => .settled (answer found)

end CallsOnly

-----------------------------------------------------------------------------------------
-- Actions that are put together of calls
-----------------------------------------------------------------------------------------

/-- An action that is put together of calls of some kind, and of making directories of some kind. -/
inductive MadeOf (calls : FileCall → Prop) (directories : Path → Prop)
    : {α : Type} → FileAction α → Prop
  | pure {α : Type} (value : α) : MadeOf calls directories (Pure.pure value)
  | throw {α : Type} (failure : Failure) : MadeOf calls directories (throw failure : FileAction α)
  | attempt {call : FileCall} (fine : calls call) : MadeOf calls directories (attempt call)
  | makeDirectories {path : Path} (fine : directories path)
    : MadeOf calls directories (makeDirectories path)
  | bind {α β : Type} {action : FileAction α} {next : α → FileAction β}
    (first : MadeOf calls directories action)
    (second : ∀ value files after, action.run.run files = (.ok value, after) →
      MadeOf calls directories (next value))
    : MadeOf calls directories (action >>= next)
  | tryCatch {α : Type} {action : FileAction α} {handler : Failure → FileAction α}
    (first : MadeOf calls directories action)
    (second : ∀ failure, MadeOf calls directories (handler failure))
    : MadeOf calls directories (tryCatch action handler)

namespace MadeOf

variable {calls : FileCall → Prop} {directories : Path → Prop}

/-- A question that the tree has no say in is no call. -/
theorem settled (answer : Except Failure α) : MadeOf calls directories (look fun _ => answer) := by
  cases answer with
  | ok value => exact .pure value
  | error failure => exact .throw failure

theorem change (context : String) {call : FileCall} (fine : calls call)
    : MadeOf calls directories (change context call.perform) := by
  rw [change_eq]
  refine .bind (.attempt fine) fun answer _ _ _ => ?_
  cases answer with
  | ok => exact .pure ()
  | error fault => exact .throw _

theorem quietly {action : FileAction α} (inner : MadeOf calls directories action)
    : MadeOf calls directories (quietly action) := by
  rw [quietly_eq]
  exact .tryCatch (.bind inner fun _ _ _ _ => .pure ()) fun _ => .pure ()

theorem orUndo {action : FileAction α} {undo : FileAction Unit}
    (inner : MadeOf calls directories action) (undone : MadeOf calls directories undo)
    : MadeOf calls directories (action.orUndo undo) :=
  .tryCatch inner fun failure => .bind (.quietly undone) fun _ _ _ _ => .throw failure

end MadeOf

-----------------------------------------------------------------------------------------
-- Making directories one after the other
-----------------------------------------------------------------------------------------

/-- A directory that cannot be made may be there. -/
def orInspect (path : Path) (fault : FileFault) : FileAction (Except FileFault Unit) := do
  if ← inspect path then return .ok () else return .error fault

/-- Makes a directory and those above it that are missing, call by call. -/
def makeDirectoriesFrom : Nat → Path → FileAction (Except FileFault Unit)
  | 0, _ => return .error .notFound
  | fuel + 1, path =>
      if path.components.isEmpty then return .ok ()
      else do
        match ← attempt (.makeDirectory path) with
        | .ok () => return .ok ()
        | .error fault =>
            if fault ≠ .notFound then orInspect path fault
            else
              match path.parent? with
              | none => return .error .notFound
              | some parent =>
                  match ← makeDirectoriesFrom fuel parent with
                  | .error fault => return .error fault
                  | .ok () =>
                      match ← attempt (.makeDirectory path) with
                      | .ok () => return .ok ()
                      | .error fault => orInspect path fault

theorem run_orInspect (path : Path) (fault : FileFault) (files : Files)
    : (orInspect path fault).run.run files
      = (.ok (if files.isDirectory path then .ok () else .error fault), files) := by
  rw [orInspect, run_bind, run_inspect]
  cases files.isDirectory path <;> rfl

/-- Call by call, directories are made as they are at once; by induction on the fuel. -/
theorem run_makeDirectoriesFrom (fuel : Nat) (path : Path) (files : Files)
    : (makeDirectoriesFrom fuel path).run.run files
      = (.ok (files.makeDirectoriesFrom fuel path).2, (files.makeDirectoriesFrom fuel path).1) := by
  induction fuel generalizing path files with
  | zero => rfl
  | succ fuel ih =>
      rw [makeDirectoriesFrom, Files.makeDirectoriesFrom]
      cases path.components.isEmpty with
      | true => rfl
      | false =>
          simp only [Bool.false_eq_true, if_false, run_bind, run_attempt, FileCall.perform]
          cases files.makeDirectory path with
          | ok made => rfl
          | error fault =>
              by_cases missing : fault = .notFound
              · subst missing
                cases path.parent? with
                | none => rfl
                | some parent =>
                    simp only [ne_eq, not_true_eq_false, if_false, run_bind, ih]
                    rcases files.makeDirectoriesFrom fuel parent with ⟨above, fault | _⟩
                    · rfl
                    · simp only [run_bind, run_attempt, FileCall.perform]
                      cases above.makeDirectory path with
                      | ok made => rfl
                      | error fault =>
                          simp only [run_orInspect]
                          cases above.isDirectory path <;> rfl
              · simp only [ne_eq, missing, not_false_eq_true, if_true, run_orInspect]
                cases files.isDirectory path <;> cases fault <;>
                  first | exact absurd rfl missing | rfl

/-- Directories are made call by call. -/
theorem makeDirectories_eq (path : Path)
    : makeDirectories path
      = makeDirectoriesFrom (path.tail.length + 2) path >>= fun answer =>
          match answer with
          | .ok () => Pure.pure ()
          | .error fault => throw (.ofFiles fault s!"create directory {path}") := by
  refine ext_run fun files => ?_
  rw [run_makeDirectories, run_bind, run_makeDirectoriesFrom, Files.makeDirectories]
  rcases files.makeDirectoriesFrom (path.tail.length + 2) path with ⟨after, fault | _⟩ <;> rfl

end FileAction

end Groundwork
