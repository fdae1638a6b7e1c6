import Groundwork.Run.Basic

/-!
How actions run: what an action gives and what it leaves behind, for each way in which actions are
put together.
-/

namespace Groundwork

variable {ε σ α β : Type}

theorem mapError_ok {δ : Type} (change : ε → δ) (value : α)
    : (Except.ok value : Except ε α).mapError change = .ok value :=
  rfl

/-- A sequence goes on with the first value, or stops at the first fault; by cases on the first
action's result.
-/
theorem run_bind (action : ExceptT ε (StateM σ) α) (next : α → ExceptT ε (StateM σ) β) (state : σ)
    : (action >>= next).run.run state
      = match action.run.run state with
        | (.ok value, after) => (next value).run.run after
        | (.error fault, after) => (.error fault, after) := by
  change (ExceptT.bindCont next (action.run.run state).1).run (action.run.run state).2 = _
  rcases action.run.run state with ⟨_ | _, after⟩ <;> rfl

/-- A handler runs only after a fault, where the fault was left; by cases on the result. -/
theorem run_tryCatch (action : ExceptT ε (StateM σ) α) (handler : ε → ExceptT ε (StateM σ) α)
    (state : σ)
    : (tryCatch action handler).run.run state
      = match action.run.run state with
        | (.ok value, after) => (.ok value, after)
        | (.error fault, after) => (handler fault).run.run after := by
  change StateT.run (match (action.run.run state).1 with
    | .ok value => pure (.ok value)
    | .error fault => handler fault) (action.run.run state).2 = _
  rcases action.run.run state with ⟨_ | _, after⟩ <;> rfl

namespace RunAction

variable {scene : Scene σ}

/-- Passing on what a helper gave leaves the scene alone. -/
theorem run_check (fault : Failure → RunFault) (result : Except Failure α)
    : (check fault result : RunAction σ α).run.run scene = (result.mapError fault, scene) := by
  cases result <;> rfl

/-- Looking at the scene leaves it alone. -/
theorem run_getScene : (getThe (Scene σ) : RunAction σ (Scene σ)).run.run scene = (.ok scene, scene) :=
  rfl

/-- Asking for a template changes the state of the collaborators and nothing else. -/
theorem run_template (collaborators : Collaborators σ) (name : String)
    : (template collaborators name).run.run scene
      = let answer := collaborators.template name scene.files scene.surroundings.outside
        (.ok answer.1,
          { scene with surroundings := { scene.surroundings with outside := answer.2 } }) :=
  rfl

/-- Asking a collaborator changes the surroundings and nothing else. -/
theorem run_ask (request : Request σ α)
    : (ask request).run.run scene
      = (.ok (request.run.run scene.surroundings).1,
          { scene with surroundings := (request.run.run scene.surroundings).2 }) :=
  rfl

/-- Acting on the tree changes the tree and nothing else. -/
theorem run_onFiles (action : FileAction α)
    : (onFiles action : RunAction σ (Except Failure α)).run.run scene
      = (.ok (action.run.run scene.files).1,
          scene.withFiles (action.run.run scene.files).2) :=
  rfl

end RunAction

/-- A step is passed over if it is completed or its guard does not allow it, else applied. -/
theorem Step.run_eq (step : Step) (setup : RunSetup σ) (options : Options) (scene : Scene σ)
    : (step.run setup options).run.run scene
      = if scene.state.isCompleted step.name then (.ok (.skipped .completed), scene)
        else if !step.guard.all (·.allows options) then (.ok (.skipped .guard), scene)
        else (step.applyStep setup options).run.run scene := by
  rw [Step.run, run_bind, RunAction.run_getScene]
  change StateT.run (ExceptT.run (if _ then _ else _)) _ = _
  split
  · rfl
  · split <;> rfl

namespace FileAction

variable {files : Files}

/-- A change either takes place or leaves the tree as it was. -/
theorem run_change (context : String) (operation : Files → Except FileFault Files)
    : (change context operation).run.run files
      = match operation files with
        | .ok after => (.ok (), after)
        | .error fault => (.error (.ofFiles fault context), files) := by
  change (match operation files with
    | .ok after => ((.ok (), after) : Except Failure Unit × Files)
    | .error fault => (.error (.ofFiles fault context), files)) = _
  cases operation files <;> rfl

/-- Making directories ends as it does on the tree. -/
theorem run_makeDirectories (path : Path)
    : (makeDirectories path).run.run files
      = ((files.makeDirectories path).2.mapError (.ofFiles · s!"create directory {path}"),
          (files.makeDirectories path).1) := by
  dsimp only [makeDirectories, ExceptT.run_mk, StateT.run]
  rcases files.makeDirectories path with ⟨after, _ | _⟩ <;> rfl

/-- What an action that is not to fail leaves behind is what the action leaves behind. -/
theorem run_quietly (action : FileAction α)
    : (quietly action).run.run files = (.ok (), (action.run.run files).2) :=
  rfl

/-- An action that is undone on failure fails as it would, with what its undoing leaves behind. -/
theorem run_orUndo (action : FileAction α) (undo : FileAction Unit)
    : (action.orUndo undo).run.run files
      = match action.run.run files with
        | (.ok value, after) => (.ok value, after)
        | (.error failure, after) => (.error failure, (undo.run.run after).2) := by
  unfold orUndo
  rw [run_tryCatch]
  rcases action.run.run files with ⟨_ | _, after⟩ <;> rfl

/-- Nothing was undone if the action went through. -/
theorem run_of_orUndo {action : FileAction α} {undo : FileAction Unit} {value : α} {after : Files}
    (ran : (action.orUndo undo).run.run files = (.ok value, after))
    : action.run.run files = (.ok value, after) := by
  rw [run_orUndo] at ran
  rcases went : action.run.run files with ⟨failure | found, middle⟩ <;> simp only [went] at ran <;>
    cases ran
  rfl

end FileAction

end Groundwork
