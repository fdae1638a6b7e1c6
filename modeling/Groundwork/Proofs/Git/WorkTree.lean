import Groundwork.Git.WorkTree
import Groundwork.Proofs.Actions

/-!
What requests of a repository leave alone: to look at one changes nothing, and a checkpoint changes
no files.
-/

namespace Groundwork

variable {σ α β τ : Type} {view : Surroundings σ → τ}

-----------------------------------------------------------------------------------------
-- Requests that leave something alone
-----------------------------------------------------------------------------------------

/-- A request after which the surroundings look as before. -/
def Request.Leaves (view : Surroundings σ → τ) (request : Request σ α) : Prop :=
  ∀ surroundings, view (request.run.run surroundings).2 = view surroundings

namespace Request.Leaves

theorem pure (value : α) : Request.Leaves view (Pure.pure value) := fun _ => rfl

theorem throw (failure : Failure) : Request.Leaves view (throw failure : Request σ α) := fun _ => rfl

theorem ofExcept (result : Except Failure α)
    : Request.Leaves view (MonadExcept.ofExcept result : Request σ α) := by
  cases result <;> exact fun _ => rfl

theorem get : Request.Leaves view (getThe (Surroundings σ) : Request σ (Surroundings σ)) :=
  fun _ => rfl

/-- A sequence leaves alone what both of its requests do. -/
theorem bind {request : Request σ α} {next : α → Request σ β} (first : request.Leaves view)
    (second : ∀ value, (next value).Leaves view)
    : Request.Leaves view (request >>= next) := by
  intro surroundings
  have kept := first surroundings
  rw [run_bind]
  rcases ran : request.run.run surroundings with ⟨failure | value, after⟩ <;> rw [ran] at kept
  · exact kept
  · exact (second value after).trans kept

end Request.Leaves

-----------------------------------------------------------------------------------------
-- Work trees
-----------------------------------------------------------------------------------------

namespace WorkTree

open Git Request

variable {view : Surroundings Repositories → τ} (tree : WorkTree)

theorem found_leaves (arguments : List String) : Leaves view (tree.found arguments) := by
  intro surroundings
  dsimp only [found, ExceptT.run_mk, StateT.run]
  split <;> rfl

theorem repository_leaves (arguments : List String) (readers : List Setting.Reader)
    (needsTree : Bool)
    : Leaves view (tree.repository arguments readers needsTree) := by
  refine (tree.found_leaves arguments).bind fun found => ?_
  split
  · split
    · exact .throw _
    · exact .pure _
  · exact .throw _

theorem isInside_leaves : Leaves view tree.isInside := by
  refine (tree.found_leaves _).bind fun found => ?_
  split <;> exact .pure _

theorem status_leaves : Leaves view tree.status :=
  (tree.repository_leaves _ _ _).bind fun _ =>
    .bind (.bind .get fun _ => .pure _) fun _ => .ofExcept _

/-- Whether a work tree is ready for checkpoints is found out by looking at it. -/
theorem ensureReady_leaves (requireClean : Bool) (ignored : String)
    : Leaves view (tree.ensureReady requireClean ignored) := by
  refine tree.isInside_leaves.bind fun inside => ?_
  split
  · exact .throw _
  · split
    · exact tree.status_leaves.bind fun _ => .ofExcept _
    · exact .pure ()

theorem update_leaves_files (top : Location) (repository : Repository)
    : Leaves (·.files) (update top repository) :=
  fun _ => rfl

theorem addAll_leaves_files : Leaves (·.files) tree.addAll := by
  refine (tree.repository_leaves _ _ _).bind fun _ => .bind (.bind .get fun _ => .pure _) fun _ => ?_
  split
  · exact update_leaves_files _ _
  · exact .throw _

theorem hasStaged_leaves : Leaves view tree.hasStaged := by
  refine (tree.found_leaves _).bind fun found => ?_
  split <;> exact .pure _

theorem commitStaged_leaves_files (message : String) (allowEmpty : Bool)
    : Leaves (·.files) (tree.commitStaged message allowEmpty) := by
  refine tree.hasStaged_leaves.bind fun staged => ?_
  split
  · exact .pure _
  · refine (tree.repository_leaves _ _ _).bind fun ⟨top, repository⟩ => ?_
    have commits (kept : String)
        : Leaves (·.files) (do update top (repository.commit kept); return true) :=
      (update_leaves_files _ _).bind fun _ => .pure true
    dsimp only
    split
    · exact .throw _
    · split
      · exact .bind (.throw _) fun _ => by
          split
          · exact .bind (.throw _) fun _ => commits _
          · exact commits _
      · split
        · exact .bind (.throw _) fun _ => commits _
        · exact commits _

/-- A checkpoint changes repositories only. -/
theorem checkpoint_leaves_files (start : Option String) (step : String)
    : Leaves (·.files) (tree.checkpoint start step) := by
  refine tree.addAll_leaves_files.bind fun _ => (tree.commitStaged_leaves_files _ _).bind fun _ => ?_
  refine .bind ?_ fun _ => .pure ()
  refine (tree.repository_leaves _ _ _).bind fun ⟨_, repository⟩ => ?_
  cases none : repository.commits.isEmpty <;> simp only [none]
  · exact .pure _
  · exact .throw _

end WorkTree

end Groundwork
