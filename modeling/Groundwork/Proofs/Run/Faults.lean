import Groundwork.Proofs.Actions

/-!
Faults of steps: every fault that arises in a step names the step. The property is kept by all ways
of putting actions together, so it holds of a step as a whole.
-/

namespace Groundwork

variable {σ α β : Type}

/-- An action whose faults are all of some kind. -/
def FailsAs (kind : RunFault → Prop) (action : RunAction σ α) : Prop :=
  ∀ scene fault after, action.run.run scene = (.error fault, after) → kind fault

namespace FailsAs

variable {kind : RunFault → Prop}

/-- An action that never fails does so in any way. -/
theorem of_ok {action : RunAction σ α}
    (total : ∀ scene, ∃ value, (action.run.run scene).1 = .ok value)
    : FailsAs kind action := by
  intro scene fault after failed
  obtain ⟨value, ok⟩ := total scene
  rw [failed] at ok
  cases ok

theorem bind {action : RunAction σ α} {next : α → RunAction σ β}
    (head : FailsAs kind action) (tail : ∀ value, FailsAs kind (next value))
    : FailsAs kind (action >>= next) := by
  intro scene fault after failed
  rw [run_bind] at failed
  rcases ran : action.run.run scene with ⟨found | value, middle⟩
  · rw [ran] at failed
    cases failed
    exact head scene fault after ran
  · rw [ran] at failed
    exact tail value middle fault after failed

theorem pure (value : α) : FailsAs kind (Pure.pure value : RunAction σ α) :=
  of_ok fun _ => ⟨value, rfl⟩

theorem throw {fault : RunFault} (fine : kind fault)
    : FailsAs kind (MonadExcept.throw fault : RunAction σ α) := by
  intro scene found after failed
  cases failed
  exact fine

theorem check {fault : Failure → RunFault} (fine : ∀ failure, kind (fault failure))
    (result : Except Failure α)
    : FailsAs kind (RunAction.check fault result : RunAction σ α) := by
  cases result with
  | ok value => exact pure value
  | error failure => exact throw (fine failure)

theorem getScene : FailsAs kind (getThe (Scene σ) : RunAction σ (Scene σ)) :=
  of_ok fun scene => ⟨scene, rfl⟩

theorem modifyScene (change : Scene σ → Scene σ)
    : FailsAs kind (modifyThe (Scene σ) change : RunAction σ PUnit) :=
  of_ok fun _ => ⟨(), rfl⟩

theorem onFiles (action : FileAction α)
    : FailsAs kind (RunAction.onFiles action : RunAction σ (Except Failure α)) :=
  of_ok fun _ => ⟨_, rfl⟩

theorem ask (request : Request σ α) : FailsAs kind (RunAction.ask request) :=
  of_ok fun _ => ⟨_, rfl⟩

theorem foldlM {next : β → α → RunAction σ β} (each : ∀ start item, FailsAs kind (next start item))
    (items : List α) (start : β)
    : FailsAs kind (items.foldlM next start) := by
  induction items generalizing start with
  | nil => exact pure start
  | cons item rest ih =>
      rw [List.foldlM_cons]
      exact (each start item).bind ih

end FailsAs

namespace Step

variable (step : Step) (setup : RunSetup σ) (options : Options)

section Staging

variable {kind : RunFault → Prop} (io : ∀ failure, kind (.io step.name failure))
include io

theorem resolve_failsAs (collaborators : Collaborators σ) (mutation : Mutation)
    : FailsAs kind (step.resolve collaborators options mutation) := by
  have inline (name text : String) (isTemplate : Bool)
      : FailsAs kind (step.inlineText options name text isTemplate : RunAction σ String) := by
    unfold inlineText
    split
    · exact .check io _
    · exact .pure text
  cases mutation with
  | insertAfter | insertBefore | replace => exact (inline _ _ _).bind fun _ => .pure _
  | writeNew dest content => exact .pure _
  | copyTemplate template dest render =>
      refine .bind (.of_ok fun _ => ⟨_, rfl⟩) fun answer => (FailsAs.check io _).bind ?_
      intro source
      cases render with
      | false => exact .pure _
      | true => exact (FailsAs.check io _).bind fun _ => .pure _

variable (edit : ∀ file fault, kind (.ofEdit step.name file fault))
include edit

/-- A mutation that cannot be staged fails with its file, its edit or its template. -/
theorem stageMutation_failsAs (collaborators : Collaborators σ) (stage : Stage) (mutation : Mutation)
    : FailsAs kind (step.stageMutation collaborators options stage mutation) := by
  refine (step.resolve_failsAs options io collaborators mutation).bind fun edited =>
    FailsAs.getScene.bind fun scene => (FailsAs.check io _).bind fun loaded => ?_
  obtain ⟨current, stage⟩ := loaded
  dsimp only
  split
  · next fault _ => exact .throw (edit _ fault)
  · exact .pure _
  · exact .check io _

theorem stageMutations_failsAs (collaborators : Collaborators σ)
    : FailsAs kind (step.stageMutations collaborators options) :=
  .foldlM (step.stageMutation_failsAs options io edit collaborators) step.mutations {}

end Staging

theorem undo_failsAs (kind : RunFault → Prop) (written : Written)
    : FailsAs kind (undo written : RunAction σ Unit) := by
  unfold undo
  split
  · exact .pure ()
  · refine FailsAs.getScene.bind fun scene => (FailsAs.onFiles _).bind fun restored => ?_
    cases restored with
    | ok workspace => exact .modifyScene _
    | error failure => exact .pure ()

/-- A fault that names a step. -/
def IsBlamed (fault : RunFault) : Prop := fault.step? = some step.name

theorem isBlamed {fault : RunFault} (named : fault.step? = some step.name) : step.IsBlamed fault := named

theorem runCommands_blames (written : Written) (lines : List String)
    : FailsAs step.IsBlamed (step.runCommands setup written lines) := by
  induction lines with
  | nil => exact .pure ()
  | cons line rest ih =>
      refine FailsAs.getScene.bind fun scene => (FailsAs.ask _).bind fun answer => ?_
      cases answer with
      | error failure => exact (undo_failsAs _ written).bind fun _ => .throw (step.isBlamed rfl)
      | ok exit =>
          cases good : exit.succeeded with
          | true => simpa [good] using ih
          | false => simpa [good] using (undo_failsAs _ written).bind fun _ => .throw (step.isBlamed rfl)

theorem record_blames : FailsAs step.IsBlamed (step.record setup) := by
  refine (FailsAs.modifyScene _).bind fun _ => ?_
  split
  · exact .pure ()
  · exact FailsAs.getScene.bind fun scene => (FailsAs.onFiles _).bind fun _ => .check (fun _ => step.isBlamed rfl) _

/-- Every fault of a step names the step, whichever of its parts fails. -/
theorem run_blames : FailsAs step.IsBlamed (step.run setup options) := by
  have stages : FailsAs step.IsBlamed (step.stageMutations setup.collaborators options) :=
    step.stageMutations_failsAs options (fun _ => step.isBlamed rfl) (fun _ fault => by cases fault <;> rfl) _
  have commits (stage : Stage) : FailsAs step.IsBlamed (step.commit stage : RunAction σ Written) :=
    FailsAs.getScene.bind fun scene => (FailsAs.onFiles _).bind fun _ =>
      (FailsAs.check (fun _ => step.isBlamed rfl) _).bind fun _ => (FailsAs.modifyScene _).bind fun _ => .pure _
  have applies : FailsAs step.IsBlamed (step.applyStep setup options) := by
    refine stages.bind fun stage =>
      (commits stage).bind fun written => FailsAs.getScene.bind fun scene => ?_
    split
    · exact .pure _
    · exact (step.runCommands_blames setup written _).bind fun _ => (FailsAs.ask _).bind fun _ =>
        (FailsAs.check (fun _ => step.isBlamed rfl) _).bind fun _ => (step.record_blames setup).bind fun _ =>
          .pure _
  refine FailsAs.getScene.bind fun scene => ?_
  split
  · exact .pure _
  · split
    · exact .pure _
    · exact applies

end Step

end Groundwork
