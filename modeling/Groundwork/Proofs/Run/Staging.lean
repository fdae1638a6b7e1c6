import Groundwork.Proofs.Run.History
import Groundwork.Proofs.Workspace.Commit

/-!
Staging: what a step that could be worked out holds of each of its files, and that the outcome
depends on nothing but the contents that are read and the templates that are given.
-/

namespace Groundwork

open Files Path Workspace

variable {σ : Type}

-----------------------------------------------------------------------------------------
-- One mutation
-----------------------------------------------------------------------------------------

/-- What becomes of a stage when an edit is made to a file that was loaded. -/
def Step.edited (step : Step) (target : Path) (edit : Edit)
    : Except Failure (Option ByteArray × Stage) → Except RunFault Stage
  | .error failure => .error (.io step.name failure)
  | .ok (current, stage) =>
      match edit.apply current with
      | .error fault => .error (.ofEdit step.name target fault)
      | .ok .unchanged => .ok stage
      | .ok (.changed content) => (stage.set target content).mapError (.io step.name)

/-- A mutation is worked out, then its file is loaded and edited. -/
theorem Step.run_stageMutation (step : Step) (collaborators : Collaborators σ) (options : Options)
    (stage : Stage) (mutation : Mutation) (scene : Scene σ)
    : (step.stageMutation collaborators options stage mutation).run.run scene
      = match (step.resolve collaborators options mutation).run.run scene with
        | (.error fault, after) => (.error fault, after)
        | (.ok edit, after) =>
            (step.edited mutation.target edit
              (stage.load after.workspace after.files mutation.target), after) := by
  rw [stageMutation, run_bind]
  rcases (step.resolve collaborators options mutation).run.run scene with ⟨fault | edit, after⟩
  · rfl
  · simp only [run_bind, RunAction.run_getScene, RunAction.run_check]
    cases stage.load after.workspace after.files mutation.target with
    | error failure => rfl
    | ok loaded =>
        simp only [mapError_ok, edited]
        cases edit.apply loaded.1 with
        | error fault => rfl
        | ok outcome =>
            cases outcome with
            | unchanged => rfl
            | changed content => exact RunAction.run_check _ _

-----------------------------------------------------------------------------------------
-- What a stage holds
-----------------------------------------------------------------------------------------

/-- Every file of a stage is the target of a mutation, holds what was read of it and has a content;
every target of the mutations that were taken in is there, in the order of what they name.
-/
structure Stage.Holds (workspace : Workspace) (files : Files) (targets : List Path) (stage : Stage)
    : Prop where
  key : ∀ entry ∈ stage.files, entry.1 = entry.2.path.components
  target : ∀ entry ∈ stage.files, entry.2.path ∈ targets
  loaded : ∀ entry ∈ stage.files, workspace.read files entry.2.path = .ok entry.2.loaded
  current : ∀ entry ∈ stage.files, entry.2.current.isSome
  covers : ∀ path ∈ targets, (stage.files.get? path.components).isSome
  ordered : stage.files.Pairwise (·.1 < ·.1)

theorem Stage.Holds.empty (workspace : Workspace) (files : Files)
    : Stage.Holds workspace files [] {} :=
  ⟨by simp, by simp, by simp, by simp, by simp, .nil⟩

/-- Nothing can be made of a file that is not there but a new one. -/
theorem Edit.apply_none {edit : Edit} {outcome : EditOutcome}
    (went : edit.apply none = .ok outcome)
    : ∃ content, outcome = .changed content := by
  cases edit with
  | write content =>
      cases went
      exact ⟨content, rfl⟩
  | insert | replace => cases went

/-- A file of a target may be put into a stage. -/
theorem Stage.Holds.insert {workspace : Workspace} {files : Files} {targets : List Path}
    {stage : Stage} (holds : Stage.Holds workspace files targets stage) {target : Path}
    {file : StagedFile} (key : file.path.components = target.components)
    (among : file.path ∈ targets ++ [target])
    (loaded : workspace.read files file.path = .ok file.loaded) (current : file.current.isSome)
    : Stage.Holds workspace files (targets ++ [target])
        { files := stage.files.insert target.components file } := by
  refine ⟨?_, ?_, ?_, ?_, ?_, Dictionary.pairwise_insert _ _ holds.ordered⟩
  · intro entry member
    rcases Dictionary.mem_insert member with rfl | old
    · exact key.symm
    · exact holds.key entry old
  · intro entry member
    rcases Dictionary.mem_insert member with rfl | old
    · exact among
    · exact List.mem_append_left _ (holds.target entry old)
  · intro entry member
    rcases Dictionary.mem_insert member with rfl | old
    · exact loaded
    · exact holds.loaded entry old
  · intro entry member
    rcases Dictionary.mem_insert member with rfl | old
    · exact current
    · exact holds.current entry old
  · intro path member
    rw [Dictionary.get?_insert]
    split
    · rfl
    · next other =>
        rcases List.mem_append.mp member with old | new
        · exact holds.covers path old
        · exact absurd (congrArg Path.components (List.mem_singleton.mp new)).symm other

/-- An edit that goes through keeps what a stage holds, with its target; by cases on whether the file
was loaded before and is changed.
-/
theorem Stage.Holds.edited {workspace : Workspace} {files : Files} {targets : List Path}
    {stage after : Stage} (holds : Stage.Holds workspace files targets stage) {step : Step}
    {target : Path} {edit : Edit}
    (went : step.edited target edit (stage.load workspace files target) = .ok after)
    : Stage.Holds workspace files (targets ++ [target]) after := by
  cases known : stage.files.get? target.components with
  | some file =>
      have member := Dictionary.mem_of_get? known
      have among := List.mem_append_left [target] (holds.target _ member)
      simp only [load, known, Step.edited] at went
      cases applied : edit.apply file.current with
      | error fault => simp [applied] at went
      | ok outcome =>
          cases outcome with
          | unchanged =>
              simp only [applied] at went
              cases went
              refine ⟨holds.key, fun entry inside => List.mem_append_left _ (holds.target entry inside),
                holds.loaded, holds.current, fun path inside => ?_, holds.ordered⟩
              rcases List.mem_append.mp inside with old | new
              · exact holds.covers path old
              · rw [List.mem_singleton.mp new, known]
                rfl
          | changed content =>
              simp only [applied, set, known, mapError_ok] at went
              cases went
              exact holds.insert (holds.key _ member).symm among (holds.loaded _ member) rfl
  | none =>
      cases reading : workspace.read files target with
      | error failure =>
          simp [load, known, reading, bind, Except.bind, Step.edited] at went
      | ok loaded =>
          simp only [load, known, reading, bind, Except.bind, Step.edited] at went
          cases applied : edit.apply loaded with
          | error fault => simp [applied] at went
          | ok outcome =>
              cases outcome with
              | unchanged =>
                  cases loaded with
                  | none =>
                      obtain ⟨content, same⟩ := Edit.apply_none applied
                      cases same
                  | some content =>
                      simp only [applied] at went
                      cases went
                      exact holds.insert rfl (by simp) reading rfl
              | changed content =>
                  simp only [applied, set, Dictionary.get?_insert, if_true, mapError_ok,
                    Dictionary.insert_insert] at went
                  cases went
                  exact holds.insert rfl (by simp) reading rfl

/-- Mutations that were all taken in leave a stage that holds their targets; by induction on the
mutations, none of which changes the tree.
-/
theorem Step.stageMutations_holds (step : Step) {collaborators : Collaborators σ}
    {options : Options} {scene after : Scene σ} {stage : Stage}
    (staged : (step.stageMutations collaborators options).run.run scene = (.ok stage, after))
    : Stage.Holds scene.workspace scene.files (step.mutations.map Mutation.target) stage := by
  have staging (mutations : List Mutation) (start : Stage) (targets : List Path) (scene : Scene σ)
      (holds : Stage.Holds scene.workspace scene.files targets start)
      (staged : (mutations.foldlM (step.stageMutation collaborators options) start).run.run scene
        = (.ok stage, after))
      : Stage.Holds scene.workspace scene.files (targets ++ mutations.map Mutation.target) stage := by
    induction mutations generalizing start targets scene with
    | nil =>
        cases staged
        simpa using holds
    | cons mutation rest ih =>
        rw [List.foldlM_cons, run_bind, run_stageMutation] at staged
        obtain ⟨outcome, ran⟩ := step.resolve_consulting collaborators options mutation scene
        rw [ran] at staged
        cases outcome with
        | error fault => cases staged
        | ok edit =>
            let asked := scene.consulting collaborators mutation.template?.toList
            cases went : step.edited mutation.target edit
                (start.load asked.workspace asked.files mutation.target) with
            | error fault =>
                simp only [asked] at went
                simp only [went] at staged
                cases staged
            | ok next =>
                have later := holds.edited went
                simp only [asked] at went
                simp only [went] at staged
                have done := ih next _ asked later staged
                rw [List.append_assoc] at done
                exact done
  simpa using staging step.mutations {} [] scene (.empty ..) staged

/-- No two files to be written name the same if a stage has its files under what they name, in order. -/
theorem Stage.nodup_changed {stage : Stage}
    (key : ∀ entry ∈ stage.files, entry.1 = entry.2.path.components)
    (ordered : stage.files.Pairwise (·.1 < ·.1))
    : (stage.changed.map (·.path.components)).Nodup := by
  have other : stage.files.Pairwise fun first second =>
      first.2.path.components ≠ second.2.path.components := by
    refine ordered.imp_of_mem fun {first second} member member' before same => ?_
    rw [key _ member, key _ member', same] at before
    exact List.lt_irrefl _ before
  have distinct : (stage.files.map (·.2)).Pairwise fun first second =>
      first.path.components ≠ second.path.components :=
    List.pairwise_map.mpr other
  exact List.pairwise_map.mpr (distinct.filter _)

theorem Stage.Holds.distinct {workspace : Workspace} {files : Files} {own : List Path}
    {stage : Stage} (holds : stage.Holds workspace files own)
    : (stage.changed.map (·.path.components)).Nodup :=
  nodup_changed holds.key holds.ordered

/-- A file to be written is the target of a mutation, and holds what was read of it. -/
theorem Stage.Holds.of_changed {workspace : Workspace} {files : Files} {targets : List Path}
    {stage : Stage} (holds : stage.Holds workspace files targets) {file : StagedFile}
    (member : file ∈ stage.changed)
    : file.path ∈ targets ∧ workspace.read files file.path = .ok file.loaded := by
  obtain ⟨inside, -⟩ := List.mem_filter.mp member
  obtain ⟨entry, found, rfl⟩ := List.mem_map.mp inside
  exact ⟨holds.target entry found, holds.loaded entry found⟩

-----------------------------------------------------------------------------------------
-- What the outcome depends on
-----------------------------------------------------------------------------------------

section Alike

variable {τ : Type} {view : σ → τ} {collaborators : Collaborators σ} {targets : List Path}
  {one two : Scene σ}

/-- Templates that depend on their names and on what a view shows of the state of collaborators, but
not on the tree.
-/
def Collaborators.TemplatesShow (collaborators : Collaborators σ) (view : σ → τ) : Prop :=
  ∀ name files tree first second, view first = view second →
    (collaborators.template name files first).1 = (collaborators.template name tree second).1
    ∧ view (collaborators.template name files first).2
      = view (collaborators.template name tree second).2

/-- Scenes with the same view of the collaborators' state, in which targets are read with the same
result.
-/
structure Scene.StagesAlike (view : σ → τ) (targets : List Path) (one two : Scene σ) : Prop where
  view : view one.surroundings.outside = view two.surroundings.outside
  read : ∀ path ∈ targets,
    two.workspace.read two.files path = one.workspace.read one.files path

/-- Looking up templates keeps scenes alike; by induction on their names. -/
theorem Scene.StagesAlike.consulting (alike : Scene.StagesAlike view targets one two)
    (shows : collaborators.TemplatesShow view) (names : List String)
    : Scene.StagesAlike view targets (one.consulting collaborators names)
        (two.consulting collaborators names) := by
  induction names generalizing one two with
  | nil => exact alike
  | cons name rest ih =>
      have first (scene : Scene σ) : scene.consulting collaborators (name :: rest)
          = (scene.consulting collaborators [name]).consulting collaborators rest := by
        rw [consulting_append, List.singleton_append]
      rw [first one, first two]
      exact ih ⟨(shows name _ _ _ _ alike.view).2, alike.read⟩

/-- A mutation is worked out to the same edit wherever its template, if it has one, is the same; by cases
on its kind, since nothing else is asked for.
-/
theorem Step.resolve_eq_of_template (step : Step) (options : Options) {mutation : Mutation}
    (same : ∀ name, mutation.template? = some name →
      (collaborators.template name two.files two.surroundings.outside).1
        = (collaborators.template name one.files one.surroundings.outside).1)
    : ((step.resolve collaborators options mutation).run.run two).1
      = ((step.resolve collaborators options mutation).run.run one).1 := by
  cases mutation with
  | insertAfter file anchor payload lenient render | insertBefore file anchor payload lenient render =>
      obtain ⟨outcome, ran⟩ := step.run_inlineText σ options "payload" payload render
      simp only [Step.resolve, run_bind, ran]
      cases outcome <;> rfl
  | replace file anchor replacement firstOnly render =>
      obtain ⟨outcome, ran⟩ := step.run_inlineText σ options "replacement" replacement render
      simp only [Step.resolve, run_bind, ran]
      cases outcome <;> rfl
  | copyTemplate template dest render =>
      simp only [Step.resolve, run_bind, RunAction.run_template, RunAction.run_check,
        same template rfl]
      cases (collaborators.template template one.files one.surroundings.outside).1 with
      | error failure => rfl
      | ok source =>
          cases render with
          | false => rfl
          | true =>
              simp only [mapError_ok, if_true, run_bind, RunAction.run_check]
              cases Template.renderBytes template source options <;> rfl
  | writeNew dest content => rfl

/-- A mutation is worked out to the same edit in scenes that are alike. -/
theorem Step.resolve_congr (alike : Scene.StagesAlike view targets one two)
    (shows : collaborators.TemplatesShow view) (step : Step) (options : Options)
    (mutation : Mutation)
    : ((step.resolve collaborators options mutation).run.run two).1
      = ((step.resolve collaborators options mutation).run.run one).1 :=
  step.resolve_eq_of_template options fun name _ => (shows name _ _ _ _ alike.view.symm).1

/-- A mutation is taken into a stage in the same way in scenes that are alike. -/
theorem Step.stageMutation_congr (alike : Scene.StagesAlike view targets one two)
    (shows : collaborators.TemplatesShow view) (step : Step) (options : Options) (stage : Stage)
    {mutation : Mutation} (within : mutation.target ∈ targets)
    : ∃ outcome,
        (step.stageMutation collaborators options stage mutation).run.run one
          = (outcome, one.consulting collaborators mutation.template?.toList)
        ∧ (step.stageMutation collaborators options stage mutation).run.run two
          = (outcome, two.consulting collaborators mutation.template?.toList) := by
  obtain ⟨outcome, ran⟩ := step.resolve_consulting collaborators options mutation one
  obtain ⟨other, ran'⟩ := step.resolve_consulting collaborators options mutation two
  have same := step.resolve_congr alike shows options mutation
  rw [ran, ran'] at same
  obtain rfl : other = outcome := same
  have load : stage.load two.workspace two.files mutation.target
      = stage.load one.workspace one.files mutation.target := by
    simp only [Stage.load, alike.read _ within]
  rw [run_stageMutation, run_stageMutation, ran, ran']
  cases other with
  | error fault => exact ⟨_, rfl, rfl⟩
  | ok edit =>
      refine ⟨_, rfl, ?_⟩
      change (step.edited mutation.target edit (stage.load two.workspace two.files mutation.target), _) = _
      rw [load]
      rfl

/-- Staging ends in the same way in scenes that are alike, and looks up the same templates; by
induction on the mutations.
-/
theorem Step.stageMutations_congr (alike : Scene.StagesAlike view targets one two)
    (shows : collaborators.TemplatesShow view) (step : Step) (options : Options)
    (within : ∀ path ∈ step.mutations.map Mutation.target, path ∈ targets)
    : ∃ outcome names,
        (step.stageMutations collaborators options).run.run one
          = (outcome, one.consulting collaborators names)
        ∧ (step.stageMutations collaborators options).run.run two
          = (outcome, two.consulting collaborators names) := by
  have staging (mutations : List Mutation) (stage : Stage) {one two : Scene σ}
      (alike : Scene.StagesAlike view targets one two)
      (within : ∀ path ∈ mutations.map Mutation.target, path ∈ targets)
      : ∃ outcome names,
          (mutations.foldlM (step.stageMutation collaborators options) stage).run.run one
            = (outcome, one.consulting collaborators names)
          ∧ (mutations.foldlM (step.stageMutation collaborators options) stage).run.run two
            = (outcome, two.consulting collaborators names) := by
    induction mutations generalizing stage one two with
    | nil => exact ⟨.ok stage, [], rfl, rfl⟩
    | cons mutation rest ih =>
        rw [List.map_cons, List.forall_mem_cons] at within
        obtain ⟨outcome, ran, ran'⟩ :=
          step.stageMutation_congr alike shows options stage within.1
        rw [List.foldlM_cons, run_bind, run_bind, ran, ran']
        cases outcome with
        | error fault => exact ⟨_, _, rfl, rfl⟩
        | ok next =>
            obtain ⟨outcome, names, later, later'⟩ :=
              ih next (alike.consulting shows mutation.template?.toList) within.2
            refine ⟨outcome, mutation.template?.toList ++ names, ?_, ?_⟩
            · simp only [later, Scene.consulting_append]
            · simp only [later', Scene.consulting_append]
  exact staging step.mutations {} alike within

end Alike

end Groundwork
