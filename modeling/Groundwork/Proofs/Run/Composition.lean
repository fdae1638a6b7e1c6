import Groundwork.Proofs.Edit.Series
import Groundwork.Proofs.Run.Setting
import Groundwork.Proofs.Workspace.Atomicity
import Groundwork.Proofs.Workspace.Rehearsal

/-!
What the mutations of a step make of a file: their edits one after the other, each made to what those
before it left. This holds for all spellings of the file's path that are alike; a dot at the start
makes another entry.
-/

namespace Groundwork

open Files Path Workspace

variable {σ : Type} {root : Path} {top : Location} {workspace : Workspace} {files : Files}
  {collaborators : Collaborators σ} {options : Options} {step : Step} {stage : Stage}
  {scene after : Scene σ} {entries : List (Mutation × Edit)}

-----------------------------------------------------------------------------------------
-- The edits of a step
-----------------------------------------------------------------------------------------

/-- The edits that the mutations of a step stand for. -/
def Step.resolveAll (step : Step) (collaborators : Collaborators σ) (options : Options)
    : RunAction σ (List Edit) :=
  step.mutations.mapM (step.resolve collaborators options)

/-- The edits of the mutations that have some targets, in their order. -/
def editsOf (among : Path → Bool) (entries : List (Mutation × Edit)) : List Edit :=
  (entries.filter (among ·.1.target)).map (·.2)

theorem editsOf_append (among : Path → Bool) (first second : List (Mutation × Edit))
    : editsOf among (first ++ second) = editsOf among first ++ editsOf among second := by
  simp [editsOf]

theorem editsOf_single (among : Path → Bool) (entry : Mutation × Edit)
    : editsOf among [entry] = if among entry.1.target then [entry.2] else [] := by
  by_cases own : among entry.1.target <;> simp [editsOf, own]

-----------------------------------------------------------------------------------------
-- One edit of a stage
-----------------------------------------------------------------------------------------

/-- What a stage has of a path, or gets of it by reading. -/
def Stage.Has (workspace : Workspace) (files : Files) (stage : Stage) (path : Path)
    (file : StagedFile)
    : Prop :=
  stage.files.get? path.components = some file
  ∨ stage.files.get? path.components = none
    ∧ workspace.read files path = .ok file.loaded
    ∧ file = ⟨path, file.loaded, file.loaded⟩

/-- Loading gives the content of what the stage has of a path, and keeps that under the path. -/
theorem Stage.load_of_has {path : Path} {file : StagedFile}
    (has : stage.Has workspace files path file)
    : ∃ loaded, stage.load workspace files path = .ok (file.current, loaded)
        ∧ ∀ key, loaded.files.get? key
          = if path.components = key then some file else stage.files.get? key := by
  rcases has with known | ⟨new, reading, fresh⟩
  · refine ⟨stage, by simp only [load, known], fun key => ?_⟩
    split
    · next same => rw [← same, known]
    · rfl
  · refine ⟨{ files := stage.files.insert path.components file }, ?_, fun key => ?_⟩
    · rw [fresh]
      simp only [load, new, reading, bind, Except.bind]
    · exact Dictionary.get?_insert ..

/-- An edit goes through if the content that the stage has of its target admits it, and leaves what it
makes of that content under the target; by cases on whether the edit changes the content.
-/
theorem Step.edited_of_has (step : Step) {target : Path} {file : StagedFile} {edit : Edit}
    {content : Option ByteArray} (has : stage.Has workspace files target file)
    (goes : edit.applied file.current = .ok content)
    : ∃ next, step.edited target edit (stage.load workspace files target) = .ok next
        ∧ ∀ key, next.files.get? key
          = if target.components = key then some { file with current := content }
            else stage.files.get? key := by
  obtain ⟨loaded, loads, kept⟩ := Stage.load_of_has has
  rw [loads]
  cases outcome : edit.apply file.current with
  | error fault => simp [Edit.applied, outcome] at goes
  | ok made =>
      cases made with
      | unchanged =>
          simp only [Edit.applied, outcome] at goes
          cases goes
          exact ⟨loaded, by simp only [Step.edited, outcome], kept⟩
      | changed bytes =>
          simp only [Edit.applied, outcome] at goes
          cases goes
          have own : loaded.files.get? target.components = some file := by simp [kept]
          let changed : StagedFile := { file with current := some bytes }
          refine ⟨{ files := loaded.files.insert target.components changed },
            by simp only [Step.edited, outcome, Stage.set, own, mapError_ok, changed], fun key => ?_⟩
          rw [Dictionary.get?_insert]
          split
          · rfl
          · next other => rw [kept, if_neg other]

/-- An edit that went through was admitted by what the stage had of its target. -/
theorem Step.has_of_edited {target : Path} {edit : Edit} {next : Stage}
    (went : step.edited target edit (stage.load workspace files target) = .ok next)
    : ∃ file content, stage.Has workspace files target file
        ∧ edit.applied file.current = .ok content := by
  have admitted {file : StagedFile} {loaded : Stage}
      (loads : stage.load workspace files target = .ok (file.current, loaded))
      : ∃ content, edit.applied file.current = .ok content := by
    rw [loads] at went
    cases outcome : edit.apply file.current with
    | error fault => simp [Step.edited, outcome] at went
    | ok made =>
        cases made with
        | unchanged => exact ⟨file.current, by simp only [Edit.applied, outcome]⟩
        | changed bytes => exact ⟨some bytes, by simp only [Edit.applied, outcome]⟩
  cases known : stage.files.get? target.components with
  | some file =>
      obtain ⟨loaded, loads, -⟩ := Stage.load_of_has (.inl known : stage.Has workspace files target file)
      obtain ⟨content, goes⟩ := admitted loads
      exact ⟨file, content, .inl known, goes⟩
  | none =>
      cases reading : workspace.read files target with
      | error failure =>
          simp [Stage.load, known, reading, bind, Except.bind, Step.edited] at went
      | ok loaded =>
          have has : stage.Has workspace files target ⟨target, loaded, loaded⟩ :=
            .inr ⟨known, reading, rfl⟩
          obtain ⟨after, loads, -⟩ := Stage.load_of_has has
          obtain ⟨content, goes⟩ := admitted loads
          exact ⟨_, content, has, goes⟩

-----------------------------------------------------------------------------------------
-- All edits of a stage
-----------------------------------------------------------------------------------------

/-- Every file of a stage is what the edits made to it make, one after the other, of what was read under
the first spelling of its path.
-/
structure Stage.Composes (workspace : Workspace) (files : Files) (entries : List (Mutation × Edit))
    (stage : Stage)
    : Prop where
  holds : stage.Holds workspace files (entries.map (·.1.target))
  first : ∀ key file, stage.files.get? key = some file →
    (entries.map (·.1.target)).find? (·.components = key) = some file.path
  composed : ∀ key file, stage.files.get? key = some file →
    Edit.composed (editsOf (·.components = key) entries) file.loaded = .ok file.current

theorem Stage.Composes.empty (workspace : Workspace) (files : Files)
    : Stage.Composes workspace files [] {} :=
  ⟨.empty workspace files, nofun, nofun⟩

/-- Nothing was edited under a path that the stage does not have. -/
theorem Stage.Composes.unused (composes : stage.Composes workspace files entries) {path : Path}
    (new : stage.files.get? path.components = none)
    : editsOf (·.components = path.components) entries = []
      ∧ (entries.map (·.1.target)).find? (·.components = path.components) = none := by
  have unused : ∀ entry ∈ entries, ¬ entry.1.target.components = path.components := by
    intro entry member same
    have covered := composes.holds.covers _ (List.mem_map_of_mem member)
    rw [same, new] at covered
    cases covered
  constructor
  · rw [editsOf, List.map_eq_nil_iff, List.filter_eq_nil_iff]
    simpa using unused
  · rw [List.find?_map, Option.map_eq_none_iff, List.find?_eq_none]
    simpa using unused

/-- What a stage has of a path are the edits made under it so far; if none was made, it is read. -/
theorem Stage.Composes.has (composes : stage.Composes workspace files entries) {path : Path}
    {file : StagedFile} (has : stage.Has workspace files path file)
    : Edit.composed (editsOf (·.components = path.components) entries) file.loaded = .ok file.current
      ∧ (entries.map (·.1.target) ++ [path]).find? (·.components = path.components)
        = some file.path := by
  rcases has with known | ⟨new, -, fresh⟩
  · refine ⟨composes.composed _ _ known, ?_⟩
    rw [List.find?_append, composes.first _ _ known]
    rfl
  · obtain ⟨none, elsewhere⟩ := composes.unused new
    refine ⟨by rw [none, fresh]; rfl, ?_⟩
    rw [List.find?_append, elsewhere, fresh]
    simp

/-- An edit that goes through comes after those that were made before; by cases on whether a file is
the one that it is made to.
-/
theorem Stage.Composes.edited (composes : stage.Composes workspace files entries)
    {mutation : Mutation} {edit : Edit} {next : Stage}
    (went : step.edited mutation.target edit (stage.load workspace files mutation.target) = .ok next)
    : next.Composes workspace files (entries ++ [(mutation, edit)]) := by
  obtain ⟨file, content, has, goes⟩ := Step.has_of_edited went
  obtain ⟨found, went', kept⟩ := step.edited_of_has has goes
  obtain rfl : found = next := Except.ok.inj (went'.symm.trans went)
  obtain ⟨composed, first⟩ := composes.has has
  refine ⟨by simpa using composes.holds.edited went, fun key other known => ?_,
    fun key other known => ?_⟩
  · rw [kept] at known
    rw [List.map_append]
    by_cases same : mutation.target.components = key
    · subst same
      rw [if_pos rfl] at known
      cases known
      exact first
    · rw [if_neg same] at known
      rw [List.find?_append, composes.first key other known]
      rfl
  · rw [kept] at known
    rw [editsOf_append, editsOf_single]
    by_cases same : mutation.target.components = key
    · subst same
      rw [if_pos rfl] at known
      cases known
      simpa using (Edit.composed_concat composed).trans goes
    · rw [if_neg same] at known
      simpa [same] using composes.composed key other known

theorem targets_zip {mutations : List Mutation} {edits : List Edit}
    (length : edits.length = mutations.length)
    : (mutations.zip edits).map (·.1.target) = mutations.map Mutation.target :=
  calc (mutations.zip edits).map (·.1.target)
    _ = ((mutations.zip edits).map Prod.fst).map Mutation.target := by
      rw [List.map_map]
      rfl
    _ = mutations.map Mutation.target :=
      congrArg (List.map _) (List.map_fst_zip (Nat.le_of_eq length.symm))

theorem Step.targets_of_zip (step : Step) {edits : List Edit}
    (length : edits.length = step.mutations.length)
    : (step.mutations.zip edits).map (·.1.target) = step.targets :=
  targets_zip length

/-- Mutations that were all taken in are worked out to edits, and leave a stage that composes these; by
induction on the mutations.
-/
theorem Step.stageMutations_composes (step : Step)
    (staged : (step.stageMutations collaborators options).run.run scene = (.ok stage, after))
    : ∃ edits,
        (step.resolveAll collaborators options).run.run scene = (.ok edits, after)
        ∧ edits.length = step.mutations.length
        ∧ stage.Composes scene.workspace scene.files (step.mutations.zip edits) := by
  have staging (mutations : List Mutation) (start : Stage) (entries : List (Mutation × Edit))
      (scene : Scene σ) (composes : start.Composes scene.workspace scene.files entries)
      (staged : (mutations.foldlM (step.stageMutation collaborators options) start).run.run scene
        = (.ok stage, after))
      : ∃ edits,
          (mutations.mapM (step.resolve collaborators options)).run.run scene = (.ok edits, after)
          ∧ edits.length = mutations.length
          ∧ stage.Composes scene.workspace scene.files (entries ++ mutations.zip edits) := by
    induction mutations generalizing start entries scene with
    | nil =>
        cases staged
        exact ⟨[], rfl, rfl, by simpa using composes⟩
    | cons mutation rest ih =>
        rw [List.foldlM_cons, run_bind, run_stageMutation] at staged
        obtain ⟨outcome, ran⟩ := step.resolve_consulting collaborators options mutation scene
        rw [ran] at staged
        cases outcome with
        | error fault => cases staged
        | ok edit =>
            let asked := scene.consulting collaborators mutation.template?.toList
            cases went : step.edited mutation.target edit
                (start.load asked.workspace asked.files mutation.target) with
            | error fault =>
                simp only [asked] at went
                simp only [went] at staged
                cases staged
            | ok next =>
                have later : next.Composes asked.workspace asked.files (entries ++ [(mutation, edit)]) :=
                  composes.edited went
                simp only [asked] at went
                simp only [went] at staged
                obtain ⟨edits, resolved, length, done⟩ := ih next _ asked later staged
                refine ⟨edit :: edits, ?_, by simp [length], ?_⟩
                · simp only [List.mapM_cons, run_bind, ran, resolved, asked]
                  rfl
                · rw [List.append_assoc] at done
                  exact done
  exact staging step.mutations {} [] scene (.empty ..) staged

/-- Every target of some edits can be read as it is spelled first, and the edits of each can be made one
after the other.
-/
def Workspace.CanCompose (workspace : Workspace) (files : Files) (entries : List (Mutation × Edit))
    : Prop :=
  ∀ path, (entries.map (·.1.target)).find? (·.components = path.components) = some path →
    ∃ loaded content,
      workspace.read files path = .ok loaded
      ∧ Edit.composed (editsOf (·.components = path.components) entries) loaded = .ok content

/-- A target of edits that can be composed is staged or can be; by cases on whether it was edited
before.
-/
theorem Stage.Composes.has_of_canCompose (composes : stage.Composes workspace files entries)
    {mutation : Mutation} {edit : Edit} {later : List (Mutation × Edit)}
    (able : workspace.CanCompose files (entries ++ (mutation, edit) :: later))
    : ∃ file content, stage.Has workspace files mutation.target file
        ∧ Edit.composed (editsOf (·.components = mutation.target.components)
            (entries ++ (mutation, edit) :: later)) file.loaded = .ok content := by
  have readable (path : Path) (key : path.components = mutation.target.components)
      (first : (entries.map (·.1.target) ++ [mutation.target]).find?
        (·.components = mutation.target.components) = some path)
      : ∃ loaded content,
          workspace.read files path = .ok loaded
          ∧ Edit.composed (editsOf (·.components = mutation.target.components)
              (entries ++ (mutation, edit) :: later)) loaded = .ok content := by
    rw [← key] at first ⊢
    refine able path ?_
    rw [List.map_append, List.map_cons, List.append_cons, List.find?_append, first]
    rfl
  cases known : stage.files.get? mutation.target.components with
  | some file =>
      have member := Dictionary.mem_of_get? known
      have has : stage.Has workspace files mutation.target file := .inl known
      obtain ⟨loaded, content, reading, made⟩ :=
        readable file.path (composes.holds.key _ member).symm (composes.has has).2
      cases reading.symm.trans (composes.holds.loaded _ member)
      exact ⟨file, content, has, made⟩
  | none =>
      obtain ⟨loaded, content, reading, made⟩ := readable mutation.target rfl
        (by rw [List.find?_append, (composes.unused known).2]; simp)
      exact ⟨⟨mutation.target, loaded, loaded⟩, content, .inr ⟨known, reading, rfl⟩, made⟩

/-- The next one of edits that can be composed goes through where those before it were made. -/
theorem Stage.Composes.next (composes : stage.Composes workspace files entries) (step : Step)
    {mutation : Mutation} {edit : Edit} {later : List (Mutation × Edit)}
    (able : workspace.CanCompose files (entries ++ (mutation, edit) :: later))
    : ∃ next, step.edited mutation.target edit (stage.load workspace files mutation.target)
        = .ok next := by
  obtain ⟨file, content, has, made⟩ := composes.has_of_canCompose able
  rw [List.append_cons, editsOf_append] at made
  obtain ⟨current, made⟩ := Edit.composed_left made
  rw [editsOf_append, editsOf_single, if_pos (decide_eq_true rfl),
    Edit.composed_concat (composes.has has).1] at made
  obtain ⟨next, went, -⟩ := step.edited_of_has has made
  exact ⟨next, went⟩

/-- Mutations can be taken in if they can be worked out to edits that can be composed; by induction on
the mutations.
-/
theorem Step.stageMutations_ok (step : Step) {edits : List Edit}
    (resolved : (step.resolveAll collaborators options).run.run scene = (.ok edits, after))
    (able : scene.workspace.CanCompose scene.files (step.mutations.zip edits))
    : ∃ stage, (step.stageMutations collaborators options).run.run scene = (.ok stage, after) := by
  have staging (mutations : List Mutation) (edits : List Edit) (start : Stage)
      (entries : List (Mutation × Edit)) (scene : Scene σ)
      (composes : start.Composes scene.workspace scene.files entries)
      (resolved : (mutations.mapM (step.resolve collaborators options)).run.run scene
        = (.ok edits, after))
      (able : scene.workspace.CanCompose scene.files (entries ++ mutations.zip edits))
      : ∃ stage,
          (mutations.foldlM (step.stageMutation collaborators options) start).run.run scene
            = (.ok stage, after) := by
    induction mutations generalizing edits start entries scene with
    | nil =>
        cases resolved
        exact ⟨start, rfl⟩
    | cons mutation rest ih =>
        obtain ⟨outcome, ran⟩ := step.resolve_consulting collaborators options mutation scene
        rw [List.mapM_cons, run_bind, ran] at resolved
        cases outcome with
        | error fault => cases resolved
        | ok edit =>
            let asked := scene.consulting collaborators mutation.template?.toList
            simp only [run_bind] at resolved
            rcases others : (rest.mapM (step.resolve collaborators options)).run.run asked with
              ⟨fault | later, ended⟩ <;> simp only [asked] at others <;> rw [others] at resolved <;>
              cases resolved
            obtain ⟨next, went⟩ := composes.next step able
            obtain ⟨stage, staged⟩ := ih later next (entries ++ [(mutation, edit)]) asked
              (composes.edited went) others (by
                rw [List.append_assoc]
                exact able)
            refine ⟨stage, ?_⟩
            have went' : step.edited mutation.target edit
                (start.load asked.workspace asked.files mutation.target) = .ok next := went
            rw [List.foldlM_cons, run_bind, run_stageMutation, ran]
            simp only [asked] at went'
            simp only [went']
            exact staged
  exact staging step.mutations edits {} [] scene (.empty ..) resolved able

-----------------------------------------------------------------------------------------
-- Spellings of one file
-----------------------------------------------------------------------------------------

/-- The content that a workspace has for a path: what is kept beside the tree, or else what the tree
has.
-/
def Workspace.content? (workspace : Workspace) (files : Files) (top : Location) (path : Path)
    : Option ByteArray :=
  (workspace.overlay.get? path.components).or (files.content? (top ++ path.names))

theorem Workspace.content?_congr {path other : Path} (same : path.components = other.components)
    : workspace.content? files top path = workspace.content? files top other := by
  rw [content?, content?, same, names_congr same]

/-- What is read under a path is what the workspace has for it. -/
theorem Workspace.content?_of_reads (ground : files.Grounded workspace.root top) {path : Path}
    (sound : path.fault? = none) {loaded : Option ByteArray}
    (reads : workspace.read files path = .ok loaded)
    : workspace.content? files top path = loaded := by
  cases kept : workspace.overlay.get? path.components with
  | some content =>
      simp only [read, kept] at reads
      cases reads
      simp [content?, kept]
  | none =>
      let bare : Workspace := ⟨workspace.root, false, []⟩
      have plain : bare.read files path = .ok loaded := by
        simp only [read, kept] at reads
        exact reads
      have found := (content?_of_read ground (show bare.root = _ from rfl) rfl sound plain).2
      simp [content?, kept, found]

/-- What a step staged is as it was read. -/
theorem Stage.Holds.readFrom {targets : List Path} (holds : stage.Holds workspace files targets)
    (sound : ∀ path ∈ targets, path.fault? = none) (spelled : ∀ path ∈ targets, path.IsSpelled)
    : stage.ReadFrom workspace files where
  key := holds.key
  file entry member := {
    sound := sound _ (holds.target entry member)
    spelled := spelled _ (holds.target entry member)
    loaded := holds.loaded entry member
    current := fun none => by simpa [none] using holds.current entry member }
  ordered := holds.ordered

/-- A file that is to be written is the one that the stage has under what its path names. -/
theorem Stage.Holds.eq_of_changed {targets : List Path} (holds : stage.Holds workspace files targets)
    {file other : StagedFile} (member : other ∈ stage.changed)
    (known : stage.files.get? other.path.components = some file)
    : other = file := by
  obtain ⟨inside, -⟩ := List.mem_filter.mp member
  obtain ⟨entry, found, rfl⟩ := List.mem_map.mp inside
  rw [← holds.key entry found, Dictionary.get?_of_mem holds.ordered found] at known
  exact Option.some.inj known

/-- After a dry commit, the new contents of the changed files are read under every path that names the
same.
-/
theorem Step.read_of_commit_dry {written : Written} {asked committed : Scene σ} {targets : List Path}
    (holds : stage.Holds asked.workspace asked.files targets)
    (dry : asked.workspace.dryRun = true)
    (commits : (step.commit stage).run.run asked = (.ok written, committed)) {file : StagedFile}
    (member : file ∈ stage.changed) {path : Path} (same : path.components = file.path.components)
    : committed.workspace.read committed.files path = .ok (some file.content) := by
  cases (step.run_commit_dry stage dry).symm.trans commits
  have kept := (get?_lay asked.workspace holds.distinct).1 file member
  simp only [Workspace.read, same, kept]

/-- A step that was committed to the tree kept the workspace, whose commit went through. -/
theorem Step.run_of_commit {written : Written} {asked committed : Scene σ}
    (wet : asked.workspace.dryRun = false)
    (commits : (step.commit stage).run.run asked = (.ok written, committed))
    : committed.workspace = asked.workspace
      ∧ (asked.workspace.commit stage).run.run asked.files
        = (.ok (asked.workspace, written), committed.files) := by
  obtain ⟨outcome, files, ran⟩ := commit_outcome wet stage asked.files
  cases outcome with
  | error failure => cases (step.run_commit ran).symm.trans commits
  | ok written =>
      cases (step.run_commit ran).symm.trans commits
      exact ⟨rfl, ran⟩

/-- A commit that goes through, to the tree or beside it, leaves a workspace that has the new contents
of the changed files, and for other paths what it had.
-/
theorem Step.content?_of_commit {written : Written} {asked committed : Scene σ} {targets : List Path}
    (holds : stage.Holds asked.workspace asked.files targets)
    (sound : ∀ path ∈ targets, path.fault? = none) (spelled : ∀ path ∈ targets, path.IsSpelled)
    (ground : asked.files.Grounded asked.workspace.root top)
    (wet : asked.workspace.dryRun = false →
      asked.workspace.overlay = [] ∧ stage.HasFreshNames asked.files top)
    (commits : (step.commit stage).run.run asked = (.ok written, committed))
    : (∀ file ∈ stage.changed, ∀ path : Path, path.components = file.path.components →
          committed.workspace.content? committed.files top path = some file.content)
      ∧ ∀ path : Path, (∀ file ∈ stage.changed, file.path.names ≠ path.names) →
          committed.workspace.content? committed.files top path
            = asked.workspace.content? asked.files top path := by
  cases dry : asked.workspace.dryRun with
  | true =>
      cases (step.run_commit_dry stage dry).symm.trans commits
      obtain ⟨each, others⟩ := get?_lay asked.workspace holds.distinct
      refine ⟨fun file member path same => ?_, fun path elsewhere => ?_⟩
      · simp [Workspace.content?, same, each file member]
      · have apart : ∀ file ∈ stage.changed, file.path.components ≠ path.components :=
          fun file member same => elsewhere file member (names_congr same)
        simp only [Workspace.content?, others _ apart]
        rfl
  | false =>
      obtain ⟨plain, fresh⟩ := wet dry
      have reads := holds.readFrom sound spelled
      have whole := reads.batch plain ground (fun _ _ => rfl) fresh
      obtain ⟨same, ran⟩ := Step.run_of_commit dry commits
      obtain ⟨placed, others⟩ := Workspace.content?_of_commit dry ground whole ran
      have has (tree : Files) (path : Path)
          : asked.workspace.content? tree top path = tree.content? (top ++ path.names) := by
        rw [Workspace.content?, plain]
        rfl
      rw [same]
      refine ⟨fun file member path components => ?_, fun path elsewhere => ?_⟩
      · rw [has, ← placed file member, StagedFile.location, names_congr components]
      · rw [has, has]
        refine others _ (List.prefix_append ..) fun file member here => ?_
        exact elsewhere file member (List.append_cancel_left here).symm

/-- Targets that spell a place alike, if they name it, stand for the same entry of a stage. -/
theorem components_of_alike {targets : List Path} {place : Path}
    (sound : ∀ path ∈ targets, path.fault? = none) (member : place ∈ targets)
    (alike : ∀ path ∈ targets, path.names = place.names → path.SpellsAlike place)
    (path : Path) (inside : path ∈ targets)
    : path.names = place.names ↔ path.components = place.components :=
  ⟨fun names => (components_eq_iff (sound _ inside) (sound _ member)).mpr (alike _ inside names),
    names_congr⟩

/-- Of the files that are changed, only the one that the stage has for a place names it. -/
theorem Stage.Holds.eq_of_names {targets : List Path} (holds : stage.Holds workspace files targets)
    {place : Path} {file other : StagedFile}
    (same : ∀ path ∈ targets, path.names = place.names ↔ path.components = place.components)
    (known : stage.files.get? place.components = some file) (member : other ∈ stage.changed)
    (names : other.path.names = place.names)
    : other = file := by
  refine holds.eq_of_changed member ?_
  rw [(same _ (holds.of_changed member).1).mp names]
  exact known

/-- The file that a stage has for a place is listed once if its content is to be another one, and
otherwise not at all.
-/
theorem Stage.Holds.countP_changedPaths {targets : List Path}
    (holds : stage.Holds workspace files targets) {place : Path} {file : StagedFile}
    (same : ∀ path ∈ targets, path.names = place.names ↔ path.components = place.components)
    (known : stage.files.get? place.components = some file)
    (changed : file ∈ stage.changed ↔ file.current ≠ file.loaded)
    : (file.current = file.loaded → stage.changedPaths.countP (·.names = place.names) = 0)
      ∧ (file.current ≠ file.loaded → stage.changedPaths.countP (·.names = place.names) = 1) := by
  have own := holds.key _ (Dictionary.mem_of_get? known)
  have counted : stage.changedPaths.countP (·.names = place.names)
      = (stage.changed.map (·.path.components)).count place.components := by
    rw [Stage.changedPaths, List.countP_map, List.count, List.countP_map]
    refine List.countP_congr fun other inside => ?_
    simpa using same _ (holds.of_changed inside).1
  rw [counted]
  refine ⟨fun unchanged => ?_, fun differs => ?_⟩
  · refine List.count_eq_zero_of_not_mem fun found => ?_
    obtain ⟨other, inside, components⟩ := List.mem_map.mp found
    obtain rfl := holds.eq_of_names same known inside (names_congr components)
    exact changed.mp inside unchanged
  · refine List.count_eq_one_of_mem holds.distinct ?_
    exact List.mem_map.mpr ⟨file, changed.mpr differs, own.symm⟩

/-- The mutations of a step make of a file what their edits make of it one after the other, whatever
spellings of its path they use, as long as these are alike. If that is another content than before, the
file is listed once; and in either case a workspace that the step was committed to, on the tree or
beside it, has that content under every such spelling.
-/
theorem Step.commit_composed {stage : Stage} {written : Written} {before asked committed : Scene σ}
    {place : Path}
    (sound : ∀ path ∈ step.targets, path.fault? = none)
    (spelled : ∀ path ∈ step.targets, path.IsSpelled)
    (ground : before.files.Grounded before.workspace.root top)
    (wet : before.workspace.dryRun = false →
      before.workspace.overlay = [] ∧ stage.HasFreshNames before.files top)
    (member : place ∈ step.targets)
    (alike : ∀ path ∈ step.targets, path.names = place.names → path.SpellsAlike place)
    (staged : (step.stageMutations collaborators options).run.run before = (.ok stage, asked))
    (commits : (step.commit stage).run.run asked = (.ok written, committed))
    : ∃ edits content,
        (step.resolveAll collaborators options).run.run before = (.ok edits, asked)
        ∧ Edit.composed (editsOf (·.names = place.names) (step.mutations.zip edits))
            (before.workspace.content? before.files top place) = .ok content
        ∧ (content = before.workspace.content? before.files top place →
            stage.changedPaths.countP (·.names = place.names) = 0)
        ∧ (content ≠ before.workspace.content? before.files top place →
            stage.changedPaths.countP (·.names = place.names) = 1)
        ∧ ∀ other : Path, other.fault? = none → other.SpellsAlike place →
            committed.workspace.content? committed.files top other = content
            ∧ (before.workspace.dryRun = false →
                committed.files.content? (top ++ other.names) = content)
            ∧ (before.workspace.dryRun = true →
                content ≠ before.workspace.content? before.files top place →
                committed.workspace.read committed.files other = .ok content) := by
  obtain ⟨edits, resolved, length, composes⟩ := step.stageMutations_composes staged
  obtain ⟨outcome, names, consulted, -⟩ :=
    step.stageMutations_consulting collaborators options before
  cases consulted.symm.trans staged
  have targets := step.targets_of_zip length
  have holds : stage.Holds before.workspace before.files step.targets := targets ▸ composes.holds
  have reads := holds.readFrom sound spelled
  have same := components_of_alike sound member alike
  obtain ⟨file, known⟩ := Option.isSome_iff_exists.mp (holds.covers place member)
  have entry := Dictionary.mem_of_get? known
  have own : place.components = file.path.components := holds.key _ entry
  have changed : file ∈ stage.changed ↔ file.current ≠ file.loaded :=
    reads.mem_changed.trans (and_iff_right ⟨_, entry⟩)
  have loaded : before.workspace.content? before.files top place = file.loaded := by
    rw [Workspace.content?_congr own]
    exact Workspace.content?_of_reads ground (sound _ (holds.target _ entry)) (holds.loaded _ entry)
  obtain ⟨unlisted, listed⟩ := holds.countP_changedPaths same known changed
  rw [loaded]
  refine ⟨edits, file.current, resolved, ?_, unlisted, listed, fun other sound' spelling => ?_⟩
  · have mine : editsOf (·.names = place.names) (step.mutations.zip edits)
        = editsOf (·.components = place.components) (step.mutations.zip edits) := by
      refine congrArg (List.map _) (List.filter_congr fun found inside => decide_eq_decide.mpr ?_)
      exact same _ (targets ▸ List.mem_map_of_mem inside)
    rw [mine]
    exact composes.composed _ _ known
  · have components : other.components = file.path.components :=
      ((components_eq_iff sound' (sound _ member)).mpr spelling).trans own
    let asked := before.consulting collaborators names
    have held : stage.Holds asked.workspace asked.files step.targets := holds
    obtain ⟨each, others⟩ := Step.content?_of_commit held sound spelled ground wet commits
    have settled : committed.workspace.content? committed.files top other = file.current := by
      by_cases differs : file.current = file.loaded
      · rw [others other fun found inside names => ?_, Workspace.content?_congr components, differs,
          ← loaded, Workspace.content?_congr own]
        · rfl
        · obtain rfl := holds.eq_of_names same known inside (names.trans spelling.names)
          exact changed.mp inside differs
      · exact (each file (changed.mpr differs) other components).trans
          ((reads.file _ entry).content differs)
    refine ⟨settled, fun dry => ?_, fun dry differs => ?_⟩
    · have onTree : asked.workspace.dryRun = false := dry
      have plain : asked.workspace.overlay = [] := (wet dry).1
      rw [← settled, Workspace.content?, (Step.run_of_commit onTree commits).1, plain]
      rfl
    · rw [Step.read_of_commit_dry held dry commits (changed.mpr differs) components]
      exact congrArg Except.ok ((reads.file _ entry).content differs)

/-- A step that writes a file and changes it under another spelling of its path. -/
def Step.respelling : Step where
  name := "write"
  mutations :=
    [.writeNew ⟨"d", ["a"]⟩ "one", .replace ⟨"d", ["", ".", "a"]⟩ (.literal "one") "two" false false]

/-- The file holds what both mutations make of it and is listed once. -/
theorem Step.commit_composed_respelling
    : ∃ stage written asked committed,
        (respelling.stageMutations (.failing "") []).run.run (.blank "notes") = (.ok stage, asked)
        ∧ (respelling.commit stage).run.run asked = (.ok written, committed)
        ∧ stage.changedPaths.countP (·.names = ["d", "a"]) = 1
        ∧ committed.files.content? ["d", "a"] = some "two".toUTF8 := by
  have stages : ((respelling.stageMutations (.failing "") []).run.run (.blank "notes")).1.toOption.map
      Stage.changedPaths = some [⟨"d", ["a"]⟩] := by
    decide +kernel
  have passes : ((do
      let stage ← respelling.stageMutations (.failing "") []
      respelling.commit stage).run.run (.blank "notes")).1.toOption.isSome = true := by
    decide +kernel
  rw [run_bind] at passes
  rcases staged : (respelling.stageMutations (.failing "") []).run.run (.blank "notes") with
    ⟨fault | stage, asked⟩ <;> rw [staged] at stages passes
  · cases stages
  rcases commits : (respelling.commit stage).run.run asked with ⟨fault | written, committed⟩ <;>
    simp only [commits] at passes
  · cases passes
  have paths : stage.changedPaths = [⟨"d", ["a"]⟩] := Option.some.inj stages
  have fresh : stage.HasFreshNames (Scene.blank "notes").files [] := by
    refine ⟨?_, ?_⟩ <;> rw [paths]
    · rw [List.forall_mem_singleton]
      rfl
    · decide +kernel
  have targets : respelling.targets = [⟨"d", ["a"]⟩, ⟨"d", ["", ".", "a"]⟩] := rfl
  have spelled : ∀ path ∈ respelling.targets, path.IsSpelled := by
    simp only [targets, List.forall_mem_cons]
    exact ⟨⟨"d/a", by decide⟩, ⟨"d//./a", by decide⟩, by simp⟩
  have alike : ∀ path ∈ respelling.targets, path.names = (Path.mk "d" ["a"]).names →
      path.SpellsAlike ⟨"d", ["a"]⟩ := by
    simp only [targets, List.forall_mem_cons]
    exact ⟨fun _ => ⟨rfl, Iff.rfl⟩, fun _ => ⟨rfl, Iff.rfl⟩, by simp⟩
  obtain ⟨edits, content, resolved, composed, -, counted, each⟩ :=
    @commit_composed _ [] _ _ respelling stage written (.blank "notes") asked committed ⟨"d", ["a"]⟩
      (by decide) spelled grounded_empty (fun _ => ⟨rfl, fresh⟩) List.mem_cons_self alike staged commits
  obtain rfl : [.write "one".toUTF8, .replace (.literal "one") "two" false] = edits :=
    Except.ok.inj (congrArg Prod.fst resolved)
  have made : Edit.composed [.write "one".toUTF8, .replace (.literal "one") "two" false] none
      = .ok (some "two".toUTF8) := by
    decide +kernel
  obtain rfl : some "two".toUTF8 = content := Except.ok.inj (made.symm.trans composed)
  exact ⟨stage, written, asked, committed, rfl, commits, counted (Option.some_ne_none _),
    (each ⟨"d", ["a"]⟩ (by decide) ⟨rfl, Iff.rfl⟩).2.1 rfl⟩

/-- A step that spells the path of a file with a dot at its start and without one. -/
def Step.dotting : Step where
  name := "write"
  mutations := [.writeNew ⟨"a", []⟩ "one", .writeNew ⟨".", ["a"]⟩ "one"]

/-- The mutations of the file can be made one after the other, but it is listed twice and the step cannot
be committed.
-/
theorem Step.dotting_not_composed
    : ∃ edits stage asked fault,
        (dotting.resolveAll (.failing "") []).run.run (.blank "notes") = (.ok edits, asked)
        ∧ (∀ path ∈ dotting.targets, path.fault? = none ∧ path.names = ["a"])
        ∧ Edit.composed (editsOf (·.names = ["a"]) (dotting.mutations.zip edits)) none
          = .ok (some "one".toUTF8)
        ∧ (dotting.stageMutations (.failing "") []).run.run (.blank "notes") = (.ok stage, asked)
        ∧ stage.changedPaths.countP (·.names = ["a"]) = 2
        ∧ ((dotting.commit stage).run.run asked).1 = .error fault := by
  have made : Edit.composed [.write "one".toUTF8, .write "one".toUTF8] none
      = .ok (some "one".toUTF8) := by
    decide +kernel
  exact ⟨[.write "one".toUTF8, .write "one".toUTF8], _, _, _, rfl, by decide, made, rfl, rfl, rfl⟩

end Groundwork
