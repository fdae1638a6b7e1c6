import Groundwork.Proofs.Run.Composition
import Mathlib.Data.List.Sort
import Mathlib.Data.Set.List

/-!
Staging as folding. What a step stages of a file are the edits of its own mutations one after the
other, whatever comes between them; so mutations of different files may change places, and what fails
is the first mutation that these folds do not admit.
-/

namespace Groundwork

open Files Path Workspace

variable {σ : Type} {workspace : Workspace} {files : Files} {collaborators : Collaborators σ}
  {options : Options} {step : Step} {stage : Stage} {before after : Scene σ}
  {entries : List (Mutation × Edit)}

-----------------------------------------------------------------------------------------
-- What is staged
-----------------------------------------------------------------------------------------

/-- A stage has of every target of some edits what these make of it, one after the other, from the
content that is read under the first spelling of its path, as under any other one that can be read; and
it lists, in the order of their paths, the targets that are to have another content than was read.
-/
structure Stage.Folds (workspace : Workspace) (files : Files) (entries : List (Mutation × Edit))
    (stage : Stage)
    : Prop where
  staged
    : ∀ path ∈ entries.map (·.1.target), ∃ file,
        stage.files.get? path.components = some file
        ∧ (entries.map (·.1.target)).find? (·.components = path.components) = some file.path
        ∧ workspace.read files file.path = .ok file.loaded
        ∧ Edit.composed (editsOf (·.components = path.components) entries) file.loaded
          = .ok file.current
        ∧ ∀ content, workspace.read files path = .ok content → content = file.loaded
  only
    : ∀ key file, stage.files.get? key = some file →
        ∃ path ∈ entries.map (·.1.target), path.components = key
  ascending : stage.changedPaths.Pairwise (·.components < ·.components)
  listed
    : ∀ path, path ∈ stage.changedPaths ↔
        ∃ file, stage.files.get? path.components = some file
          ∧ file.path = path ∧ file.current ≠ file.loaded

/-- A file that a stage holds is listed if it is to have another content than was read. -/
theorem Stage.Holds.mem_changed {targets : List Path} (holds : stage.Holds workspace files targets)
    {file : StagedFile}
    : file ∈ stage.changed
      ↔ stage.files.get? file.path.components = some file ∧ file.current ≠ file.loaded := by
  rw [Stage.changed, List.mem_filter, List.mem_map]
  constructor
  · rintro ⟨⟨entry, member, rfl⟩, changed⟩
    rw [StagedFile.isChanged, holds.current entry member, Bool.true_and, bne_iff_ne] at changed
    exact ⟨holds.key entry member ▸ Dictionary.get?_of_mem holds.ordered member, changed⟩
  · rintro ⟨known, differs⟩
    have member := Dictionary.mem_of_get? known
    refine ⟨⟨_, member, rfl⟩, ?_⟩
    rw [StagedFile.isChanged, holds.current _ member, Bool.true_and, bne_iff_ne]
    exact differs

/-- The files that are to be written are listed in the order of their paths. -/
theorem Stage.Holds.ascending {targets : List Path} (holds : stage.Holds workspace files targets)
    : stage.changedPaths.Pairwise (·.components < ·.components) := by
  have ordered : (stage.files.map (·.2)).Pairwise (·.path.components < ·.path.components) := by
    refine List.pairwise_map.mpr (holds.ordered.imp_of_mem fun {one two} member member' before => ?_)
    rwa [← holds.key one member, ← holds.key two member']
  exact List.pairwise_map.mpr (ordered.filter _)

theorem Stage.Composes.folds (composes : stage.Composes workspace files entries)
    : stage.Folds workspace files entries where
  staged path member := by
    obtain ⟨file, known⟩ := Option.isSome_iff_exists.mp (composes.holds.covers path member)
    have reads := composes.holds.loaded _ (Dictionary.mem_of_get? known)
    have same : path.components = file.path.components :=
      composes.holds.key _ (Dictionary.mem_of_get? known)
    exact ⟨file, known, composes.first _ _ known, reads, composes.composed _ _ known,
      fun content own => eq_of_read_respelled same own reads⟩
  only key file known :=
    have member := Dictionary.mem_of_get? known
    ⟨file.path, composes.holds.target _ member, (composes.holds.key _ member).symm⟩
  ascending := composes.holds.ascending
  listed path := by
    rw [Stage.changedPaths, List.mem_map]
    constructor
    · rintro ⟨file, member, rfl⟩
      obtain ⟨known, differs⟩ := composes.holds.mem_changed.mp member
      exact ⟨file, known, rfl, differs⟩
    · rintro ⟨file, known, rfl, differs⟩
      exact ⟨file, composes.holds.mem_changed.mpr ⟨known, differs⟩, rfl⟩

/-- Edits that a stage composes can be composed. -/
theorem Stage.Composes.canCompose (composes : stage.Composes workspace files entries)
    : workspace.CanCompose files entries := by
  intro path first
  obtain ⟨file, known, first', reads, made, -⟩ :=
    composes.folds.staged path (List.mem_of_find?_eq_some first)
  obtain rfl : path = file.path := Option.some.inj (first.symm.trans first')
  exact ⟨file.loaded, file.current, reads, made⟩

-----------------------------------------------------------------------------------------
-- What fails
-----------------------------------------------------------------------------------------

/-- Why a mutation fails after others that were made: it cannot be worked out, its target is new and
cannot be read, or its edit is refused by what the others made of its target.
-/
inductive Mutation.Fails (step : Step) (collaborators : Collaborators σ) (options : Options)
    (entries : List (Mutation × Edit)) (scene : Scene σ) (mutation : Mutation)
    : RunFault → Prop
  | unresolved {fault : RunFault} {asked : Scene σ}
      (resolves : (step.resolve collaborators options mutation).run.run scene
        = (.error fault, asked))
    : Fails step collaborators options entries scene mutation fault
  | unread {edit : Edit} {asked : Scene σ} {failure : Failure}
      (resolves : (step.resolve collaborators options mutation).run.run scene = (.ok edit, asked))
      (new : ∀ entry ∈ entries, entry.1.target.components ≠ mutation.target.components)
      (reads : scene.workspace.read scene.files mutation.target = .error failure)
    : Fails step collaborators options entries scene mutation (.io step.name failure)
  | refused {edit : Edit} {asked : Scene σ} {path : Path} {loaded content : Option ByteArray}
      {fault : EditFault}
      (resolves : (step.resolve collaborators options mutation).run.run scene = (.ok edit, asked))
      (first : (entries.map (·.1.target) ++ [mutation.target]).find?
        (·.components = mutation.target.components) = some path)
      (reads : scene.workspace.read scene.files path = .ok loaded)
      (composed : Edit.composed (editsOf (·.components = mutation.target.components) entries) loaded
        = .ok content)
      (refuses : edit.apply content = .error fault)
    : Fails step collaborators options entries scene mutation
        (.ofEdit step.name mutation.target fault)

/-- Why mutations cannot be taken in after others that were made: one of them fails, and those before it
do not.
-/
def Step.FailsFirst (step : Step) (collaborators : Collaborators σ) (options : Options)
    (entries : List (Mutation × Edit)) (mutations : List Mutation) (before : Scene σ)
    (fault : RunFault)
    : Prop :=
  ∃ earlier mutation later edits asked,
    mutations = earlier ++ mutation :: later
    ∧ (earlier.mapM (step.resolve collaborators options)).run.run before = (.ok edits, asked)
    ∧ before.workspace.CanCompose before.files (entries ++ earlier.zip edits)
    ∧ mutation.Fails step collaborators options (entries ++ earlier.zip edits) asked fault

/-- An edit that is not taken into a stage which composes those before it fails; by cases on whether
its target was edited before.
-/
theorem Stage.Composes.fails (composes : stage.Composes before.workspace before.files entries)
    {mutation : Mutation} {edit : Edit} {fault : RunFault} {asked : Scene σ}
    (resolves : (step.resolve collaborators options mutation).run.run before = (.ok edit, asked))
    (failed : step.edited mutation.target edit
        (stage.load before.workspace before.files mutation.target) = .error fault)
    : mutation.Fails step collaborators options entries before fault := by
  have refused {file : StagedFile}
      (has : stage.Has before.workspace before.files mutation.target file)
      (reads : before.workspace.read before.files file.path = .ok file.loaded)
      : mutation.Fails step collaborators options entries before fault := by
    obtain ⟨composed, first⟩ := composes.has has
    cases outcome : edit.apply file.current with
    | ok made =>
        obtain ⟨content, goes⟩ : ∃ content, edit.applied file.current = .ok content := by
          rw [Edit.applied, outcome]
          cases made <;> exact ⟨_, rfl⟩
        obtain ⟨next, went, -⟩ := step.edited_of_has has goes
        cases went.symm.trans failed
    | error refusal =>
        obtain ⟨loaded, loads, -⟩ := Stage.load_of_has has
        simp only [loads, Step.edited, outcome] at failed
        cases failed
        exact .refused resolves first reads composed outcome
  cases known : stage.files.get? mutation.target.components with
  | some file => exact refused (.inl known) (composes.holds.loaded _ (Dictionary.mem_of_get? known))
  | none =>
      cases reading : before.workspace.read before.files mutation.target with
      | ok loaded => exact @refused ⟨_, loaded, loaded⟩ (.inr ⟨known, reading, rfl⟩) reading
      | error failure =>
          simp only [Stage.load, known, reading, bind, Except.bind, Step.edited] at failed
          cases failed
          refine .unread resolves (fun entry member same => ?_) reading
          have covered := composes.holds.covers _ (List.mem_map_of_mem member)
          rw [same, known] at covered
          cases covered

/-- A step that cannot be staged has a mutation that fails first; by induction on the mutations, those
before it being composed by the stage so far.
-/
theorem Step.stageMutations_fails {fault : RunFault}
    (failed : (step.stageMutations collaborators options).run.run before = (.error fault, after))
    : step.FailsFirst collaborators options [] step.mutations before fault := by
  have staging (mutations : List Mutation) (start : Stage) (entries : List (Mutation × Edit))
      (before : Scene σ) (composes : start.Composes before.workspace before.files entries)
      (failed : (mutations.foldlM (step.stageMutation collaborators options) start).run.run before
        = (.error fault, after))
      : step.FailsFirst collaborators options entries mutations before fault := by
    induction mutations generalizing start entries before with
    | nil => cases failed
    | cons mutation rest ih =>
        have first (fails : mutation.Fails step collaborators options entries before fault)
            : step.FailsFirst collaborators options entries (mutation :: rest) before fault :=
          ⟨[], mutation, rest, [], before, rfl, rfl, by simpa using composes.canCompose,
            by simpa using fails⟩
        rw [List.foldlM_cons, run_bind, run_stageMutation] at failed
        obtain ⟨outcome, ran⟩ := step.resolve_consulting collaborators options mutation before
        rw [ran] at failed
        cases outcome with
        | error unresolved =>
            cases failed
            exact first (.unresolved ran)
        | ok edit =>
            let asked := before.consulting collaborators mutation.template?.toList
            cases went : step.edited mutation.target edit
                (start.load asked.workspace asked.files mutation.target) with
            | error refused =>
                have here := composes.fails ran went
                simp only [asked] at went
                simp only [went] at failed
                cases failed
                exact first here
            | ok next =>
                have later : next.Composes asked.workspace asked.files (entries ++ [(mutation, edit)]) :=
                  composes.edited went
                simp only [asked] at went
                simp only [went] at failed
                obtain ⟨earlier, failing, others, edits, ended, split, resolved, able, fails⟩ :=
                  ih next _ asked later failed
                rw [List.append_assoc] at able fails
                refine ⟨mutation :: earlier, failing, others, edit :: edits, ended, by rw [split]; rfl,
                  ?_, able, fails⟩
                simp only [asked] at resolved
                simp only [List.mapM_cons, run_bind, ran, resolved]
                rfl
  exact staging step.mutations {} [] before (.empty ..) failed

-----------------------------------------------------------------------------------------
-- Stages that compose the same edits
-----------------------------------------------------------------------------------------

/-- Dictionaries in order that look up the same have the same entries. -/
theorem Dictionary.eq_of_get? {κ α : Type} [DecidableEq κ] [LT κ]
    [Trans (fun a b : κ => a < b) (fun a b : κ => a < b) (fun a b : κ => a < b)]
    [Std.Irrefl fun a b : κ => a < b] {one two : Dictionary κ α}
    (ordered : one.Pairwise (·.1 < ·.1)) (ordered' : two.Pairwise (·.1 < ·.1))
    (same : ∀ key, one.get? key = two.get? key)
    : one = two := by
  have irrefl (key : κ) : ¬ key < key := Std.Irrefl.irrefl (r := fun a b : κ => a < b) key
  have : Std.Irrefl fun a b : κ × α => a.1 < b.1 := ⟨fun entry => irrefl entry.1⟩
  have : Std.Antisymm fun a b : κ × α => a.1 < b.1 :=
    ⟨fun a b before after => absurd (Trans.trans before after) (irrefl a.1)⟩
  refine ordered.eq_of_mem_iff ordered' fun entry => ⟨fun member => ?_, fun member => ?_⟩
  · exact mem_of_get? ((same _).symm.trans (get?_of_mem ordered member))
  · exact mem_of_get? ((same _).trans (get?_of_mem ordered' member))

/-- Two lists of edits that have the same ones for every path, and spell it first in the same way. -/
structure SameByTarget (entries others : List (Mutation × Edit)) : Prop where
  first : ∀ key,
    (entries.map (·.1.target)).find? (·.components = key)
      = (others.map (·.1.target)).find? (·.components = key)
  edits : ∀ key, editsOf (·.components = key) entries = editsOf (·.components = key) others

theorem SameByTarget.symm {others : List (Mutation × Edit)} (same : SameByTarget entries others)
    : SameByTarget others entries :=
  ⟨fun key => (same.first key).symm, fun key => (same.edits key).symm⟩

theorem SameByTarget.canCompose {others : List (Mutation × Edit)}
    (same : SameByTarget entries others) (able : workspace.CanCompose files entries)
    : workspace.CanCompose files others := by
  intro path first
  rw [← same.edits]
  exact able path ((same.first _).trans first)

/-- A file of a stage is also the file of one that composes the same edits. -/
theorem Stage.Composes.transfer {one two : Stage} {others : List (Mutation × Edit)}
    (first : one.Composes workspace files entries) (second : two.Composes workspace files others)
    (same : SameByTarget entries others) {key : PathKey} {file : StagedFile}
    (known : one.files.get? key = some file)
    : two.files.get? key = some file := by
  have member := Dictionary.mem_of_get? known
  obtain rfl : key = file.path.components := first.holds.key _ member
  have spelled := (same.first _).symm.trans (first.first _ _ known)
  obtain ⟨other, known', spelled', reads, made, -⟩ :=
    second.folds.staged file.path (List.mem_of_find?_eq_some spelled)
  have path : file.path = other.path := Option.some.inj (spelled.symm.trans spelled')
  rw [← path] at reads
  have loaded : file.loaded = other.loaded :=
    Except.ok.inj ((first.holds.loaded _ member).symm.trans reads)
  rw [← same.edits, ← loaded] at made
  have current : file.current = other.current :=
    Except.ok.inj ((first.composed _ _ known).symm.trans made)
  obtain ⟨path', loaded', current'⟩ := file
  cases path
  cases loaded
  cases current
  exact known'

/-- There is one stage that composes edits, in whatever order the edits of different targets come. -/
theorem Stage.Composes.unique {one two : Stage} {others : List (Mutation × Edit)}
    (first : one.Composes workspace files entries) (second : two.Composes workspace files others)
    (same : SameByTarget entries others)
    : one = two := by
  have files : one.files = two.files :=
    Dictionary.eq_of_get? first.holds.ordered second.holds.ordered fun key =>
      Option.ext fun file => ⟨first.transfer second same, second.transfer first same.symm⟩
  cases one
  cases two
  cases files
  rfl

-----------------------------------------------------------------------------------------
-- Mutations in another order
-----------------------------------------------------------------------------------------

/-- Templates that are the same whenever they are asked for, as long as the tree is. -/
def Collaborators.TemplatesSteady (collaborators : Collaborators σ) (files : Files) : Prop :=
  ∀ name first second,
    (collaborators.template name files first).1 = (collaborators.template name files second).1

/-- What a mutation is worked out to when it comes first. -/
def Step.worksOut (step : Step) (collaborators : Collaborators σ) (options : Options)
    (before : Scene σ) (mutation : Mutation)
    : Except RunFault Edit :=
  ((step.resolve collaborators options mutation).run.run before).1

/-- Where templates are steady, mutations are worked out as if each of them came first; by induction on
the mutations.
-/
theorem Step.mapM_resolve_iff (steady : collaborators.TemplatesSteady before.files)
    {mutations : List Mutation} {edits : List Edit}
    : ((mutations.mapM (step.resolve collaborators options)).run.run before).1 = .ok edits
      ↔ mutations.map (step.worksOut collaborators options before) = edits.map .ok := by
  have working (mutations : List Mutation) (edits : List Edit) (scene : Scene σ)
      (tree : scene.files = before.files)
      : ((mutations.mapM (step.resolve collaborators options)).run.run scene).1 = .ok edits
        ↔ mutations.map (step.worksOut collaborators options before) = edits.map .ok := by
    induction mutations generalizing edits scene with
    | nil =>
        cases edits with
        | nil => exact ⟨fun _ => rfl, fun _ => rfl⟩
        | cons edit later => exact ⟨nofun, nofun⟩
    | cons mutation rest ih =>
        obtain ⟨outcome, ran⟩ := step.resolve_consulting collaborators options mutation scene
        have agree : ((step.resolve collaborators options mutation).run.run before).1
            = ((step.resolve collaborators options mutation).run.run scene).1 := by
          refine step.resolve_eq_of_template options fun name _ => ?_
          rw [tree]
          exact steady name _ _
        have out : step.worksOut collaborators options before mutation = outcome := by
          rw [worksOut, agree, ran]
        rw [List.mapM_cons, run_bind, ran, List.map_cons, out]
        cases outcome with
        | error fault =>
            refine ⟨nofun, fun same => ?_⟩
            cases edits <;> cases same
        | ok edit =>
            have later (edits : List Edit) :=
              ih edits (scene.consulting collaborators mutation.template?.toList) tree
            simp only [run_bind]
            rcases resolved : (rest.mapM (step.resolve collaborators options)).run.run
                (scene.consulting collaborators mutation.template?.toList) with
              ⟨fault | others, ended⟩ <;> simp only [resolved] at later
            · refine ⟨nofun, fun same => ?_⟩
              obtain ⟨own, more, rfl, -, tail⟩ := List.map_eq_cons_iff.mp same.symm
              cases (later more).mpr tail.symm
            · constructor
              · rintro ⟨⟩
                exact congrArg (.ok edit :: ·) ((later others).mp rfl)
              · intro same
                obtain ⟨own, more, rfl, first, tail⟩ := List.map_eq_cons_iff.mp same.symm
                cases first
                cases (later more).mpr tail.symm
                rfl
  exact working mutations edits before rfl

/-- The mutations of every target come in the same order. -/
def SameOrder (mutations others : List Mutation) : Prop :=
  ∀ key : PathKey,
    mutations.filter (·.target.components = key) = others.filter (·.target.components = key)

/-- Edits of some targets are what the mutations of these are worked out to; by induction on the
mutations.
-/
theorem editsOf_zip {worksOut : Mutation → Except RunFault Edit} {mutations : List Mutation}
    {edits : List Edit} (resolved : mutations.map worksOut = edits.map .ok) (among : Path → Bool)
    : (editsOf among (mutations.zip edits)).map .ok
      = (mutations.filter (among ·.target)).map worksOut := by
  induction mutations generalizing edits with
  | nil => rfl
  | cons mutation rest ih =>
      obtain ⟨edit, later, rfl, first, tail⟩ := List.map_eq_cons_iff.mp resolved.symm
      have others := ih tail.symm
      rw [editsOf] at others
      by_cases own : among mutation.target <;> simp [editsOf, own, first, others]

/-- Mutations in another order that is the same for every target are worked out to edits that are the
same by target.
-/
theorem SameOrder.edits {worksOut : Mutation → Except RunFault Edit}
    {mutations others : List Mutation} (order : SameOrder mutations others) {edits : List Edit}
    (resolved : mutations.map worksOut = edits.map .ok)
    : ∃ edits', others.map worksOut = edits'.map .ok
        ∧ SameByTarget (mutations.zip edits) (others.zip edits') := by
  have among {mutation : Mutation} (member : mutation ∈ others) : mutation ∈ mutations := by
    have own : mutation ∈ others.filter (·.target.components = mutation.target.components) :=
      List.mem_filter.mpr ⟨member, decide_eq_true rfl⟩
    rw [← order] at own
    exact List.mem_of_mem_filter own
  have each : others.map worksOut ∈ Set.range (List.map Except.ok) := by
    rw [Set.range_list_map]
    refine List.forall_mem_map.mpr fun mutation member => ?_
    have worked := @List.mem_map_of_mem _ _ _ _ worksOut (among member)
    rw [resolved] at worked
    obtain ⟨edit, -, same⟩ := List.mem_map.mp worked
    exact ⟨edit, same⟩
  obtain ⟨edits', resolved'⟩ := each
  have length : edits.length = mutations.length := by simpa using (congrArg List.length resolved).symm
  have length' : edits'.length = others.length := by simpa using congrArg List.length resolved'
  refine ⟨edits', resolved'.symm, fun key => ?_, fun key => ?_⟩
  · rw [targets_zip length, targets_zip length', List.find?_map, List.find?_map, ← List.head?_filter,
      ← List.head?_filter]
    exact congrArg (·.head?.map Mutation.target) (order key)
  · have injective : Function.Injective (Except.ok : Edit → Except RunFault Edit) :=
      fun _ _ => Except.ok.inj
    refine List.map_injective_iff.mpr injective ?_
    rw [editsOf_zip resolved, editsOf_zip resolved'.symm]
    exact congrArg (List.map worksOut) (order key)

/-- A step that could be staged can be with its mutations in another order that is the same for every
target, and leaves the same stage.
-/
theorem Step.stageMutations_reordered (steady : collaborators.TemplatesSteady before.files)
    {mutations : List Mutation} (order : SameOrder step.mutations mutations)
    (staged : (step.stageMutations collaborators options).run.run before = (.ok stage, after))
    : ∃ after',
        (Step.stageMutations { step with mutations } collaborators options).run.run before
        = (.ok stage, after') := by
  obtain ⟨edits, resolved, -, composes⟩ := step.stageMutations_composes staged
  obtain ⟨edits', worked, same⟩ :=
    order.edits ((mapM_resolve_iff steady).mp (congrArg Prod.fst resolved))
  let reordered : Step := { step with mutations }
  have same_resolve : reordered.resolve collaborators options = step.resolve collaborators options :=
    rfl
  obtain ⟨after', resolved'⟩
      : ∃ after', (reordered.resolveAll collaborators options).run.run before
        = (.ok edits', after') := by
    refine ⟨_, Prod.ext ?_ rfl⟩
    rw [resolveAll, same_resolve]
    exact (mapM_resolve_iff steady).mpr worked
  obtain ⟨stage', staged'⟩ :=
    reordered.stageMutations_ok resolved' (same.canCompose composes.canCompose)
  obtain ⟨again, resolved'', -, composes'⟩ := reordered.stageMutations_composes staged'
  cases resolved'.symm.trans resolved''
  obtain rfl := composes.unique composes' same
  exact ⟨_, staged'⟩

-----------------------------------------------------------------------------------------
-- Staging
-----------------------------------------------------------------------------------------

/-- Staging a step either folds the edits of its mutations for every target, or ends with the fault of
the first mutation that its fold does not admit. A step that can be staged leaves the same stage if its
mutations come in another order that is the same for every target, where templates are the same
whenever they are asked for.
-/
theorem Step.stageMutations_folds (step : Step) (collaborators : Collaborators σ) (options : Options)
    (before : Scene σ)
    : match (step.stageMutations collaborators options).run.run before with
      | (.ok stage, after) =>
          (∃ edits,
            (step.resolveAll collaborators options).run.run before = (.ok edits, after)
            ∧ edits.length = step.mutations.length
            ∧ stage.Folds before.workspace before.files (step.mutations.zip edits))
          ∧ (collaborators.TemplatesSteady before.files → ∀ mutations,
            SameOrder step.mutations mutations →
            ∃ after',
              (Step.stageMutations { step with mutations } collaborators options).run.run before
              = (.ok stage, after'))
      | (.error fault, _) => step.FailsFirst collaborators options [] step.mutations before fault := by
  rcases staged : (step.stageMutations collaborators options).run.run before with
    ⟨fault | stage, after⟩
  · exact step.stageMutations_fails staged
  · obtain ⟨edits, resolved, length, composes⟩ := step.stageMutations_composes staged
    exact ⟨⟨edits, resolved, length, composes.folds⟩,
      fun steady mutations order => step.stageMutations_reordered steady order staged⟩

/-- A step that goes from one file to another and back. -/
def Step.interleaved : Step where
  name := "write"
  mutations :=
    [.writeNew ⟨"b", []⟩ "x\n", .writeNew ⟨"a", []⟩ "1",
      .insertAfter ⟨"b", []⟩ (.literal "x") "y\n" false false]

/-- The same is staged when the other file is written last. -/
theorem Step.stageMutations_folds_interleaved
    : ∃ stage after after',
        (interleaved.stageMutations (.failing "") []).run.run (.blank "notes") = (.ok stage, after)
        ∧ (Step.stageMutations
            { interleaved with
              mutations :=
                [.writeNew ⟨"b", []⟩ "x\n", .insertAfter ⟨"b", []⟩ (.literal "x") "y\n" false false,
                  .writeNew ⟨"a", []⟩ "1"] }
            (.failing "") []).run.run (.blank "notes") = (.ok stage, after')
        ∧ stage.changedPaths = [⟨"a", []⟩, ⟨"b", []⟩]
        ∧ (stage.files.get? (Path.mk "b" []).components).map (·.current)
          = some (some "x\ny\n".toUTF8) := by
  have folds := stageMutations_folds interleaved (.failing "") [] (.blank "notes")
  have steady : (Collaborators.failing "").TemplatesSteady (Scene.blank "notes").files :=
    fun _ _ _ => rfl
  have order : SameOrder interleaved.mutations
      [.writeNew ⟨"b", []⟩ "x\n", .insertAfter ⟨"b", []⟩ (.literal "x") "y\n" false false,
        .writeNew ⟨"a", []⟩ "1"] := by
    intro key
    by_cases own : (Path.mk "a" []).components = key
    · subst own
      rfl
    · simp [interleaved, Mutation.target, List.filter_cons, own]
  have paths : ((interleaved.stageMutations (.failing "") []).run.run (.blank "notes")).1.toOption.map
      Stage.changedPaths = some [⟨"a", []⟩, ⟨"b", []⟩] := by
    decide +kernel
  have content : ((interleaved.stageMutations (.failing "") []).run.run (.blank "notes")).1.toOption.map
      (fun stage => (stage.files.get? (Path.mk "b" []).components).map (·.current))
        = some (some (some "x\ny\n".toUTF8)) := by
    decide +kernel
  rcases staged : (interleaved.stageMutations (.failing "") []).run.run (.blank "notes") with
    ⟨fault | stage, after⟩ <;> rw [staged] at folds paths content
  · cases paths
  · obtain ⟨after', again⟩ := folds.2 steady _ order
    exact ⟨stage, after, after', rfl, again, Option.some.inj paths, Option.some.inj content⟩

end Groundwork
