import Groundwork.Proofs.Path.Spelling
import Groundwork.Proofs.Run.History

/-!
Definitions without flaws. What is reported for a definition is empty exactly if the definition is
well formed in all of its parts, and a run of any other one ends before it does anything.
-/

namespace Groundwork

-----------------------------------------------------------------------------------------
-- Well-formed definitions
-----------------------------------------------------------------------------------------

/-- A text that has something but blanks. -/
def Text.Filled (text : String) : Prop := ∃ c ∈ text.toList, Text.isBlank c = false

/-- A path that may name a file of a target directory: it is not empty and not absolute, and none of
its segments leads up.
-/
structure Path.Inner (path : Path) : Prop where
  filled : path.isEmpty = false
  relative : path.isAbsolute = false
  level : ".." ∉ path.segments

/-- What a mutation inserts, if it inserts. -/
def Mutation.inserted? : Mutation → Option String
  | .insertAfter _ _ payload .. | .insertBefore _ _ payload .. => some payload
  | .replace .. | .copyTemplate .. | .writeNew .. => none

/-- A mutation of a file of the target directory, with something to insert if it inserts, and with the
name of a file below a directory if it copies a template.
-/
structure Mutation.WellFormed (mutation : Mutation) : Prop where
  target : mutation.target.Inner
  inserted : ∀ payload, mutation.inserted? = some payload → payload ≠ ""
  template : ∀ name, mutation.template? = some name → (Path.ofString name).Inner

/-- A step with a name that has something to do, and nothing blank or malformed in what it does. -/
structure Step.WellFormed (step : Step) : Prop where
  named : Text.Filled step.name
  active : step.mutations ≠ [] ∨ step.commands ≠ []
  commands : ∀ command ∈ step.commands, Text.Filled command
  guard : ∀ guard, step.guard = some guard → Text.Filled guard.key
  mutations : ∀ mutation ∈ step.mutations, mutation.WellFormed

/-- A pipeline with a name and with steps, which have names of their own. -/
structure Pipeline.WellFormed (pipeline : Pipeline) : Prop where
  named : Text.Filled pipeline.name
  active : pipeline.steps ≠ []
  distinct : (pipeline.steps.map (·.name)).Nodup
  steps : ∀ step ∈ pipeline.steps, step.WellFormed

-----------------------------------------------------------------------------------------
-- Definitions without flaws
-----------------------------------------------------------------------------------------

theorem Text.isBlankText_eq_false_iff {text : String}
    : Text.isBlankText text = false ↔ Text.Filled text := by
  simp [Text.isBlankText, Text.Filled]

/-- A list with one item more in one case has none exactly if the case does not hold. -/
theorem flawIf_eq_nil_iff {flaw : Flaw} {case : Bool}
    : (if case = true then [flaw] else []) = [] ↔ case = false := by
  cases case <;> simp

theorem Path.fault?_eq_none_iff_inner {path : Path} : path.fault? = none ↔ path.Inner := by
  rw [Path.fault?_eq_none_iff]
  constructor
  · rintro ⟨some, level⟩
    exact ⟨by simp [Path.isEmpty, some], by simp [Path.isAbsolute, some], level⟩
  · rintro ⟨filled, relative, level⟩
    refine ⟨fun none => ?_, level⟩
    cases short : path.tail with
    | nil => simp [Path.isEmpty, none, short] at filled
    | cons => simp [Path.isAbsolute, none, short] at relative

/-- Texts of paths that may name a file of a target directory. -/
theorem Path.inner_ofString_iff {text : String}
    : (Path.ofString text).Inner
      ↔ text ≠ "" ∧ text.toList.head? ≠ some '/' ∧ "..".toList ∉ text.toList.splitOn '/' := by
  rw [← Path.fault?_eq_none_iff_inner, Path.fault?_ofString_eq_none_iff]

theorem Mutation.flaws_eq_nil_iff (mutation : Mutation)
    : mutation.flaws = [] ↔ mutation.WellFormed := by
  suffices parts : mutation.flaws = []
      ↔ mutation.target.Inner
        ∧ (∀ payload, mutation.inserted? = some payload → payload ≠ "")
        ∧ ∀ name, mutation.template? = some name → (Path.ofString name).Inner from
    parts.trans ⟨fun ⟨target, inserted, template⟩ => ⟨target, inserted, template⟩,
      fun ⟨target, inserted, template⟩ => ⟨target, inserted, template⟩⟩
  cases mutation with
  | insertAfter | insertBefore | replace | writeNew =>
      simp [flaws, inserted?, template?, Path.fault?_eq_none_iff_inner]
  | copyTemplate template dest render =>
      cases dest <;> simp [flaws, inserted?, template?, target, Path.fault?_eq_none_iff_inner]

theorem forall_mem_zipIdx_iff {α : Type} {list : List α} {P : α → Prop}
    : (∀ pair ∈ list.zipIdx, P pair.1) ↔ ∀ item ∈ list, P item := by
  rw [← List.forall_mem_map (f := Prod.fst), List.zipIdx_map_fst]

/-- A step has no flaws, its name aside, if it has something to do and nothing blank or malformed in
it.
-/
theorem Step.flaws_eq_nil_iff {step : Step} {label : StepLabel}
    : step.flaws label = []
      ↔ (step.mutations ≠ [] ∨ step.commands ≠ [])
        ∧ (∀ command ∈ step.commands, Text.Filled command)
        ∧ (∀ guard, step.guard = some guard → Text.Filled guard.key)
        ∧ ∀ mutation ∈ step.mutations, mutation.WellFormed := by
  have active : (step.mutations.isEmpty && step.commands.isEmpty) = false
      ↔ step.mutations ≠ [] ∨ step.commands ≠ [] := by
    rw [Bool.and_eq_false_iff, List.isEmpty_eq_false_iff, List.isEmpty_eq_false_iff]
  simp only [flaws, List.append_eq_nil_iff, flawIf_eq_nil_iff, active, List.flatMap_eq_nil_iff,
    Text.isBlankText_eq_false_iff, List.map_eq_nil_iff, Mutation.flaws_eq_nil_iff,
    forall_mem_zipIdx_iff (P := Text.Filled), forall_mem_zipIdx_iff (P := Mutation.WellFormed),
    and_assoc]
  cases step.guard with
  | none => simp
  | some guard => simp [← Text.isBlankText_eq_false_iff]

/-- Steps after others have no flaws if they are well formed and have names of their own; by induction
on the steps.
-/
theorem stepFlaws_eq_nil_iff {seen : List String} {number : Nat} {steps : List Step}
    : stepFlaws seen number steps = []
      ↔ (∀ step ∈ steps, step.WellFormed ∧ step.name ∉ seen) ∧ (steps.map (·.name)).Nodup := by
  induction steps generalizing seen number with
  | nil => simp [stepFlaws]
  | cons step rest ih =>
      have name : (if Text.isBlankText step.name then [Flaw.blankStepName (number + 1)]
            else if seen.contains step.name then [.duplicateStepName step.name]
            else []) = []
          ↔ Text.Filled step.name ∧ step.name ∉ seen := by
        rw [← Text.isBlankText_eq_false_iff]
        split
        · next blank => simp [blank]
        · next filled => simp [filled]
      have apart : step.name ∉ rest.map (·.name) ↔ ∀ later ∈ rest, later.name ≠ step.name := by
        simp
      rw [List.forall_mem_cons]
      simp only [stepFlaws, List.append_eq_nil_iff, name, Step.flaws_eq_nil_iff, ih,
        List.map_cons, List.nodup_cons, apart, List.mem_cons, not_or]
      constructor
      · rintro ⟨⟨⟨named, new⟩, active, commands, guard, mutations⟩, others, distinct⟩
        exact ⟨⟨⟨⟨named, active, commands, guard, mutations⟩, new⟩,
            fun later among => ⟨(others later among).1, (others later among).2.2⟩⟩,
          fun later among => (others later among).2.1, distinct⟩
      · rintro ⟨⟨⟨⟨named, active, commands, guard, mutations⟩, new⟩, others⟩, apart, distinct⟩
        exact ⟨⟨⟨named, new⟩, active, commands, guard, mutations⟩,
          fun later among => ⟨(others later among).1, apart later among, (others later among).2⟩,
          distinct⟩

/-- A definition is accepted exactly if it is well formed. -/
theorem Pipeline.flaws_eq_nil_iff {pipeline : Pipeline}
    : pipeline.flaws = [] ↔ pipeline.WellFormed := by
  simp only [flaws, List.append_eq_nil_iff, flawIf_eq_nil_iff, Text.isBlankText_eq_false_iff,
    List.isEmpty_eq_false_iff, stepFlaws_eq_nil_iff, List.not_mem_nil, not_false_eq_true, and_true,
    and_assoc]
  constructor
  · rintro ⟨named, active, steps, distinct⟩
    exact ⟨named, active, distinct, steps⟩
  · rintro ⟨named, active, distinct, steps⟩
    exact ⟨named, active, steps, distinct⟩

-----------------------------------------------------------------------------------------
-- Runs of definitions with flaws
-----------------------------------------------------------------------------------------

/-- The definitions without flaws are those that are well formed, where texts of paths that may name a
file are neither empty nor absolute and have no two dots between slashes. A run of any other one
reports its flaws and changes nothing, whatever collaborators it has: no file, not the run state, and
nothing outside that commands, checkpoints or templates could change.
-/
theorem Pipeline.flaws_spec {σ : Type} (pipeline : Pipeline)
    : (pipeline.flaws = [] ↔ pipeline.WellFormed)
      ∧ (∀ text : String, (Path.ofString text).Inner
        ↔ text ≠ "" ∧ text.toList.head? ≠ some '/' ∧ "..".toList ∉ text.toList.splitOn '/')
      ∧ (pipeline.flaws ≠ []
        → ∀ (setup : RunSetup σ) (scene : Scene σ),
          (pipeline.run setup).run.run scene
            = (.error (.malformed (pipeline.flaws.map .flaw)), scene)) := by
  refine ⟨flaws_eq_nil_iff, fun text => Path.inner_ofString_iff, fun some setup scene => ?_⟩
  have found : (!pipeline.flaws.isEmpty) = true := by simp [some]
  rw [run, run_bind, RunAction.run_getScene]
  simp only [found, if_true]
  rfl

end Groundwork
