import Groundwork.Proofs.Assignment
import Groundwork.Proofs.CommandLine.Status
import Groundwork.Proofs.Settings

/-!
Which value an option has when a pipeline is applied. Assignments are laid over the options of the
settings, the last one to a key on top, and these over the defaults of the pipeline; what guards and
templates see of the layers is one value for each key, or none.
-/

namespace Groundwork

open Template (Builtin Machine Value)

-----------------------------------------------------------------------------------------
-- What guards and templates see of options
-----------------------------------------------------------------------------------------

/-- Whether a guard allows its step, by the value of the option that it looks at. -/
def Guard.accepts (guard : Guard) (value : Option Datum) : Bool :=
  match guard with
  | .enabled _ => value.any Datum.isTruthy
  | .disabled _ => !value.any Datum.isTruthy
  | .equals _ expected => value.any fun found => found.same expected

theorem Guard.allows_eq (guard : Guard) (options : Options)
    : guard.allows options = guard.accepts (options.get? guard.key) := by
  cases guard <;> rfl

/-- The value of an option as the variable of a template, with marks from a number on by which its lists
and maps are told apart from others.
-/
def Datum.asVariable (value : Datum) (next : Nat) : Value := ((Value.ofDatum value).marked next).1

/-- Guards and templates see of some options what a function tells. To a template a name may still be that
of a function that all templates have.
-/
structure Options.Show (options : Options) (seen : String → Option Datum) : Prop where
  values : ∀ key, options.get? key = seen key
  guards : ∀ guard : Guard, guard.allows options = guard.accepts (seen guard.key)
  templates
    : ∀ (template : Template) (name : String),
        ∃ next,
          (Machine.initial (template.setting options)).lookup? (template.setting options) name
          = ((seen name).map (·.asVariable next)).or ((Builtin.ofName? name).map .function)

/-- The variables of a template are the options, each with marks after those of the ones before it; by
induction on the options.
-/
theorem Options.bindings_get? (options : Options) (name : String) (first : Nat)
    : ∃ next,
        Dictionary.get?
          ((options.zip (Value.markedEntries first
              (options.map fun option => (.ofText option.1, Value.ofDatum option.2))).1).map
            fun (option, entry) => (option.1, entry.2)) name
        = (options.get? name).map (·.asVariable next) := by
  induction options generalizing first with
  | nil => exact ⟨first, rfl⟩
  | cons option rest ih =>
      obtain ⟨key, value⟩ := option
      by_cases same : key = name
      · exact ⟨first, by simp [Value.markedEntries, Dictionary.get?, same, Datum.asVariable]⟩
      · obtain ⟨next, found⟩ := ih ((Value.ofDatum value).marked first).2
        refine ⟨next, ?_⟩
        simpa [Value.markedEntries, Dictionary.get?, same] using found

/-- At its start a template knows the variables given to it, and below these its functions. -/
theorem Template.Machine.lookup?_initial (setting : Template.Setting) (name : String)
    : (Machine.initial setting).lookup? setting name
      = (Dictionary.get? setting.bindings name).or ((Builtin.ofName? name).map .function) := by
  have framed
      : (Machine.initial setting).frames.findSome? ((Machine.initial setting).frameLookup? setting name)
        = Dictionary.get? setting.bindings name := by
    simp [Machine.initial, Machine.frameLookup?, Template.Frame.ofOptions, Template.Frame.empty,
      Dictionary.get?]
  rw [Machine.lookup?, framed]
  cases Dictionary.get? setting.bindings name <;> rfl

/-- What is looked up in options is what guards and templates see of them. -/
theorem Options.show_get? (options : Options) : options.Show options.get? where
  values _ := rfl
  guards guard := guard.allows_eq options
  templates template name := by
    obtain ⟨next, found⟩ := options.bindings_get? name 0
    exact ⟨next, by rw [Machine.lookup?_initial, ← found]; rfl⟩

/-- A step is passed over because of its guard exactly if it is due and its guard refuses the value of its
option.
-/
theorem Step.skip?_guard_iff {step : Step} {options : Options} {state : RunState}
    {seen : String → Option Datum} (shown : options.Show seen)
    : step.skip? options state = some .guard
      ↔ step.name ∉ state.completed
        ∧ ∃ guard, step.guard = some guard ∧ guard.accepts (seen guard.key) = false := by
  have completed : state.isCompleted step.name = true ↔ step.name ∈ state.completed := by
    simp [RunState.isCompleted]
  rw [Step.skip?, ← completed]
  cases step.guard with
  | none => cases state.isCompleted step.name <;> simp
  | some guard =>
      cases state.isCompleted step.name <;> simp [shown.guards guard]

namespace CommandLine

variable {arguments : ApplyArguments} {plan : ApplyPlan} {before : Surroundings Outside}
  {start : Scene Outside} {options result : Options} {raws : List String}

-----------------------------------------------------------------------------------------
-- Assignments on a command line
-----------------------------------------------------------------------------------------

/-- The values that are written for an option among arguments, behind an equals sign or as the argument that
follows, up to two dashes that stand alone.
-/
def CommandForm.valuesFor (name : String) : List String → List String
  | [] => []
  | text :: rest =>
      match text.toList with
      | ['-', '-'] => []
      | '-' :: '-' :: long =>
          if (splitLong long).1 = name then
            match (splitLong long).2, rest with
            | some value, rest => value :: valuesFor name rest
            | none, value :: rest => value :: valuesFor name rest
            | none, [] => []
          else valuesFor name rest
      | _ => valuesFor name rest

namespace CommandForm

variable {form : CommandForm} (name : String)

theorem addSwitch_values (arguments : Arguments) (switch : String)
    : Yields (addSwitch arguments switch) fun found => found.valuesOf name = arguments.valuesOf name := by
  unfold addSwitch
  split
  · exact .error
  · exact .pure rfl

theorem addOperand_values (arguments : Arguments) (text : String)
    : Yields (form.addOperand arguments text) fun found =>
        found.valuesOf name = arguments.valuesOf name := by
  unfold addOperand
  cases form.operands[arguments.operands.length]? with
  | none => exact .error
  | some operand =>
      dsimp only
      split
      · exact .error
      · exact .pure rfl

theorem addValue_values (arguments : Arguments) (option : OptionForm) (value : String)
    : Yields (addValue arguments option value) fun found =>
        found.valuesOf name
        = arguments.valuesOf name ++ if option.name = name then [value] else [] := by
  unfold addValue
  split
  · exact .error
  · split
    · exact .error
    · refine .pure ?_
      by_cases same : option.name = name <;> simp [Arguments.valuesOf, same]

theorem addLetters_values (arguments : Arguments) (letters : List Char)
    : Yields (form.addLetters arguments letters) fun found =>
        found.valuesOf name = arguments.valuesOf name := by
  induction letters generalizing arguments with
  | nil => exact .pure rfl
  | cons letter rest ih =>
      unfold addLetters
      split
      · exact .error
      · split
        · refine .bind (addSwitch_values name arguments _) fun found same => ?_
          rw [← same]
          exact ih found
        · exact .error

/-- What does not start with two dashes gives no option a value of its own. -/
theorem valuesFor_plain {text : String} (plain : ∀ long, text.toList ≠ '-' :: '-' :: long)
    (rest : List String)
    : valuesFor name (text :: rest) = valuesFor name rest := by
  rw [valuesFor]
  split
  · next short => exact absurd short (plain [])
  · next long _ same => exact absurd same (plain long)
  · rfl

theorem plain_of_letter {text : String} {letter : Char} {letters : List Char}
    (spelled : text.toList = '-' :: letter :: letters) (short : letter ≠ '-')
    : ∀ long, text.toList ≠ '-' :: '-' :: long := by
  intro long double
  rw [spelled] at double
  cases double
  exact short rfl

theorem plain_of_isValue {text : String} (isValue : isValue text = true)
    : ∀ long, text.toList ≠ '-' :: '-' :: long := by
  intro long spelled
  rw [CommandForm.isValue, Bool.or_eq_true, beq_iff_eq, bne_iff_ne] at isValue
  rcases isValue with rfl | other
  · exact absurd spelled (by simp)
  · exact other (by rw [spelled]; rfl)

/-- An option gives no value to another. -/
theorem valuesFor_other {text : String} {long : List Char} (spelled : text.toList = '-' :: '-' :: long)
    (more : long ≠ []) (other : (splitLong long).1 ≠ name) (rest : List String)
    : valuesFor name (text :: rest) = valuesFor name rest := by
  rw [valuesFor, spelled]
  split
  · next short => exact absurd (by simpa using short) more
  · next same =>
    cases same
    rw [if_neg other]
  · next apart => exact absurd rfl (apart long)

/-- The values of an option are those that are written for it, in their order; by induction on the
arguments.
-/
theorem read_values (takes : ∀ option ∈ form.options, option.name = name → option.kind ≠ .switch)
    (arguments : Arguments) (words : List String)
    : Yields (form.read arguments words) fun found =>
        found.valuesOf name = arguments.valuesOf name ++ valuesFor name words := by
  have named {other : String} {option : OptionForm}
      (known : form.options.find? (·.name == other) = some option)
      : option ∈ form.options ∧ option.name = other := by
    have same := List.find?_some known
    exact ⟨List.mem_of_find?_eq_some known, beq_iff_eq.mp same⟩
  fun_induction form.read arguments words with
  | case1 arguments => exact .pure (by simp [valuesFor])
  | case2 arguments text rest ends =>
      have same : Yields (rest.foldlM form.addOperand arguments) fun found =>
          found.valuesOf name = arguments.valuesOf name := by
        refine .foldlM rfl fun found same operand _ => ?_
        rw [← same]
        exact addOperand_values name found operand
      simpa [valuesFor, ends] using same
  | case3 | case4 | case5 | case9 | case10 => exact .error
  | case6 arguments text rest long more spelled other option known switch split help ih =>
      have apart : other ≠ name := by
        rintro rfl
        exact takes option (named known).1 (named known).2 switch
      refine .bind (addSwitch_values name arguments other) fun found same => ?_
      rw [valuesFor_other name spelled more (by rwa [split]), ← same]
      exact ih found
  | case7 arguments text rest long more spelled other option known value taking split help ih =>
      refine .bind (addValue_values name arguments option value) fun found same => ?_
      have values : valuesFor name (text :: rest)
          = (if option.name = name then [value] else []) ++ valuesFor name rest := by
        by_cases own : other = name <;> simp [valuesFor, spelled, split, own, (named known).2]
      rw [values, ← List.append_assoc, ← same]
      exact ih found
  | case8 arguments text long more spelled other option known value rest isValue taking split help ih =>
      refine .bind (addValue_values name arguments option value) fun found same => ?_
      -- The value of another option is no option itself, so it may be passed over by itself.
      have values : valuesFor name (text :: value :: rest)
          = (if option.name = name then [value] else []) ++ valuesFor name rest := by
        by_cases own : other = name
        · simp [valuesFor, spelled, split, own, (named known).2]
        · rw [(named known).2, if_neg own, List.nil_append,
            valuesFor_other name spelled more (by rwa [split]),
            valuesFor_plain name (plain_of_isValue isValue)]
      rw [values, ← List.append_assoc, ← same]
      exact ih found
  | case11 arguments text rest letter letters _ short spelled ih =>
      refine .bind (addLetters_values name arguments _) fun found same => ?_
      rw [valuesFor_plain name (plain_of_letter spelled short), ← same]
      exact ih found
  | case12 arguments text rest ends long letters ih =>
      refine .bind (addOperand_values name arguments text) fun found same => ?_
      rw [valuesFor_plain name long, ← same]
      exact ih found

theorem readAll_values (takes : ∀ option ∈ form.options, option.name = name → option.kind ≠ .switch)
    (words : List String)
    : Yields (form.readAll words) fun found => found.valuesOf name = valuesFor name words := by
  refine .bind (read_values name takes {} words) fun found values => ?_
  split
  · exact .pure values
  · exact .error

end CommandForm

namespace Invocation

/-- A command that is asked for has arguments that could be read. -/
theorem exists_of_ofCommand {form : CommandForm} {build : Arguments → Invocation}
    {words : List String} (asked : ofCommand form build words = .apply arguments)
    : ∃ found, form.readAll words = .ok found ∧ build found = .apply arguments := by
  unfold ofCommand at asked
  split at asked
  · next found all => exact ⟨found, all, asked⟩
  · next stop _ => cases stop <;> cases asked

/-- Only the command of that name applies a pipeline, with the assignments that are set among its
arguments; by cases on the name.
-/
theorem ofName_assignments {name : String} {words : List String}
    (asked : ofName name words = .apply arguments)
    : arguments.assignments = CommandForm.valuesFor "set" words := by
  unfold ofName at asked
  split at asked
  · obtain ⟨found, all, built⟩ := exists_of_ofCommand asked
    cases built
    exact CommandForm.readAll_values "set" (by decide) words found all
  · obtain ⟨found, -, built⟩ := exists_of_ofCommand asked
    cases built
  · obtain ⟨found, -, built⟩ := exists_of_ofCommand asked
    cases built
  · repeat' split at asked
    all_goals cases asked
  · cases asked

/-- The assignments of `apply` are those that are set on the command line, in their order; by induction on
what stands before the name of the command.
-/
theorem read_assignments {words : List String} (asked : read words = .apply arguments)
    : arguments.assignments = CommandForm.valuesFor "set" words := by
  unfold read at asked
  generalize false = verbose at asked
  fun_induction readFrom verbose words with
  | case1 | case2 | case3 | case4 | case6 => cases asked
  | case5 verbose rest first ih =>
      rw [ih asked]
      exact (CommandForm.valuesFor_other "set" rfl (by decide) (by decide) rest).symm
  | case7 verbose rest text _ _ _ letter letters short spelled told read ih =>
      rw [ih asked, CommandForm.valuesFor_plain "set" (CommandForm.plain_of_letter spelled short)]
  | case8 verbose rest text _ _ _ letter letters short spelled stop => cases stop <;> cases asked
  | case9 verbose rest text _ _ _ plain =>
      rw [ofName_assignments asked, CommandForm.valuesFor_plain "set" plain]

end Invocation

-----------------------------------------------------------------------------------------
-- Assignments laid over options
-----------------------------------------------------------------------------------------

/-- The value that the last of some assignments to a key gives it. -/
def lastAssigned (raws : List String) (key : String) : Option Datum :=
  (raws.filter fun raw => Assignment.keyOf raw = key).getLast?.map Assignment.valueOf

theorem lastAssigned_cons (raw : String) (rest : List String) (key : String)
    : lastAssigned (raw :: rest) key
      = (lastAssigned rest key).or
          (if Assignment.keyOf raw = key then some (Assignment.valueOf raw) else none) := by
  unfold lastAssigned
  rw [List.filter_cons]
  by_cases same : Assignment.keyOf raw = key
  · simp only [same, decide_true, if_true, List.getLast?_cons, Option.map_some]
    cases (rest.filter fun raw => Assignment.keyOf raw = key).getLast? <;> rfl
  · simp [same]

theorem lastAssigned_eq_none_iff {key : String}
    : lastAssigned raws key = none ↔ ∀ raw ∈ raws, Assignment.keyOf raw ≠ key := by
  simp [lastAssigned]

/-- Assignments can be laid over options exactly if all of them can be read; by induction on them. -/
theorem assignAll_ok_iff
    : (∃ result, assignAll options raws = .ok result)
      ↔ ∀ raw ∈ raws, ∃ assignment, Assignment.parse raw = .ok assignment := by
  induction raws generalizing options with
  | nil => simp [assignAll]
  | cons raw rest ih =>
      rw [List.forall_mem_cons]
      cases read : Assignment.parse raw with
      | error fault => simp [assignAll, read]
      | ok assignment => simp [assignAll, read, ih]

/-- Options with assignments laid over them are in order and have the value of the last assignment to a
key, else the value that they had; by induction on the assignments.
-/
theorem assignAll_get? (assigned : assignAll options raws = .ok result)
    (ordered : options.Pairwise (·.1 < ·.1))
    : result.Pairwise (·.1 < ·.1)
      ∧ ∀ key, result.get? key = (lastAssigned raws key).or (options.get? key) := by
  induction raws generalizing options with
  | nil =>
      cases assigned
      exact ⟨ordered, fun key => rfl⟩
  | cons raw rest ih =>
      rw [assignAll, Assignment.parse_eq] at assigned
      split at assigned
      · cases assigned
      · next assignment read =>
        split at read
        · cases read
        · cases read
          -- Later assignments see this one as a value that the options had before them.
          obtain ⟨within, values⟩ := ih assigned (Dictionary.pairwise_insert _ _ ordered)
          refine ⟨within, fun key => ?_⟩
          rw [values, Dictionary.get?_insert, lastAssigned_cons, Option.or_assoc]
          by_cases same : Assignment.keyOf raw = key <;> simp [same]

-----------------------------------------------------------------------------------------
-- The options of a plan
-----------------------------------------------------------------------------------------

/-- The value of an option in a run: that of the last assignment to it, else that of the settings, else
the default of the pipeline.
-/
def optionOf (raws : List String) (settings : Settings) (pipeline : Pipeline) (key : String)
    : Option Datum :=
  (lastAssigned raws key).or ((settings.options.get? key).or (pipeline.options.get? key))

theorem optionOf_eq_none_iff {settings : Settings} {pipeline : Pipeline} {key : String}
    : optionOf raws settings pipeline key = none
      ↔ (∀ raw ∈ raws, Assignment.keyOf raw ≠ key)
        ∧ settings.options.get? key = none
        ∧ pipeline.options.get? key = none := by
  rw [optionOf, Option.or_eq_none_iff, Option.or_eq_none_iff, lastAssigned_eq_none_iff]

/-- The options of a plan, of which the settings and the assignments are laid over the defaults. -/
theorem ApplyPlan.Takes.show {settings : Settings}
    (takes : plan.Takes arguments before settings options)
    : plan.options.Show (optionOf arguments.assignments settings plan.pipeline) := by
  have setup : plan.setup.options = options := congrArg RunSetup.options takes.setup
  obtain ⟨ordered, values⟩ :=
    assignAll_get? takes.assigns (Settings.load_ordered _ _ settings takes.loads)
  -- In entries out of order the last of a name would count for the layer, and the first for a lookup.
  have same : plan.options.get? = optionOf arguments.assignments settings plan.pipeline := by
    funext key
    rw [ApplyPlan.options, setup, Dictionary.get?_layer ordered, values, Option.or_assoc]
    rfl
  rw [← same]
  exact plan.options.show_get?

-----------------------------------------------------------------------------------------
-- Plans with assignments and without
-----------------------------------------------------------------------------------------

/-- An action goes through. -/
def CommandAction.Passes {α : Type} (action : CommandAction α) (before : Surroundings Outside)
    : Prop :=
  ∃ value after, action.run.run before = (.ok value, after)

/-- Sequences that differ in what comes later go through alike if that does. -/
theorem CommandAction.passes_bind_congr {α β : Type} {action : CommandAction α}
    {next other : α → CommandAction β}
    (same : ∀ value after, (next value).Passes after ↔ (other value).Passes after)
    : (action >>= next).Passes before ↔ (action >>= other).Passes before := by
  unfold Passes at same ⊢
  rw [run_bind, run_bind]
  rcases action.run.run before with ⟨fault | value, after⟩
  · simp
  · exact same value after

/-- Assignments that can all be read do not stand in the way of a plan; by going through what a plan asks
for, which is the same but for the options.
-/
theorem plan_passes_iff
    (read : ∀ raw ∈ arguments.assignments, ∃ assignment, Assignment.parse raw = .ok assignment)
    : (CommandLine.plan arguments).Passes before
      ↔ (CommandLine.plan { arguments with assignments := [] }).Passes before := by
  unfold CommandLine.plan
  refine CommandAction.passes_bind_congr fun files after => ?_
  refine CommandAction.passes_bind_congr fun pipeline after => ?_
  refine CommandAction.passes_bind_congr fun files after => ?_
  dsimp only
  split
  · exact iff_of_false (fun ⟨_, _, ran⟩ => by cases ran) fun ⟨_, _, ran⟩ => by cases ran
  · refine CommandAction.passes_bind_congr fun files after => ?_
    refine CommandAction.passes_bind_congr fun settings after => ?_
    obtain ⟨result, assigned⟩ : ∃ result, assignAll settings.options arguments.assignments = .ok result :=
      assignAll_ok_iff.mpr read
    have given (options : Options) : CommandAction.check (.ok options) = pure options := rfl
    simp only [assigned, assignAll, given, pure_bind]
    change _ ↔ (if makesCommits arguments settings = true then _ else _ : CommandAction _).Passes after
    cases makesCommits arguments settings with
    | true =>
        refine CommandAction.passes_bind_congr fun _ after => ?_
        refine CommandAction.passes_bind_congr fun files after => ?_
        refine CommandAction.passes_bind_congr fun state after => ?_
        exact iff_of_true ⟨_, _, rfl⟩ ⟨_, _, rfl⟩
    | false =>
        refine CommandAction.passes_bind_congr fun files after => ?_
        refine CommandAction.passes_bind_congr fun state after => ?_
        exact iff_of_true ⟨_, _, rfl⟩ ⟨_, _, rfl⟩

/-- A run is come to exactly if it can be planned and, unless nothing is to be changed, the state directory
can be made.
-/
theorem exists_starts_iff
    : (∃ plan start, ApplyPlan.Starts plan arguments before start)
      ↔ (CommandLine.plan arguments).Passes before
        ∧ (arguments.dryRun = true
          ∨ arguments.dryRun = false
            ∧ ∃ files,
              (StateDirectory.init arguments.target).run.run before.files
              = (.ok (StateDirectory.ofRoot arguments.target), files)) := by
  constructor
  · rintro ⟨plan, start, planned, -, ready⟩
    exact ⟨⟨plan, before, planned⟩,
      ready.imp And.left (And.imp_right fun ⟨files, made, _⟩ => ⟨files, made⟩)⟩
  · rintro ⟨⟨plan, after, ran⟩, ready⟩
    rcases plan_finds arguments before with ⟨fault, planned, -⟩ | ⟨plan, planned, fits, -⟩
    · cases ran.symm.trans planned
    · rcases ready with dry | ⟨wet, files, made⟩
      · exact ⟨plan, _, planned, fits, .inl ⟨dry, rfl⟩⟩
      · exact ⟨plan, _, planned, fits, .inr ⟨wet, files, made, rfl⟩⟩

theorem ApplyPlan.Starts.reads (starts : plan.Starts arguments before start)
    : ∀ raw ∈ arguments.assignments, ∃ assignment, Assignment.parse raw = .ok assignment := by
  rcases plan_finds arguments before with ⟨fault, planned, -⟩ | ⟨_, -, -, settings, options, takes⟩
  · cases planned.symm.trans starts.planned
  · exact assignAll_ok_iff.mp ⟨options, takes.assigns⟩

/-- Assignments stand in the way of a run exactly if one of them cannot be read. -/
theorem exists_starts_assigning_iff
    : (∃ plan start, ApplyPlan.Starts plan arguments before start)
      ↔ (∀ raw ∈ arguments.assignments, ∃ assignment, Assignment.parse raw = .ok assignment)
        ∧ ∃ plan start, ApplyPlan.Starts plan { arguments with assignments := [] } before start := by
  constructor
  · rintro ⟨plan, start, starts⟩
    refine ⟨starts.reads, ?_⟩
    rw [exists_starts_iff, ← plan_passes_iff starts.reads]
    exact exists_starts_iff.mp ⟨plan, start, starts⟩
  · rintro ⟨read, bare⟩
    rw [exists_starts_iff, plan_passes_iff read]
    exact exists_starts_iff.mp bare

-----------------------------------------------------------------------------------------
-- Which options a run has
-----------------------------------------------------------------------------------------

/-- What cannot be planned ends before anything is changed. -/
theorem Invocation.run_unplanned {fault : CommandFault}
    (planned : (CommandLine.plan arguments).run.run before = (.error fault, before))
    : (Invocation.apply arguments).run.run before = (endingOf (.error fault), before) := by
  have ran : (CommandLine.apply arguments).run.run before = (.error fault, before) := by
    rw [CommandLine.apply, run_bind, planned]
  exact Invocation.run_apply ran

/-- Which value options have when a pipeline is applied. The assignments are those that are set on the
command line. If one of them cannot be read, nothing is done, and else they do not stand in the way of a
run. It has for each key the value of the last assignment to it, or that of the settings, or the default of
the pipeline, and no other key has a value; and by these values go the guards of the steps and the
templates.
-/
theorem Invocation.apply_options (arguments : ApplyArguments) (before : Surroundings Outside)
    : (∀ words, Invocation.read words = .apply arguments →
        arguments.assignments = CommandForm.valuesFor "set" words)
      ∧ ((∃ raw ∈ arguments.assignments, ∃ fault, Assignment.parse raw = .error fault) →
          ∃ ending,
            (Invocation.apply arguments).run.run before = (ending, before)
            ∧ ending.code = invalidCode)
      ∧ ((∃ plan start, ApplyPlan.Starts plan arguments before start)
        ↔ (∀ raw ∈ arguments.assignments, ∃ assignment, Assignment.parse raw = .ok assignment)
          ∧ ∃ plan start, ApplyPlan.Starts plan { arguments with assignments := [] } before start)
      ∧ ∀ plan start, ApplyPlan.Starts plan arguments before start →
          ∃ settings,
            Settings.load before.files
                (arguments.settings.getD (StateDirectory.ofRoot arguments.target).settings)
              = .ok settings
            ∧ (plan.pipeline.run plan.setup).run.run start
              = (Pipeline.runSteps plan.setup plan.options plan.pipeline.steps).run.run start
            ∧ plan.options.Show (optionOf arguments.assignments settings plan.pipeline)
            ∧ (∀ key,
                plan.options.get? key = none
                ↔ (∀ raw ∈ arguments.assignments, Assignment.keyOf raw ≠ key)
                  ∧ settings.options.get? key = none
                  ∧ plan.pipeline.options.get? key = none)
            ∧ ∀ (step : Step) (scene : Scene Outside),
                (∃ after,
                  (step.run plan.setup plan.options).run.run scene = (.ok (.skipped .guard), after))
                ↔ step.name ∉ scene.state.completed
                  ∧ ∃ guard,
                    step.guard = some guard
                    ∧ guard.accepts (optionOf arguments.assignments settings plan.pipeline guard.key)
                      = false := by
  refine ⟨fun words asked => read_assignments asked, ?_, exists_starts_assigning_iff,
    fun plan start starts => ?_⟩
  · rintro ⟨raw, member, fault, unread⟩
    rcases plan_finds arguments before with
      ⟨fault, planned, early⟩ | ⟨plan, -, -, settings, options, takes⟩
    · exact ⟨_, Invocation.run_unplanned planned, early⟩
    · obtain ⟨assignment, read⟩ := assignAll_ok_iff.mp ⟨options, takes.assigns⟩ raw member
      cases unread.symm.trans read
  · rcases plan_finds arguments before with
      ⟨fault, planned, -⟩ | ⟨plan', planned, -, settings, options, takes⟩
    · cases planned.symm.trans starts.planned
    · cases planned.symm.trans starts.planned
      have shown := takes.show
      refine ⟨settings, takes.loads, Pipeline.run_eq plan.setup starts.fits.sound starts.own, shown,
        fun key => ?_, fun step scene => ?_⟩
      · rw [shown.values, optionOf_eq_none_iff]
      · rw [Step.run_skipped_iff, Step.skip?_guard_iff shown]

/-- A tree with a definition that has three defaults, of which the settings change two. -/
def layered : Surroundings Outside :=
  let text := "name='notes'\n[options]\ndepth=1\nmode='slow'\nkind='plain'\n[[steps]]\nname='a'\n" ++
    "mutations=[\x7bkind='write_new',dest='a',content='a'\x7d]\n"
  let files := (Files.empty.setNode ["notes.toml"] (.file text.toUTF8 false)).setNode ["config.toml"]
    (.file "[options]\ndepth=2\nmode='fast'\n".toUTF8 false)
  ⟨files, {}⟩

/-- Arguments that assign one of the options twice. -/
def layeredWords : List String :=
  ["apply", "notes.toml", ".", "--dry-run", "--config", "config.toml", "--set=depth=4", "--set",
    " depth =3"]

def layeredArguments : ApplyArguments :=
  { pipeline := ⟨"notes.toml", []⟩, target := ⟨".", []⟩, settings := some ⟨"config.toml", []⟩,
    dryRun := true, assignments := ["depth=4", " depth =3"] }

/-- The last assignment counts, then the settings, then the default; and an assignment without a key is
refused.
-/
theorem Invocation.apply_options_layered
    : Invocation.read layeredWords = .apply layeredArguments
      ∧ layeredArguments.assignments = CommandForm.valuesFor "set" layeredWords
      ∧ (∃ plan start,
        ApplyPlan.Starts plan layeredArguments layered start
        ∧ plan.options.get? "depth" = some (.int 3)
        ∧ (Guard.equals "mode" (.text "fast")).allows plan.options = true
        ∧ (Guard.equals "kind" (.text "plain")).allows plan.options = true
        ∧ plan.options.get? "other" = none)
      ∧ ∃ ending,
        (Invocation.apply { layeredArguments with assignments := ["=x"] }).run.run layered
          = (ending, layered)
        ∧ ending.code = 2 := by
  have asked : Invocation.read layeredWords = .apply layeredArguments := by decide +kernel
  have code : ((Invocation.apply layeredArguments).run.run layered).1.code = successCode := by
    decide +kernel
  have config : (Settings.load layered.files
      (layeredArguments.settings.getD (StateDirectory.ofRoot layeredArguments.target).settings)
      ).toOption.all fun settings =>
        (settings.options.get? "mode").any (·.same (.text "fast"))
        && (settings.options.get? "kind").isNone && (settings.options.get? "other").isNone := by
    decide +kernel
  have defaults : (Pipeline.load layered.files layeredArguments.pipeline).toOption.all fun pipeline =>
      (pipeline.options.get? "kind").any (·.same (.text "plain"))
      && (pipeline.options.get? "other").isNone := by
    decide +kernel
  have unassigned : ∀ key ∈ ["mode", "kind", "other"],
      ∀ raw ∈ layeredArguments.assignments, Assignment.keyOf raw ≠ key := by
    decide +kernel
  simp only [List.forall_mem_cons] at unassigned
  obtain ⟨mode, kind, other, -⟩ := unassigned
  rw [← lastAssigned_eq_none_iff] at mode kind
  refine ⟨asked, (Invocation.apply_options layeredArguments layered).1 layeredWords asked, ?_, ?_⟩
  · obtain ⟨result, after, ran, course⟩ := apply_course layeredArguments layered
    rw [Invocation.run_apply ran] at code
    cases course with
    | refused early => exact absurd (early.symm.trans code) (by decide)
    | @ran plan start outcome last starts run =>
        obtain ⟨settings, loads, -, shown, absent, -⟩ :=
          (Invocation.apply_options layeredArguments layered).2.2.2 plan start starts
        rw [loads] at config
        rw [starts.fits.loads] at defaults
        simp only [Except.toOption, Option.all_some, Bool.and_eq_true, Option.isNone_iff_eq_none]
          at config defaults
        obtain ⟨⟨fast, unset⟩, missing⟩ := config
        obtain ⟨plain, nowhere⟩ := defaults
        refine ⟨plan, start, starts, ?_, ?_, ?_, (absent "other").mpr ⟨other, missing, nowhere⟩⟩
        · rw [shown.values]
          rfl
        · rw [shown.guards, Guard.accepts, Guard.key, optionOf, mode]
          cases found : settings.options.get? "mode" with
          | none =>
              rw [found] at fast
              cases fast
          | some value =>
              rw [found] at fast
              exact fast
        · rw [shown.guards, Guard.accepts, Guard.key, optionOf, kind, unset]
          exact plain
  · have unread : ∃ fault, Assignment.parse "=x" = .error fault := ⟨_, rfl⟩
    exact (Invocation.apply_options _ layered).2.1 ⟨"=x", by simp, unread⟩

end CommandLine

end Groundwork
