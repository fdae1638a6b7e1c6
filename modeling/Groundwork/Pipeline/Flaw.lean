import Groundwork.Pipeline.Basic

/-!
Flaws of pipeline definitions: what is wrong with a definition before any step has run.
-/

namespace Groundwork

/-- A step as messages name it: by its name, or by its number if the name is blank. -/
inductive StepLabel where
  | named (name : String)
  | numbered (number : Nat)
deriving Repr, DecidableEq

def StepLabel.toString : StepLabel → String
  | .named name => s!"step {Text.quoted name}"
  | .numbered number => s!"step #{number}"

instance : ToString StepLabel := ⟨StepLabel.toString⟩

/-- What can be wrong with one mutation. -/
inductive MutationFlaw where
  | target (fault : Path.Fault)
  | emptyPayload
  | template (fault : Path.Fault)
deriving Repr, DecidableEq

def MutationFlaw.message : MutationFlaw → String
  | .target fault => fault.message
  | .emptyPayload => "payload must not be empty"
  | .template fault => s!"template {fault.message}"

/-- What can be wrong with a definition. -/
inductive Flaw where
  | blankPipelineName
  | noSteps
  | blankStepName (number : Nat)
  | duplicateStepName (name : String)
  | idleStep (label : StepLabel)
  | emptyCommand (label : StepLabel) (number : Nat)
  | blankGuardKey (label : StepLabel)
  | mutation (label : StepLabel) (number : Nat) (kind : String) (flaw : MutationFlaw)
deriving Repr, DecidableEq

def Flaw.message : Flaw → String
  | .blankPipelineName => "pipeline name must not be empty"
  | .noSteps => "pipeline must contain at least one step"
  | .blankStepName number => s!"step #{number}: name must not be empty"
  | .duplicateStepName name => s!"duplicate step name {Text.quoted name}"
  | .idleStep label => s!"{label}: declares no mutations and no commands"
  | .emptyCommand label number => s!"{label}: command #{number} is empty"
  | .blankGuardKey label => s!"{label}: guard option key must not be empty"
  | .mutation label number kind flaw => s!"{label} mutation #{number} ({kind}): {flaw.message}"

/-- The flaws of a mutation, in the order in which they are reported. -/
def Mutation.flaws (mutation : Mutation) : List MutationFlaw :=
  (mutation.target.fault?.map .target).toList ++
    (match mutation with
      | .insertAfter _ _ payload .. | .insertBefore _ _ payload .. =>
          if payload.isEmpty then [.emptyPayload] else []
      | .copyTemplate template (some _) _ =>
          ((Path.ofString template).fault?.map .template).toList
      | _ => [])

/-- The label of a step with its number. -/
def Step.label (step : Step) (number : Nat) : StepLabel :=
  if Text.isBlankText step.name then .numbered number else .named step.name

/-- The flaws of a step apart from those of its name. -/
def Step.flaws (step : Step) (label : StepLabel) : List Flaw :=
  (if step.mutations.isEmpty && step.commands.isEmpty then [.idleStep label] else []) ++
    step.commands.zipIdx.flatMap (fun (command, i) =>
      if Text.isBlankText command then [.emptyCommand label (i + 1)] else []) ++
    (match step.guard with
      | some guard => if Text.isBlankText guard.key then [.blankGuardKey label] else []
      | none => []) ++
    step.mutations.zipIdx.flatMap (fun (mutation, i) =>
      mutation.flaws.map (.mutation label (i + 1) mutation.kind))

/-- The flaws of steps, of which `number` and the names `seen` came before. -/
def stepFlaws (seen : List String) (number : Nat) : List Step → List Flaw
  | [] => []
  | step :: steps =>
      let nameFlaws :=
        if Text.isBlankText step.name then [.blankStepName (number + 1)]
        else if seen.contains step.name then [.duplicateStepName step.name]
        else []
      nameFlaws ++ step.flaws (step.label (number + 1)) ++
        stepFlaws (step.name :: seen) (number + 1) steps

/-- All flaws of a definition. -/
def Pipeline.flaws (pipeline : Pipeline) : List Flaw :=
  (if Text.isBlankText pipeline.name then [.blankPipelineName] else []) ++
    (if pipeline.steps.isEmpty then [.noSteps] else []) ++
    stepFlaws [] 0 pipeline.steps

end Groundwork
