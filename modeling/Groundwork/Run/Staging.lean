import Groundwork.Pipeline.Basic
import Groundwork.Run.Scene
import Groundwork.Template.Basic

/-!
The changes of a step, worked out in memory. Each mutation sees what the ones before it made of its
file; the tree is only read.
-/

namespace Groundwork

namespace Step

variable {σ : Type}

/-- The text of a mutation, rendered with the options if it is a template. -/
def inlineText (step : Step) (options : Options) (name text : String) (isTemplate : Bool)
    : RunAction σ String :=
  if isTemplate then RunAction.check (.io step.name) (Template.renderText name text options)
  else pure text

/-- The edit that a mutation stands for. -/
def resolve (step : Step) (collaborators : Collaborators σ) (options : Options)
    : Mutation → RunAction σ Edit
  | .insertAfter _ anchor payload lenient isTemplate =>
      return .insert .after anchor (← step.inlineText options "payload" payload isTemplate) lenient
  | .insertBefore _ anchor payload lenient isTemplate =>
      return .insert .before anchor (← step.inlineText options "payload" payload isTemplate) lenient
  | .replace _ anchor replacement firstOnly isTemplate =>
      return .replace anchor (← step.inlineText options "replacement" replacement isTemplate)
        firstOnly
  | .copyTemplate name _ isTemplate => do
      let source ← RunAction.check (.io step.name) (← RunAction.template collaborators name)
      if isTemplate then
        return .write (← RunAction.check (.io step.name)
          (Template.renderBytes name source options))
      else return .write source
  | .writeNew _ content => return .write content.toUTF8

/-- Takes one mutation into a stage. -/
def stageMutation (step : Step) (collaborators : Collaborators σ) (options : Options)
    (stage : Stage) (mutation : Mutation) : RunAction σ Stage := do
  let edit ← step.resolve collaborators options mutation
  let scene ← getThe (Scene σ)
  let (current, stage) ← RunAction.check (.io step.name)
    (stage.load scene.workspace scene.files mutation.target)
  match edit.apply current with
  | .error fault => throw (.ofEdit step.name mutation.target fault)
  | .ok .unchanged => return stage
  | .ok (.changed content) =>
      RunAction.check (.io step.name) (stage.set mutation.target content)

/-- Takes all mutations of the step into a new stage. -/
def stageMutations (step : Step) (collaborators : Collaborators σ) (options : Options)
    : RunAction σ Stage :=
  step.mutations.foldlM (step.stageMutation collaborators options) {}

end Step

end Groundwork
