import Groundwork.Anchor
import Groundwork.Datum
import Groundwork.Path

/-!
Pipelines: ordered steps that change the files of a target directory. A step has mutations of
files, commands that run after them, and a guard: a condition on the options of a run.
-/

namespace Groundwork

/-- A condition on one option. -/
inductive Guard where
  /-- The option is there and truthy. -/
  | enabled (key : String)
  /-- The option is missing or not truthy. -/
  | disabled (key : String)
  | equals (key : String) (value : Datum)

namespace Guard

/-- The option that the guard looks at. -/
def key : Guard → String
  | .enabled key | .disabled key | .equals key _ => key

/-- Whether a step with this guard runs. -/
def allows (guard : Guard) (options : Options) : Bool :=
  match guard with
  | .enabled key => (options.get? key).any Datum.isTruthy
  | .disabled key => !(options.get? key).any Datum.isTruthy
  | .equals key value => (options.get? key).any (fun found => found.same value)

end Guard

/-- One change of a file, as a definition declares it. With `render` its text is a template. -/
inductive Mutation where
  | insertAfter (file : Path) (anchor : Anchor) (payload : String) (lenient render : Bool)
  | insertBefore (file : Path) (anchor : Anchor) (payload : String) (lenient render : Bool)
  | replace (file : Path) (anchor : Anchor) (replacement : String) (firstOnly render : Bool)
  /-- Copies a template to a file, which has the template's name if no other is given. -/
  | copyTemplate (template : String) (dest : Option Path) (render : Bool)
  | writeNew (dest : Path) (content : String)

namespace Mutation

/-- The file that the mutation reads and writes. -/
def target : Mutation → Path
  | .insertAfter file .. | .insertBefore file .. | .replace file .. => file
  | .copyTemplate template dest _ => dest.getD (Path.ofString template)
  | .writeNew dest _ => dest

/-- What the mutation looks for in its file. -/
def anchor? : Mutation → Option Anchor
  | .insertAfter _ anchor .. | .insertBefore _ anchor .. | .replace _ anchor .. => some anchor
  | .copyTemplate .. | .writeNew .. => none

/-- The name of this kind of mutation in definitions. -/
def kind : Mutation → String
  | .insertAfter .. => "insert_after"
  | .insertBefore .. => "insert_before"
  | .replace .. => "replace"
  | .copyTemplate .. => "copy_template"
  | .writeNew .. => "write_new"

end Mutation

/-- A step: what is done and recorded as one. -/
structure Step where
  name : String
  mutations : List Mutation := []
  commands : List String := []
  guard : Option Guard := none

/-- A pipeline. Its options are defaults that a run may override. -/
structure Pipeline where
  name : String
  templates : Option Path := none
  options : Options := []
  steps : List Step := []

namespace Pipeline

/-- The first step of a name. -/
def step? (pipeline : Pipeline) (name : String) : Option Step :=
  pipeline.steps.find? (fun step => step.name == name)

/-- The directory of a pipeline's templates; a relative one lies beside the pipeline's file. -/
def templatesDir? (pipeline : Pipeline) (file : Path) : Option Path :=
  pipeline.templates.map fun dir =>
    if dir.isAbsolute then dir else (file.parent?.getD (Path.ofString ".")).join dir

end Pipeline

end Groundwork
