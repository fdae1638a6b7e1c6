/-!
Why a template cannot be read or rendered: a kind, and what is wrong in words.
-/

namespace Groundwork

/-- The kinds of faults of templates. -/
inductive TemplateFaultKind where
  | cannotUnpack
  | evalBlock
  | badEscape
  | badInclude
  | badSerialization
  | invalidOperation
  | missingArgument
  | nonKey
  | nonPrimitive
  | malformed
  | templateNotFound
  | tooManyArguments
  | undefined
  | unknownBlock
  | unknownFilter
  | unknownFunction
  | unknownMethod
  | unknownTest
deriving Repr, DecidableEq

namespace TemplateFaultKind

/-- What happened, in words. -/
def describe : TemplateFaultKind → String
  | .cannotUnpack => "cannot unpack"
  | .evalBlock => "could not render block"
  | .badEscape => "bad string escape"
  | .badInclude => "could not render include"
  | .badSerialization => "could not serialize to value"
  | .invalidOperation => "invalid operation"
  | .missingArgument => "missing argument"
  | .nonKey => "not a key type"
  | .nonPrimitive => "not a primitive"
  | .malformed => "syntax error"
  | .templateNotFound => "template not found"
  | .tooManyArguments => "too many arguments"
  | .undefined => "undefined value"
  | .unknownBlock => "unknown block"
  | .unknownFilter => "unknown filter"
  | .unknownFunction => "unknown function"
  | .unknownMethod => "unknown method"
  | .unknownTest => "unknown test"

end TemplateFaultKind

/-- Why a template cannot be read or rendered. -/
structure TemplateFault where
  kind : TemplateFaultKind
  detail : String
deriving Repr, DecidableEq

def TemplateFault.message (fault : TemplateFault) : String :=
  if fault.detail.isEmpty then fault.kind.describe else s!"{fault.kind.describe}: {fault.detail}"

namespace TemplateFault

def malformed {α : Type} (detail : String) : Except TemplateFault α := .error ⟨.malformed, detail⟩

def invalid {α : Type} (detail : String) : Except TemplateFault α :=
  .error ⟨.invalidOperation, detail⟩

def undefined {α : Type} : Except TemplateFault α := .error ⟨.undefined, ""⟩

end TemplateFault

end Groundwork
