import Groundwork.Decode.Basic
import Groundwork.Files.Basic
import Groundwork.Json.Lexeme
import Groundwork.Template.Fault

/-!
Failures of helpers: a cause, and what was being done when it arose, outermost first.
-/

namespace Groundwork

/-- Why a TOML document does not give what is asked for. A document that could be read has faults
in its values; `sound` tells whether it could be read as a table of plain values. -/
inductive TomlFault where
  | malformed (detail : String)
  /-- A key has too many parts. -/
  | longKey
  | value (fault : DecodeFault) (sound : Bool)
deriving Repr, DecidableEq

def TomlFault.message : TomlFault → String
  | .malformed detail => s!"TOML parse error: {detail}"
  | .longKey => "recursion limit\n"
  | .value fault _ => s!"TOML parse error: {fault.message}"

/-- The first cause of a failure. -/
inductive Cause where
  | message (text : String)
  | files (fault : FileFault)
  | json (fault : Json.Fault)
  | toml (fault : TomlFault)
  | template (fault : TemplateFault)
deriving Repr, DecidableEq

def Cause.text : Cause → String
  | .message text => text
  | .files fault => fault.message
  | .json fault => fault.detail
  | .toml fault => fault.message
  | .template fault => fault.message

/-- A failure: what was being done, outermost first, and the cause. -/
structure Failure where
  contexts : List String
  cause : Cause
deriving Repr, DecidableEq

namespace Failure

def ofMessage (text : String) : Failure := ⟨[], .message text⟩

/-- The messages from the outermost to the cause, on one line. -/
def message (failure : Failure) : String :=
  ": ".intercalate (failure.contexts ++ [failure.cause.text])

/-- The failure within something that was being done. -/
def within (failure : Failure) (context : String) : Failure :=
  { failure with contexts := context :: failure.contexts }

/-- A failed operation on files, while something was being done. -/
def ofFiles (fault : FileFault) (context : String) : Failure := ⟨[context], .files fault⟩

end Failure

end Groundwork
