import Groundwork.Decode.Pipeline
import Groundwork.RunFault
import Groundwork.Toml.Reader

/-!
Pipeline definitions as TOML documents. A definition is used only if nothing is wrong with it.
-/

namespace Groundwork

namespace Toml

/-- Reads a document and decodes it. -/
def decode {α : Type} (decoder : Datum → Except DecodeFault α) (text : String)
    : Except TomlFault α :=
  match parse text with
  | .error (.malformed detail) => .error (.malformed detail)
  | .error .longKey => .error .longKey
  | .ok document =>
      match decoder document with
      | .ok value => .ok value
      | .error fault => .error (.value fault (hasPlainNumbers document))

end Toml

namespace Pipeline

/-- The pipeline that a document defines, if the definition has no flaws. -/
def parse (text : String) : Except RunFault Pipeline :=
  match Toml.decode (Decode.pipeline .toml) text with
  | .error fault => .error (.malformed [.unreadable fault])
  | .ok pipeline =>
      match pipeline.flaws with
      | [] => .ok pipeline
      | flaws => .error (.malformed (flaws.map .flaw))

/-- Reads the definition in a file. -/
def load (files : Files) (path : Path) : Except RunFault Pipeline :=
  match files.readText path with
  | .error fault => .error (.malformed [.unreachable path fault])
  | .ok text => parse text

end Pipeline

end Groundwork
