import Groundwork.Failure
import Groundwork.Files.Basic

/-!
Where the templates of a pipeline come from.
-/

namespace Groundwork

/-- The templates of a pipeline: the files of a directory, some that are given, or none. -/
inductive TemplateSource where
  | none
  | directory (root : Path)
  | given (templates : Dictionary String ByteArray)
deriving BEq

namespace TemplateSource

/-- The bytes of a template. -/
def resolve (source : TemplateSource) (files : Files) (name : String)
    : Except Failure ByteArray :=
  match source with
  | .none =>
      .error (.ofMessage
        s!"template {Text.quoted name} requested but the pipeline declares no template directory")
  | .given templates =>
      match templates.get? name with
      | some content => .ok content
      | Option.none => .error (.ofMessage s!"unknown template {Text.quoted name}")
  | .directory root =>
      match (Path.ofString name).fault? with
      | some fault => .error (.ofMessage s!"template {Text.quoted name}: {fault.message}")
      | Option.none =>
          let path := root.join (Path.ofString name)
          match files.read path with
          | .ok content => .ok content
          | .error fault => .error (.ofFiles fault s!"read template {path}")

end TemplateSource

end Groundwork
