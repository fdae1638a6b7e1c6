import Groundwork.Failure
import Groundwork.Template.Evaluation
import Groundwork.Template.Reader
import Groundwork.Text.Utf8

/-!
Templates by name. A template is read, then rendered with options as its variables. Names with the
endings of markup files have what they print escaped.
-/

namespace Groundwork

/-- A template that was read. -/
structure Template where
  name : String
  size : Nat
  stmts : List Template.Stmt

namespace Template

/-- Endings of names that say nothing about the text. -/
def wrappingEndings : List String := [".j2", ".jinja2", ".jinja"]

/-- Endings of the names of markup files. -/
def markupEndings : List String := ["html", "htm", "xml"]

/-- The name without the first of some endings that it has. -/
def withoutEnding (name : List Char) (endings : List String) : List Char :=
  match endings.find? fun e => e.toList.isSuffixOf name with
  | some e => name.take (name.length - e.length)
  | none => name

/-- Whether a name is that of markup. -/
def isMarkup (name : String) : Bool :=
  let bare := withoutEnding name.toList wrappingEndings
  markupEndings.contains (String.ofList (bare.reverse.takeWhile (· != '.')).reverse)

def parse (name source : String) : Except TemplateFault Template :=
  (Reader.readTemplate source.toList).map fun stmts => ⟨name, source.length, stmts⟩

/-- How deep the evaluation of a template can go: its own depth at each level of frames. -/
def fuel (template : Template) : Nat := 4 * (template.size + 20) * (Run.depthLimit + 1)

/-- The setting of a template with options as its variables. -/
def setting (template : Template) (options : Options) : Setting :=
  let given : List (Value × Value) :=
    options.map fun option => (.ofText option.1, Value.ofDatum option.2)
  let (given, marks) := Value.markedEntries 0 given
  { name := template.name, stmts := template.stmts, blocks := blocksOf template.stmts
    markup := isMarkup template.name, marks
    bindings := (options.zip given).map fun (option, entry) => (option.1, entry.2) }

/-- The text of a template with options as its variables. -/
def render (template : Template) (options : Options) : Except TemplateFault String :=
  let setting := template.setting options
  match (executeAll template.fuel template.stmts setting).run (Machine.initial setting) with
  | .ok (_, machine) => .ok machine.output
  | .error fault => .error fault

/-- Reads and renders the text of a template. -/
def renderText (name source : String) (options : Options) : Except Failure String :=
  match parse name source with
  | .error fault => .error ⟨["parse template " ++ Text.quoted name], .template fault⟩
  | .ok template =>
      match template.render options with
      | .error fault => .error ⟨["render template " ++ Text.quoted name], .template fault⟩
      | .ok text => .ok text

/-- Reads and renders the bytes of a template, which must be text. -/
def renderBytes (name : String) (source : ByteArray) (options : Options)
    : Except Failure ByteArray :=
  match String.fromUTF8? source with
  | some text => (renderText name text options).map String.toUTF8
  | none =>
      let fault := (Text.utf8Fault? source).elim "" Text.Utf8Fault.message
      .error ⟨["template " ++ Text.quoted name ++ " is not valid UTF-8"], .message fault⟩

end Template

end Groundwork
