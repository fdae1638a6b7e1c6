import Groundwork.Decode.Basic
import Groundwork.Pipeline.Basic

/-!
Decoding pipeline definitions. Steps and pipelines refuse fields they do not know; mutations and
anchors pass over them.
-/

namespace Groundwork.Decode

/-! ## Anchors -/

/-- A literal anchor, which may not be empty. -/
def literalAnchor (text : String) : Except DecodeFault Anchor :=
  if text.isEmpty then .error (.other "literal anchor must not be empty") else .ok (.literal text)

def patternAnchor (source : String) : Except DecodeFault Anchor :=
  match SearchPattern.parse source with
  | .ok pattern => .ok (.pattern pattern)
  | .error fault => .error (.other fault.message)

/-- An anchor: a text, or an object with a literal or a pattern, tried in this order. -/
def anchor : Datum → Except DecodeFault Anchor
  | .text s => literalAnchor s
  | .object fields =>
      match Dictionary.get? fields "literal", Dictionary.get? fields "pattern" with
      | some (.text s), _ => literalAnchor s
      | _, some (.text s) => patternAnchor s
      | _, _ => unmatched
  | _ => unmatched
where
  unmatched : Except DecodeFault Anchor :=
    .error (.other "data did not match any variant of untagged enum RawAnchor")

/-! ## Guards -/

def guardKinds : List String := ["enabled", "disabled", "equals"]

def equalsName : String := "struct variant Guard::Equals"

/-- The option and value of an `equals` guard. -/
def equalsGuard (format : DocumentFormat) (content : Datum) : Except DecodeFault Guard :=
  match content with
  | .object fields => do
      let extra := (fields.map (·.1)).filter (fun key => key != "key" && key != "value")
      if format == .toml && !extra.isEmpty then
        let names := ", ".intercalate extra
        throw (.other s!"unexpected keys in table: {names}, available keys: key, value")
      let key ← (Dictionary.get? fields "key").mapM (string format)
      let value ← (Dictionary.get? fields "value").mapM plain
      return .equals (← required "key" key) (← required "value" value)
  | .list items => do
      if format == .json then wrongKind format content "struct variant"
      let key ← items[0]?.mapM (string format)
      let key ← requiredItem 0 s!"{equalsName} with 2 elements" key
      let value ← items[1]?.mapM plain
      let value ← requiredItem 1 s!"{equalsName} with 2 elements" value
      return .equals key value
  | .moment _ => throw (.missingField "key")
  | _ =>
      match format with
      | .json => wrongKind format content "struct variant"
      | .toml => wrongKind format content equalsName

/-- A guard of a kind with its content. -/
def guardOfKind (format : DocumentFormat) (kind : String) (content : Datum)
    : Except DecodeFault Guard :=
  match kind with
  | "enabled" => (string format content).map .enabled
  | "disabled" => (string format content).map .disabled
  | "equals" => equalsGuard format content
  | _ => throw (.unknownVariant kind guardKinds)

/-- A guard: an object whose only field is its kind. -/
def guard (format : DocumentFormat) (found : Datum) : Except DecodeFault Guard :=
  match found with
  | .text kind =>
      if kind == "equals" then .error (.wrongKind "unit variant" "struct variant")
      else if guardKinds.contains kind then .error (.wrongKind "unit variant" "newtype variant")
      else .error (.unknownVariant kind guardKinds)
  | .object [(kind, content)] => guardOfKind format kind content
  | .object fields =>
      match format with
      | .json => .error (.wrongValue "map" "map with a single key")
      | .toml =>
          if fields.isEmpty then .error (.other "wanted exactly 1 element, found 0 elements")
          else .error (.other "wanted exactly 1 element, more than 1 element")
  | _ =>
      match format with
      | .json => wrongKind format found "string or map"
      | .toml => .error (.other "wanted string or table")

/-! ## Mutations -/

def mutationKinds : List String :=
  ["insert_after", "insert_before", "replace", "copy_template", "write_new"]

/-- The fields of a mutation that were found. -/
structure MutationFields where
  file : Option Path := none
  anchor : Option Anchor := none
  pattern : Option Anchor := none
  payload : Option String := none
  lenient : Option Bool := none
  render : Option Bool := none
  replacement : Option String := none
  firstOnly : Option Bool := none
  template : Option String := none
  dest : Option (Option Path) := none
  content : Option String := none

/-- The fields that a kind of mutation has, in the order in which a list gives them. -/
def mutationFields (kind : String) : List String :=
  match kind with
  | "insert_after" | "insert_before" => ["file", "anchor", "payload", "idempotent_safe", "render"]
  | "replace" => ["file", "pattern", "replacement", "first_only", "render"]
  | "copy_template" => ["template", "dest", "render"]
  | _ => ["dest", "content"]

/-- Takes in one field of a mutation. -/
def MutationFields.add (format : DocumentFormat) (kind : String) (fields : MutationFields)
    (name : String) (found : Datum) : Except DecodeFault MutationFields := do
  if !(mutationFields kind).contains name then return fields
  match name with
  | "file" => return { fields with file := ← path format found }
  | "anchor" => return { fields with anchor := ← Decode.anchor found }
  | "pattern" => return { fields with pattern := ← Decode.anchor found }
  | "payload" => return { fields with payload := ← string format found }
  | "idempotent_safe" => return { fields with lenient := ← bool format found }
  | "render" => return { fields with render := ← bool format found }
  | "replacement" => return { fields with replacement := ← string format found }
  | "first_only" => return { fields with firstOnly := ← bool format found }
  | "template" => return { fields with template := ← string format found }
  | "dest" =>
      if kind == "copy_template" then
        return { fields with dest := some (← option (path format) found) }
      else return { fields with dest := some (some (← path format found)) }
  | _ => return { fields with content := ← string format found }

/-- The mutation that the fields make up; `missing` tells of a required one that was not found. -/
def MutationFields.finish (kind : String) (fields : MutationFields)
    (missing : String → DecodeFault) : Except DecodeFault Mutation := do
  let need {α : Type} (name : String) (found : Option α) : Except DecodeFault α :=
    match found with
    | some a => .ok a
    | none => .error (missing name)
  let render := fields.render.getD false
  match kind with
  | "insert_after" =>
      return .insertAfter (← need "file" fields.file) (← need "anchor" fields.anchor)
        (← need "payload" fields.payload) (fields.lenient.getD false) render
  | "insert_before" =>
      return .insertBefore (← need "file" fields.file) (← need "anchor" fields.anchor)
        (← need "payload" fields.payload) (fields.lenient.getD false) render
  | "replace" =>
      return .replace (← need "file" fields.file) (← need "pattern" fields.pattern)
        (fields.replacement.getD "") (fields.firstOnly.getD false) render
  | "copy_template" =>
      return .copyTemplate (← need "template" fields.template) (fields.dest.getD none) render
  | _ =>
      match ← need "dest" fields.dest with
      | some dest => return .writeNew dest (← need "content" fields.content)
      | none => throw (missing "dest")

/-- The name of a kind of mutation in faults about its length. -/
def mutationTitle (kind : String) : String :=
  let names := [("insert_after", "InsertAfter"), ("insert_before", "InsertBefore"),
    ("replace", "Replace"), ("copy_template", "CopyTemplate"), ("write_new", "WriteNew")]
  let count := (mutationFields kind).length
  let plural := if count == 1 then "element" else "elements"
  s!"struct variant Mutation::{(Dictionary.get? names kind).getD kind} with {count} {plural}"

/-- The kind of a mutation. -/
def mutationKind (format : DocumentFormat) (found : Datum) : Except DecodeFault String := do
  let kind ← text format "variant identifier" found
  if mutationKinds.contains kind then return kind else throw (.unknownVariant kind mutationKinds)

/-- A mutation: an object with its kind among the fields, or a list that starts with it. The whole
is read as plain values before the fields are looked at. -/
def mutation (format : DocumentFormat) (found : Datum) : Except DecodeFault Mutation := do
  let _ ← plain found
  match found.opened with
  | .object fields => do
      let kind ← (Dictionary.get? fields "kind").mapM (mutationKind format)
      let kind ← required "kind" kind
      let taken ← fields.foldlM
        (fun taken field => MutationFields.add format kind taken field.1 field.2) {}
      taken.finish kind .missingField
  | .list items => do
      let kind ← items[0]?.mapM (mutationKind format)
      let kind ← required "kind" kind
      let rest := items.drop 1
      let names := mutationFields kind
      let taken ← (names.zip rest).foldlM
        (fun taken field => MutationFields.add format kind taken field.1 field.2) {}
      let made ← taken.finish kind fun name =>
        .wrongLength (names.idxOf name) (mutationTitle kind)
      if names.length < rest.length then
        let plural := if names.length == 1 then "element" else "elements"
        throw (.wrongLength rest.length s!"{names.length} {plural} in sequence")
      return made
  | _ => wrongKind format found "internally tagged enum Mutation"

/-! ## Steps and pipelines -/

def stepFields : List String := ["name", "mutations", "commands", "guard"]

/-- The fields of a step that were found. -/
structure StepFields where
  name : Option String := none
  mutations : List Mutation := []
  commands : List String := []
  guard : Option Guard := none

def StepFields.add (format : DocumentFormat) (fields : StepFields) (name : String) (found : Datum)
    : Except DecodeFault StepFields := do
  match name with
  | "name" => return { fields with name := ← string format found }
  | "mutations" => return { fields with mutations := ← list format (mutation format) found }
  | "commands" => return { fields with commands := ← list format (string format) found }
  | "guard" => return { fields with guard := ← option (Decode.guard format) found }
  | _ => throw (.unknownField name stepFields)

def step (format : DocumentFormat) (found : Datum) : Except DecodeFault Step :=
  match found.opened with
  | .object fields => do
      let taken ← fields.foldlM (fun taken field => taken.add format field.1 field.2)
        ({} : StepFields)
      return ⟨← required "name" taken.name, taken.mutations, taken.commands, taken.guard⟩
  | .list items => do
      let taken ← (stepFields.zip items).foldlM
        (fun taken field => taken.add format field.1 field.2) ({} : StepFields)
      let name ← requiredItem 0 "struct Step with 4 elements" taken.name
      noMoreItems format items.length 4
      return ⟨name, taken.mutations, taken.commands, taken.guard⟩
  | _ => wrongKind format found "struct Step"

def pipelineFields : List String := ["name", "templates", "options", "steps"]

/-- The fields of a pipeline that were found. -/
structure PipelineFields where
  name : Option String := none
  templates : Option Path := none
  options : Options := []
  steps : List Step := []

def PipelineFields.add (format : DocumentFormat) (fields : PipelineFields) (name : String)
    (found : Datum) : Except DecodeFault PipelineFields := do
  match name with
  | "name" => return { fields with name := ← string format found }
  | "templates" => return { fields with templates := ← option (path format) found }
  | "options" => return { fields with options := ← Decode.options format found }
  | "steps" => return { fields with steps := ← list format (step format) found }
  | _ => throw (.unknownField name pipelineFields)

def pipeline (format : DocumentFormat) (found : Datum) : Except DecodeFault Pipeline :=
  match found.opened with
  | .object fields => do
      let taken ← fields.foldlM (fun taken field => taken.add format field.1 field.2)
        ({} : PipelineFields)
      return ⟨← required "name" taken.name, taken.templates, taken.options, taken.steps⟩
  | .list items => do
      let taken ← (pipelineFields.zip items).foldlM
        (fun taken field => taken.add format field.1 field.2) ({} : PipelineFields)
      let name ← requiredItem 0 "struct Pipeline with 4 elements" taken.name
      noMoreItems format items.length 4
      return ⟨name, taken.templates, taken.options, taken.steps⟩
  | _ => wrongKind format found "struct Pipeline"

end Groundwork.Decode
