import Groundwork.Git.Ignore

/-!
Attributes of paths. Of the lines that give a path an attribute the last one decides: those in
deeper directories come after those above them, and those of the repository after all of these.
-/

namespace Groundwork.Git

/-- The value of an attribute. -/
inductive AttributeValue where
  | on
  | off
  | unspecified
  | text (value : String)
deriving Repr, DecidableEq

/-- Attributes with their values, of which the first of a name holds. -/
abbrev Attributes := List (String × AttributeValue)

/-- A line of an attribute file. -/
structure AttributeRule where
  rule : PathRule
  values : Attributes
deriving Repr, DecidableEq

namespace Attributes

/-- The value of an attribute. -/
def value (attributes : Attributes) (name : String) : AttributeValue :=
  (attributes.lookup name).getD .unspecified

/-- Adds values of less weight. The attribute `binary` takes others with it. -/
def add (attributes : Attributes) : Attributes → Attributes
  | [] => attributes
  | (name, value) :: rest =>
      if attributes.any (·.1 == name) then attributes.add rest
      else if name == "binary" && value == .on then
        (attributes ++ [(name, value), ("text", .off), ("merge", .off), ("diff", .off)]).add rest
      else (attributes ++ [(name, value)]).add rest

end Attributes

namespace AttributeRule

def isBlank (b : UInt8) : Bool := b == 32 || b == 9 || b == 13 || b == 10

/-- The words of a line. -/
def words (line : List UInt8) : List (List UInt8) :=
  (line.foldr (fun b words =>
    if isBlank b then [] :: words
    else
      match words with
      | [] => [[b]]
      | word :: words => (b :: word) :: words) [[]]).filter (!·.isEmpty)

def textOf (bytes : List UInt8) : String :=
  String.ofList (bytes.map fun b => Char.ofNat b.toNat)

/-- Whether bytes are the name of an attribute. -/
def isName (name : List UInt8) : Bool :=
  !name.isEmpty && name.head? != some 45 &&
    name.all fun b => ByteClass.alnum.contains b || b == 45 || b == 46 || b == 95

/-- The attribute that a word gives, with its value. -/
def ofWord? (word : List UInt8) : Option (String × AttributeValue) :=
  let name := word.takeWhile (· != 61)
  let valid (name : List UInt8) (value : AttributeValue) : Option (String × AttributeValue) :=
    if isName name then some (textOf name, value) else none
  match word with
  | 45 :: _ => valid (name.drop 1) .off
  | 33 :: _ => valid (name.drop 1) .unspecified
  | _ =>
      if name.length == word.length then valid name .on
      else valid name (.text (textOf (word.drop (name.length + 1))))

/-- The rule of a line. Comments have none, and neither have patterns that take paths back. -/
def ofLine? (line : List UInt8) : Option AttributeRule :=
  match words line with
  | [] => none
  | pattern :: states => do
      if pattern.head? == some 35 || pattern.head? == some 33 then none
      else
        let values ← states.mapM ofWord?
        some ⟨.ofText pattern, values.reverse⟩

def ofContent (content : ByteArray) : List AttributeRule :=
  (byteRows (withoutMark content.data.toList)).filterMap ofLine?

end AttributeRule

/-- The name of attribute files. -/
def attributesName : String := ".gitattributes"

/-- The attributes of a file. The content of attribute files is looked up by their locations; what
lies in the repository's own directory is looked up in the tree. -/
def attributesOf (files : Files) (settings : Configuration) (top : Location)
    (contentAt : Location → Option ByteArray) (location : Location) : Attributes :=
  let fold := settings.boolean "core.ignorecase" false
  let rulesOf (content : Option ByteArray) : List AttributeRule :=
    (content.map AttributeRule.ofContent).getD []
  let own := (List.range location.length).flatMap fun depth =>
    (rulesOf (contentAt (location.take depth ++ [attributesName]))).map (location.drop depth, ·)
  let repository :=
    match files.node? (top ++ [directoryName, "info", "attributes"]) with
    | some (.file content _) => (rulesOf (some content)).map (location, ·)
    | _ => []
  let found := (own ++ repository).filter fun (place, rule) => rule.rule.applies fold place false
  found.reverse.foldl (fun attributes (_, rule) => attributes.add rule.values) []

end Groundwork.Git
