import Groundwork.Files.Basic
import Groundwork.Git.Configuration
import Groundwork.Git.PathPattern

/-!
Ignore rules of a work tree. Of the rules that match a path the last one decides: rules in deeper
directories come after those above them, and these after the rules of the repository and those of
its user. What lies in an ignored directory is ignored.
-/

namespace Groundwork.Git

/-- The bytes of a text. -/
def bytesOf (text : String) : List UInt8 := text.toUTF8.data.toList

/-- What a line of rules says about paths before it says what it wants of them. -/
structure PathRule where
  directoriesOnly : Bool
  /-- The rule is about whole paths, not only about their last names. -/
  wholePath : Bool
  pattern : List UInt8
deriving Repr, DecidableEq

namespace PathRule

/-- The rule that a text spells. -/
def ofText (text : List UInt8) : PathRule :=
  let directoriesOnly := text.getLast? == some 47
  let text := if directoriesOnly then text.dropLast else text
  let wholePath := text.contains 47
  ⟨directoriesOnly, wholePath, if wholePath && text.head? == some 47 then text.drop 1 else text⟩

/-- Whether the rule is about a path, given from the rule's directory. -/
def applies (rule : PathRule) (fold : Bool) (location : Location) (isDirectory : Bool) : Bool :=
  (isDirectory || !rule.directoriesOnly) &&
    (if rule.wholePath then
      PathPattern.matchesPath fold rule.pattern (bytesOf ("/".intercalate location))
    else PathPattern.matchesName fold rule.pattern (bytesOf (location.getLast?.getD "")))

end PathRule

/-- A line of an ignore file. -/
structure IgnoreRule where
  /-- The rule takes paths back in. -/
  negated : Bool
  rule : PathRule
deriving Repr, DecidableEq

/-- Bytes in lines without the newlines that end them. -/
def byteRows (bytes : List UInt8) : List (List UInt8) :=
  bytes.foldr (fun b rows =>
    if b == 10 then [] :: rows
    else
      match rows with
      | [] => [[b]]
      | row :: rows => (b :: row) :: rows) [[]]

/-- Content without the mark of its encoding. -/
def withoutMark : List UInt8 → List UInt8
  | 0xEF :: 0xBB :: 0xBF :: rest => rest
  | bytes => bytes

namespace IgnoreRule

/-- A line without the spaces at its end, as far as they are not escaped. A backslash at the end
keeps those before it. -/
def withoutSpaces : List UInt8 → List UInt8
  | [] => []
  | [92] => [92]
  | 92 :: b :: rest => 92 :: b :: withoutSpaces rest
  | 32 :: rest => if rest.all (· == 32) then [] else 32 :: withoutSpaces rest
  | b :: rest => b :: withoutSpaces rest

/-- The rule of a line; empty lines and comments have none. -/
def ofLine? (line : List UInt8) : Option IgnoreRule :=
  if line.isEmpty || line.head? == some 35 then none
  else
    let line := if line.getLast? == some 13 then line.dropLast else line
    match withoutSpaces (line.takeWhile (· != 0)) with
    | 33 :: rest => some ⟨true, .ofText rest⟩
    | line => some ⟨false, .ofText line⟩

/-- The rules of an ignore file. -/
def ofContent (content : ByteArray) : List IgnoreRule :=
  (byteRows (withoutMark content.data.toList)).filterMap ofLine?

/-- The rules of the file at a location, if there is one. -/
def ofFile (files : Files) (location : Location) : List IgnoreRule :=
  match files.node? location with
  | some (.file content _) => ofContent content
  | _ => []

end IgnoreRule

/-- The name of ignore files. -/
def ignoreName : String := ".gitignore"

/-- The name of the directory that makes a work tree of the one it lies in. -/
def directoryName : String := ".git"

/-- The rules that hold in a whole work tree: those of its user, then those of the repository. -/
def sharedRules (files : Files) (settings : Configuration) (top : Location) : List IgnoreRule :=
  let ofUser :=
    match settings.lookup "core.excludesfile" with
    | none => []
    | some path =>
        match ({ files with base := top } : Files).read (Path.ofString path) with
        | .ok content => IgnoreRule.ofContent content
        | .error _ => []
  ofUser ++ IgnoreRule.ofFile files (top ++ [directoryName, "info", "exclude"])

/-- Whether one path is ignored, those above it not being: `depth` directories from `top` down to
it have rules. -/
def isIgnoredAt (files : Files) (settings : Configuration) (top location : Location)
    (isDirectory : Bool) : Bool :=
  let fold := settings.boolean "core.ignorecase" false
  let shared := (sharedRules files settings top).map (location, ·)
  let own := (List.range location.length).flatMap fun depth =>
    (IgnoreRule.ofFile files (top ++ location.take depth ++ [ignoreName])).map
      (location.drop depth, ·)
  let decisions := ((shared ++ own).filter fun (place, rule) =>
    rule.rule.applies fold place isDirectory).map fun (_, rule) => !rule.negated
  decisions.getLast?.getD false

/-- Whether a file below `top` is ignored, or a directory that it lies in. -/
def isIgnored (files : Files) (settings : Configuration) (top location : Location) : Bool :=
  (List.range location.length).any fun depth =>
    isIgnoredAt files settings top (location.take (depth + 1)) (depth + 1 < location.length)

end Groundwork.Git
