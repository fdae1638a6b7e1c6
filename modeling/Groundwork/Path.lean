/-!
Paths of files as they are written: segments between slashes. Two paths are the same if they have
the same components, which leaves out repeated slashes and most segments of a single dot.
-/

namespace Groundwork

/-- A path: the segments between its slashes, of which there is at least one. -/
structure Path where
  head : String
  tail : List String
deriving Repr, DecidableEq, Inhabited

/-- A part of a path that counts. A dot counts only at the start of a relative path. -/
inductive PathComponent where
  | root
  | here
  | up
  | name (text : String)
deriving Repr, DecidableEq

namespace PathComponent

/-- The place of a component in the order of components. -/
def rank : PathComponent → Nat
  | .root => 0
  | .here => 1
  | .up => 2
  | .name _ => 3

/-- What a component is called. -/
def text : PathComponent → String
  | .root => "/"
  | .here => "."
  | .up => ".."
  | .name segment => segment

instance : LT PathComponent := ⟨fun a b => a.rank < b.rank ∨ (a.rank = b.rank ∧ a.text < b.text)⟩

instance : DecidableLT PathComponent := fun a b =>
  inferInstanceAs (Decidable (a.rank < b.rank ∨ (a.rank = b.rank ∧ a.text < b.text)))

end PathComponent

namespace Path

/-- The text before the first slash, and the texts after each slash. -/
def splitSlashes : List Char → List Char × List (List Char)
  | [] => ([], [])
  | c :: rest =>
      let (head, tail) := splitSlashes rest
      if c == '/' then ([], head :: tail) else (c :: head, tail)

/-- The path that a text spells. -/
def ofString (text : String) : Path :=
  let (head, tail) := splitSlashes text.toList
  ⟨String.ofList head, tail.map String.ofList⟩

/-- The text of a path. -/
def toString (path : Path) : String := "/".intercalate (path.head :: path.tail)

instance : ToString Path := ⟨toString⟩

/-- Whether the path starts at the root. -/
def isAbsolute (path : Path) : Bool := path.head.isEmpty && !path.tail.isEmpty

def isEmpty (path : Path) : Bool := path.head.isEmpty && path.tail.isEmpty

/-- Segments after the first that name nothing. -/
def isIdle (segment : String) : Bool := segment.isEmpty || segment == "."

/-- The component of a segment that is not idle. -/
def component (segment : String) : PathComponent :=
  if segment == ".." then .up else .name segment

/-- The components of the first segment. -/
def headComponents (path : Path) : List PathComponent :=
  if path.head.isEmpty then if path.tail.isEmpty then [] else [.root]
  else if path.head == "." then [.here]
  else [component path.head]

/-- What the path names, part by part. -/
def components (path : Path) : List PathComponent :=
  path.headComponents ++ (path.tail.filter (fun s => !isIdle s)).map component

/-- The second path seen from the first; an absolute one stands for itself. -/
def join (base path : Path) : Path :=
  if path.isAbsolute then path
  else if base.isEmpty then path
  else
    let before := if base.tail.getLast? == some "" then base.tail.dropLast else base.tail
    ⟨base.head, before ++ path.head :: path.tail⟩

/-- Drops idle segments at the end. -/
def dropIdle (tail : List String) : List String := (tail.reverse.dropWhile isIdle).reverse

/-- The path without its last component; the root has no parent, and neither has the empty path. -/
def parent? (path : Path) : Option Path :=
  let tail := dropIdle path.tail
  if tail.isEmpty then if path.head.isEmpty then none else some ⟨"", []⟩
  else
    let before := dropIdle tail.dropLast
    if before.isEmpty && path.head.isEmpty then some ⟨"", [""]⟩ else some ⟨path.head, before⟩

/-- The last component, if it is a name. -/
def fileName? (path : Path) : Option String :=
  match path.components.getLast? with
  | some (.name name) => some name
  | _ => none

/-- The path with another last name. -/
def withFileName (path : Path) (name : String) : Path :=
  match path.fileName?, path.parent? with
  | some _, some parent => parent.join (ofString name)
  | _, _ => path.join (ofString name)

/-- A file name up to its last dot; a dot at the start does not count. -/
def stem (name : String) : String :=
  let reversed := name.toList.reverse
  let before := (reversed.dropWhile (· != '.')).drop 1
  if before.isEmpty then name else String.ofList before.reverse

/-- The path with another extension after the last dot of its name. -/
def withExtension (path : Path) (ext : String) : Path :=
  match path.fileName? with
  | none => path
  | some name =>
      let renamed := stem name ++ "." ++ ext
      let tail := dropIdle path.tail
      if tail.isEmpty then ⟨renamed, []⟩ else ⟨path.head, tail.dropLast ++ [renamed]⟩

/-- Why a path may not name a file of a target directory. -/
inductive Fault where
  | empty
  | escapes (path : Path)
  | absolute (path : Path)
deriving Repr, DecidableEq

def Fault.message : Fault → String
  | .empty => "path must not be empty"
  | .escapes path => s!"path {path} must not contain '..'"
  | .absolute path => s!"path {path} must be relative"

/-- The first component that a path below a directory may not have. -/
def firstFault (path : Path) : List PathComponent → Option Fault
  | [] => none
  | .up :: _ => some (.escapes path)
  | .root :: _ => some (.absolute path)
  | _ :: rest => firstFault path rest

/-- What keeps a path from naming a file below a directory, if anything does. -/
def fault? (path : Path) : Option Fault :=
  if path.isEmpty then some .empty else firstFault path path.components

end Path

end Groundwork
