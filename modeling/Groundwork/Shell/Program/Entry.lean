import Groundwork.Shell.Expansion
import Groundwork.Shell.Program.Basic

/-!
What programs see of the tree: files, directories and links with their rights.
-/

namespace Groundwork.Shell.Program

/-- What lies at a location. -/
inductive Entry where
  | link (target : String)
  | node (node : FileNode)

/-- A path with a name after it. -/
def joinName (path name : String) : String :=
  if path.toList.getLast? == some '/' then path ++ name else s!"{path}/{name}"

namespace Entry

def isLink : Entry → Bool
  | .link _ => true
  | .node _ => false

def isDirectory : Entry → Bool
  | .node .directory => true
  | _ => false

/-- The content of a file. -/
def content : Entry → ByteArray
  | .node (.file content _) => content
  | _ => .empty

end Entry

end Program

namespace Machine

open Program

/-- What lies at a location, links included. -/
def entryAt? (machine : Machine) (location : Location) : Option Entry :=
  match machine.world.links.get? location with
  | some target => some (.link target)
  | none => (machine.world.files.node? location).map .node

/-- What a text leads to, with its location. With `follow` it is no link. -/
def entry (machine : Machine) (text : String) (follow : Bool)
    : Except FileFault (Location × Entry) :=
  match machine.link? text, follow with
  | some (location, target), false => .ok (location, .link target)
  | _, _ =>
      match machine.place text with
      | .ok (.taken location node) => .ok (location, .node node)
      | .ok (.free ..) => .error .notFound
      | .error fault => .error fault

/-- The names and entries right below a location, in order. -/
def entriesBelow (machine : Machine) (location : Location) : List (String × Entry) :=
  (machine.namesAt location).filterMap fun name =>
    (machine.entryAt? (location ++ [name])).map (name, ·)

/-- The rights of what lies at a location, as three digits to the base eight and one before. -/
def rightsOf (machine : Machine) (location : Location) (entry : Entry) : Nat :=
  match entry with
  | .link _ => 511
  | .node node =>
      match machine.world.rights.get? location with
      | some rights => rights
      | none =>
          if location == ["tmp"] then 1023
          else
            match node with
            | .directory => 493
            | .file _ executable => if executable then 493 else 420

/-- Whether a text leads to a directory. -/
def leadsToDirectory (machine : Machine) (text : String) : Bool :=
  match machine.entry text true with
  | .ok (_, entry) => entry.isDirectory
  | .error _ => false

/-- All locations below one, with their entries, those in a directory before the directory. Names
are joined to a path; `fuel` bounds the depth. -/
def tree (machine : Machine) (fuel : Nat) (path : String) (location : Location)
    : List (String × Location × Entry) :=
  match fuel with
  | 0 => []
  | fuel + 1 =>
      (machine.entriesBelow location).flatMap fun (name, entry) =>
        let below := location ++ [name]
        let own := (joinName path name, below, entry)
        if entry.isDirectory then machine.tree fuel (joinName path name) below ++ [own]
        else [own]

end Machine

namespace World

/-- The world with all removed that lies at a location or below it. -/
def drop (world : World) (top : Location) : World :=
  { world with
    files := world.files.dropTree top
    links := world.links.filter fun entry => !Files.isWithin top entry.1
    rights := world.rights.filter fun entry => !Files.isWithin top entry.1 }

/-- The world with an entry at a location. -/
def put (world : World) (location : Location) : Program.Entry → World
  | .link target => { world with links := world.links.insert location target }
  | .node node => { world with files := world.files.setNode location node }

/-- The world with what lies at a location and below it at another location as well. -/
def graft (world : World) (source target : Location) : World :=
  let moved (location : Location) : Location := target ++ location.drop source.length
  let within {α : Type} (entries : List (Location × α)) : List (Location × α) :=
    entries.filter fun entry => Files.isWithin source entry.1
  let files := (within world.files.nodes).foldl (fun (files : Files) (location, node) =>
    files.setNode (moved location) node) world.files
  { world with
    files
    links := (within world.links).foldl (fun links (location, target) =>
      links.insert (moved location) target) world.links
    rights := (within world.rights).foldl (fun rights (location, bits) =>
      rights.insert (moved location) bits) world.rights }

end World

namespace Program

/-- Changes the world. -/
def changeWorld (change : World → World) : Action Unit :=
  modifyThe Machine fun machine => { machine with world := change machine.world }

/-- The last name of a path. -/
def nameOfPath (text : String) : String :=
  let kept := (text.toList.reverse.dropWhile (· == '/')).reverse
  if kept.isEmpty then text else String.ofList (kept.reverse.takeWhile (· != '/')).reverse

/-- The paths up to a path, from its first segment on. -/
def pathsTo (text : String) : List String :=
  let segments := ((Text.splitOn '/' text.toList).map String.ofList).filter (!·.isEmpty)
  let lead := if text.toList.head? == some '/' then "/" else ""
  (List.range segments.length).map fun i => lead ++ "/".intercalate (segments.take (i + 1))

/-- Asks whether something is to be done. -/
def confirm (question : String) : Action Bool := do
  say 2 s!"{(← getThe Machine).program}: {question}? "
  let (line, _) ← readLineOf 0
  let answer := line.data.toList.head?
  return answer == some 121 || answer == some 89

/-- What kind of file lies at a location, in words. -/
def kindText (entry : Entry) : String :=
  match entry with
  | .link _ => "symbolic link"
  | .node .directory => "directory"
  | .node (.file content _) => if content.isEmpty then "regular empty file" else "regular file"

/-- Rights as letters. -/
def rightsLetters (rights : Nat) : String :=
  let triple (bits : Nat) (special : Bool) (mark : Char) : List Char :=
    [if bits / 4 % 2 == 1 then 'r' else '-', if bits / 2 % 2 == 1 then 'w' else '-',
      if special then if bits % 2 == 1 then mark else mark.toUpper
      else if bits % 2 == 1 then 'x' else '-']
  String.ofList (triple (rights / 64) (rights / 2048 % 2 == 1) 's' ++
    triple (rights / 8) (rights / 1024 % 2 == 1) 's' ++ triple rights (rights / 512 % 2 == 1) 't')

/-- A number to the base eight, with zeros up to a width. -/
def octalText (width number : Nat) : String :=
  let digits := Nat.toDigits 8 number
  String.ofList (List.replicate (width - digits.length) '0' ++ digits)

end Program

end Groundwork.Shell
