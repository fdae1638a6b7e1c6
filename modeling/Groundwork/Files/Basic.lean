import Groundwork.Dictionary
import Groundwork.Path

/-!
Trees of files and directories, and what can be done with them. A failed operation leaves the tree
as it was.
-/

namespace Groundwork

/-- The names on the way from the top of a tree to one of its nodes. -/
abbrev Location := List String

/-- What is found at a location. A file may be one that can be run as a program. -/
inductive FileNode where
  | file (content : ByteArray) (executable : Bool)
  | directory
deriving BEq

/-- Why an operation on files fails. -/
inductive FileFault where
  | notFound
  | busy
  | exists
  | notDirectory
  | isDirectory
  | nameTooLong
  | notEmpty
  | denied
  /-- Links lead to one another without an end. -/
  | loop
  | nulInName
  | notUtf8
deriving Repr, DecidableEq

def FileFault.message : FileFault → String
  | .notFound => "No such file or directory (os error 2)"
  | .busy => "Device or resource busy (os error 16)"
  | .exists => "File exists (os error 17)"
  | .notDirectory => "Not a directory (os error 20)"
  | .isDirectory => "Is a directory (os error 21)"
  | .nameTooLong => "File name too long (os error 36)"
  | .notEmpty => "Directory not empty (os error 39)"
  | .denied => "Permission denied (os error 13)"
  | .loop => "Too many levels of symbolic links (os error 40)"
  | .nulInName => "file name contained an unexpected NUL byte"
  | .notUtf8 => "stream did not contain valid UTF-8"

/-- A tree by the locations of its nodes, and the location from which relative paths start. -/
structure Files where
  nodes : Dictionary Location FileNode
  base : Location

/-- Where a path leads: to a node, or to a name that is free in a directory. A path to a free name
may end in a slash, as only directories do. -/
inductive Place where
  | taken (location : Location) (node : FileNode)
  | free (parent : Location) (name : String) (slash : Bool)

namespace Files

/-- A tree without files. -/
def empty : Files := ⟨[], []⟩

/-- The node at a location; the top is always a directory. -/
def node? (files : Files) (location : Location) : Option FileNode :=
  if location.isEmpty then some .directory else files.nodes.get? location

def setNode (files : Files) (location : Location) (node : FileNode) : Files :=
  { files with nodes := files.nodes.insert location node }

def dropNode (files : Files) (location : Location) : Files :=
  { files with nodes := files.nodes.erase location }

/-- The longest name, and the longest path with the mark that ends it, in bytes. -/
def nameLimit : Nat := 255

def pathLimit : Nat := 4096

/-- Follows the segments of a path from a location. -/
def walk (files : Files) : Location → List String → Except FileFault Place
  | location, [] =>
      match files.node? location with
      | some node => .ok (.taken location node)
      | none => .error .notFound
  | location, segment :: rest =>
      match files.node? location with
      | none => .error .notFound
      | some (.file ..) => .error .notDirectory
      | some .directory =>
          if Path.isIdle segment then files.walk location rest
          else if segment == ".." then files.walk location.dropLast rest
          else if nameLimit < segment.utf8ByteSize then .error .nameTooLong
          else if (files.node? (location ++ [segment])).isSome then
            files.walk (location ++ [segment]) rest
          else if rest.all String.isEmpty then .ok (.free location segment !rest.isEmpty)
          else .error .notFound

/-- Where a path leads. -/
def place (files : Files) (path : Path) : Except FileFault Place :=
  let segments := path.head :: path.tail
  if segments.any (fun s => s.toList.any (fun c => c.toNat == 0)) then .error .nulInName
  else if path.isEmpty then .error .notFound
  else if pathLimit ≤ path.toString.utf8ByteSize then .error .nameTooLong
  else if path.isAbsolute then files.walk [] path.tail
  else files.walk files.base segments

/-- Whether a path leads to a node. -/
def exists? (files : Files) (path : Path) : Bool :=
  match files.place path with
  | .ok (.taken ..) => true
  | _ => false

def isDirectory (files : Files) (path : Path) : Bool :=
  match files.place path with
  | .ok (.taken _ .directory) => true
  | _ => false

/-- The content of a file. -/
def read (files : Files) (path : Path) : Except FileFault ByteArray := do
  match ← files.place path with
  | .taken _ (.file content _) => .ok content
  | .taken _ .directory => .error .isDirectory
  | .free .. => .error .notFound

/-- The content of a file that is a text. -/
def readText (files : Files) (path : Path) : Except FileFault String := do
  match String.fromUTF8? (← files.read path) with
  | some text => .ok text
  | none => .error .notUtf8

/-- Writes a file, which may be there already. -/
def write (files : Files) (path : Path) (content : ByteArray) : Except FileFault Files := do
  match ← files.place path with
  | .taken location (.file _ executable) =>
      .ok (files.setNode location (.file content executable))
  | .taken _ .directory => .error .isDirectory
  | .free parent name slash =>
      if slash then .error .isDirectory
      else .ok (files.setNode (parent ++ [name]) (.file content false))

/-- Sets whether a file can be run as a program; of directories nothing is kept. -/
def setExecutable (files : Files) (path : Path) (executable : Bool) : Except FileFault Files := do
  match ← files.place path with
  | .taken location (.file content _) => .ok (files.setNode location (.file content executable))
  | .taken _ .directory => .ok files
  | .free .. => .error .notFound

/-- Whether a path leads to a file that can be run as a program. -/
def isExecutable (files : Files) (path : Path) : Bool :=
  match files.place path with
  | .ok (.taken _ (.file _ executable)) => executable
  | _ => false

/-- Makes one directory. -/
def makeDirectory (files : Files) (path : Path) : Except FileFault Files := do
  match ← files.place path with
  | .taken .. => .error .exists
  | .free parent name _ => .ok (files.setNode (parent ++ [name]) .directory)

/-- Removes one file. -/
def removeFile (files : Files) (path : Path) : Except FileFault Files := do
  match ← files.place path with
  | .taken location (.file ..) => .ok (files.dropNode location)
  | .taken _ .directory => .error .isDirectory
  | .free .. => .error .notFound

/-- Whether a path ends in a dot or two, whatever slashes follow. -/
def endsInDots (path : Path) : Bool :=
  match (path.head :: path.tail).reverse.dropWhile String.isEmpty with
  | segment :: _ => segment == "." || segment == ".."
  | [] => path.isAbsolute

/-- Moves a file to another path, in place of a file that is there. -/
def rename (files : Files) (source target : Path) : Except FileFault Files := do
  match ← files.place source with
  | .taken origin (.file content executable) =>
      match ← files.place target with
      | .taken location (.file ..) =>
          .ok ((files.dropNode origin).setNode location (.file content executable))
      | .taken _ .directory =>
          if endsInDots target then .error .busy else .error .isDirectory
      | .free parent name slash =>
          if slash then .error .notDirectory
          else .ok ((files.dropNode origin).setNode (parent ++ [name]) (.file content executable))
  | .taken _ .directory => .error .isDirectory
  | .free .. => .error .notFound

/-- Makes a directory and those above it that are missing; `fuel` bounds how many. The directories
made before a failure stay. -/
def makeDirectoriesFrom (files : Files) : Nat → Path → Files × Except FileFault Unit
  | 0, _ => (files, .error .notFound)
  | fuel + 1, path =>
      if path.components.isEmpty then (files, .ok ())
      else
        match files.makeDirectory path with
        | .ok made => (made, .ok ())
        | .error .notFound =>
            match path.parent? with
            | none => (files, .error .notFound)
            | some parent =>
                match files.makeDirectoriesFrom fuel parent with
                | (above, .error fault) => (above, .error fault)
                | (above, .ok ()) =>
                    match above.makeDirectory path with
                    | .ok made => (made, .ok ())
                    | .error fault =>
                        if above.isDirectory path then (above, .ok ()) else (above, .error fault)
        | .error fault =>
            if files.isDirectory path then (files, .ok ()) else (files, .error fault)

/-- Makes a directory and those above it that are missing. -/
def makeDirectories (files : Files) (path : Path) : Files × Except FileFault Unit :=
  files.makeDirectoriesFrom (path.tail.length + 2) path

/-- Whether a location is another or lies below it. -/
def isWithin (top location : Location) : Bool := top.isPrefixOf location

/-- The nodes at a location and below it removed. -/
def dropTree (files : Files) (top : Location) : Files :=
  { files with nodes := files.nodes.filter (fun entry => !isWithin top entry.1) }

/-- Removes a file, or a directory with all that lies below it. -/
def removeTree (files : Files) (path : Path) : Except FileFault Files := do
  match ← files.place path with
  | .taken location _ => .ok (files.dropTree location)
  | .free .. => .error .notFound

/-- The nodes below a location, by their paths from there. -/
def below (files : Files) (top : Location) : List (Location × FileNode) :=
  files.nodes.filterMap fun (location, node) =>
    if isWithin top location && top.length < location.length then
      some (location.drop top.length, node)
    else none

/-- The names right below a location, in order. -/
def entries (files : Files) (top : Location) : List (String × FileNode) :=
  (files.below top).filterMap fun (location, node) =>
    match location with
    | [name] => some (name, node)
    | _ => none

end Files

end Groundwork
