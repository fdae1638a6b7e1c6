import Groundwork.Git.LineEnds
import Groundwork.Git.Message
import Groundwork.Text.Utf8

/-!
Repositories: commits, newest first, and the index that the next commit takes its tree from. A
repository is there as long as its own directory lies in the work tree.
-/

namespace Groundwork.Git

/-- What is kept of a file. -/
structure Blob where
  content : ByteArray
  executable : Bool := false
deriving BEq

/-- The files of a tree by their paths. -/
abbrev Snapshot := Dictionary String Blob

/-- What the index holds of a file: what is kept of it, and the size of the file from which this was
taken. -/
structure IndexEntry where
  kept : Blob
  size : Nat

structure Commit where
  message : String
  encoding : Encoding
  tree : Snapshot

/-- The subject of a commit, shown in an encoding. -/
def Commit.subject (commit : Commit) (shown : Encoding) : String :=
  Text.decodeLossy (commit.encoding.change shown (Message.subject commit.message))

/-- A repository. -/
structure Repository where
  settings : Configuration := .new
  commits : List Commit := []
  index : Dictionary String IndexEntry := []

/-- Repositories by the tops of their work trees. -/
abbrev Repositories := Dictionary Location Repository

/-- The locations from one up to the root. -/
def ancestors (location : Location) : List Location :=
  (List.range (location.length + 1)).reverse.map location.take

/-- What makes a directory a repository's own, by location. -/
def ownNodes : List (Location × FileNode) :=
  [([], .directory), (["HEAD"], .file "ref: refs/heads/master\n".toUTF8 false),
    (["objects"], .directory), (["refs"], .directory)]

/-- Whether a directory has what makes it a repository's own. -/
def isRepository (files : Files) (location : Location) : Bool :=
  ownNodes.all fun (below, node) =>
    match files.node? (location ++ below), node with
    | some .directory, .directory => true
    | some (.file ..), .file .. => true
    | _, _ => false

/-- What is wrong with a file that stands for a repository's own directory. -/
inductive LinkFault where
  | badFormat (location : Location)
  | noPath (location : Location)
  | leadsNowhere (path : Path)
deriving Repr, DecidableEq

/-- What a file that stands for a repository's own directory begins with. -/
def linkStart : List Char := "gitdir: ".toList

/-- What is wrong with such a file; none that is right is known. -/
def linkFault (location : Location) (content : ByteArray) : LinkFault :=
  let text := (Text.decodeLossy content).toList
  if !linkStart.isPrefixOf text then .badFormat location
  else
    let path := (text.drop linkStart.length).reverse.dropWhile fun c => c == '\n' || c == '\r'
    if path.isEmpty then .noPath location
    else
      let parent := Path.ofString ("/" ++ "/".intercalate location.dropLast)
      .leadsNowhere (parent.join (Path.ofString (String.ofList path.reverse)))

/-- The work tree that a directory lies in. -/
def Repositories.find? (repositories : Repositories) (files : Files) (location : Location)
    : Except LinkFault (Option (Location × Repository)) :=
  (ancestors location).foldlM (fun found top =>
    match found, files.node? (top ++ [directoryName]) with
    | some found, _ => .ok (some found)
    | none, some (.file content _) => .error (linkFault (top ++ [directoryName]) content)
    | none, some .directory =>
        if isRepository files (top ++ [directoryName]) then
          .ok ((Dictionary.get? repositories top).map (top, ·))
        else .ok none
    | none, none => .ok none) none

/-- The path of a location below the top of a work tree. -/
def pathText (location : Location) : String := "/".intercalate location

/-- Whether a name may not be given to what a repository keeps: it could be taken for the name of
the repository's own directory. -/
def isReserved (name : String) : Bool :=
  let text := name.toLower.toList
  [".git", "git~1"].any fun reserved =>
    reserved.toList.isPrefixOf text &&
      (match (text.drop reserved.length).dropWhile (fun c => c == '.' || c == ' ') with
        | [] => true
        | c :: _ => c == '\\' || c == ':')

/-- Why a work tree cannot be taken into the index. -/
inductive AddFault where
  | invalidPath (path : String)
  | returnsLost (path : String)
  | newlinesLost (path : String)
deriving Repr, DecidableEq

namespace Repository

/-- The tree of the newest commit. -/
def head (repository : Repository) : Snapshot :=
  (repository.commits.head?.map (·.tree)).getD []

/-- What is kept of the files in the index. -/
def staged (repository : Repository) : Snapshot :=
  repository.index.map fun (path, entry) => (path, entry.kept)

/-- Whether a path belongs to a work tree: it does unless it leads through a repository's own
directory. -/
def isOwn (location : Location) : Bool := !location.contains directoryName

/-- The files of a work tree that are in the index or not ignored. -/
def workTree (repository : Repository) (files : Files) (top : Location) : Snapshot :=
  Dictionary.ofList ((files.below top).filterMap fun (location, node) =>
    match node with
    | .directory => none
    | .file content executable =>
        let path := pathText location
        if isOwn location && (Dictionary.contains repository.index path ||
          !isIgnored files repository.settings top location) then some (path, ⟨content, executable⟩)
        else none)

/-- The content of an attribute file: that of the work tree, or else that in the index. -/
def attributeContent? (repository : Repository) (files : Files) (top location : Location)
    : Option ByteArray :=
  match files.node? (top ++ location) with
  | some (.file content _) => some content
  | _ => (Dictionary.get? repository.index (pathText location)).map (·.kept.content)

/-- What would be kept of a file of the work tree. -/
def keep (repository : Repository) (files : Files) (top : Location) (path : String)
    (content : ByteArray) : LineEnds.Kept :=
  let location := path.splitOn "/"
  let attributes := attributesOf files repository.settings top
    (repository.attributeContent? files top) location
  LineEnds.keep (LineEnds.of? repository.settings attributes)
    ((Dictionary.get? repository.index path).map (·.kept.content)) content

/-- Whether the modes of files count. -/
def heedsModes (repository : Repository) : Bool := repository.settings.boolean "core.filemode" true

/-- Whether a file of the work tree is not as the index has it. It is as long as it has the size of
the file that was taken and the same would be kept of it; an empty file tells nothing by its
size. -/
def isModified (repository : Repository) (files : Files) (top : Location) (path : String)
    (entry : IndexEntry) (file : Blob) : Bool :=
  if repository.heedsModes && entry.kept.executable != file.executable then true
  else if entry.size != 0 && entry.size != file.content.size then true
  else (repository.keep files top path file.content).bytes != entry.kept.content

/-- Takes one file into the index. -/
def addFile (repository : Repository) (files : Files) (top : Location)
    (index : Dictionary String IndexEntry) (path : String) (file : Blob)
    : Except AddFault (Dictionary String IndexEntry) := do
  let before := Dictionary.get? repository.index path
  if (path.splitOn "/").any isReserved then throw (.invalidPath path)
  let kept := repository.keep files top path file.content
  if repository.settings.word? "core.safecrlf" != some "warn" &&
      repository.settings.boolean "core.safecrlf" false then
    if kept.losesReturns then throw (.returnsLost path)
    if kept.losesNewlines then throw (.newlinesLost path)
  let executable :=
    if repository.heedsModes then file.executable
    else (before.map (·.kept.executable)).getD false
  return Dictionary.insert index path ⟨⟨kept.bytes, executable⟩, file.content.size⟩

/-- Takes the whole work tree into the index, files that it has already first. -/
def add (repository : Repository) (files : Files) (top : Location)
    : Except AddFault Repository := do
  let (known, fresh) := (repository.workTree files top).partition fun (path, _) =>
    Dictionary.contains repository.index path
  let index ← (known ++ fresh).foldlM
    (fun index (path, file) => repository.addFile files top index path file) []
  return { repository with index }

/-- Records the index with a message. -/
def commit (repository : Repository) (message : String) : Repository :=
  { repository with commits :=
      ⟨message, .ofKept repository.settings, repository.staged⟩ :: repository.commits }

end Repository

end Groundwork.Git
