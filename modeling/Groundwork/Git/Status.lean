import Groundwork.Failure
import Groundwork.Git.Move
import Groundwork.Text.Search

/-!
Changes of a work tree: what is staged, what is not, and files that are not tracked. Each change is
written on a line, and read back from lines as a code and a path.
-/

namespace Groundwork.Git

/-- A change of a path: how the index differs from the newest commit, how the work tree differs from
the index, and the path that a moved file had before. -/
structure Change where
  staged : Char
  unstaged : Char
  path : String
  source : Option String := none
deriving Repr, DecidableEq

/-! ## Paths -/

/-- The escapes of bytes that have one of their own. -/
def shortEscapes : List (UInt8 × Char) :=
  [(7, 'a'), (8, 'b'), (9, 't'), (10, 'n'), (11, 'v'), (12, 'f'), (13, 'r'), (34, '"'), (92, '\\')]

/-- A byte as three octal digits. -/
def octalEscape (b : UInt8) : List Char :=
  ['\\', Nat.digitChar (b.toNat / 64), Nat.digitChar (b.toNat / 8 % 8), Nat.digitChar (b.toNat % 8)]

/-- A byte that has to be escaped, or nothing if it has not. With `all` this is so for every byte
beyond the first 127. -/
def byteEscape? (all : Bool) (b : UInt8) : Option (List Char) :=
  match shortEscapes.find? (·.1 == b) with
  | some (_, c) => some ['\\', c]
  | none => if b < 32 || b == 127 || (all && 128 ≤ b) then some (octalEscape b) else none

/-- A character of a path, escaped where need be. -/
def escapedChar (all : Bool) (c : Char) : List Char :=
  let bytes := (String.singleton c).toUTF8.data.toList
  if bytes.any (fun b => (byteEscape? all b).isSome) then
    bytes.flatMap fun b => (byteEscape? all b).getD [Char.ofNat b.toNat]
  else [c]

/-- A path in quotes, if it has something to escape. -/
def shownName (all : Bool) (path : String) : String :=
  let escaped := path.toList.flatMap (escapedChar all)
  if escaped == path.toList then path else String.ofList ('"' :: escaped ++ ['"'])

/-- A path as status lines show it: in quotes, if it has spaces or something to escape. -/
def shownPath (all : Bool) (path : String) : String :=
  let shown := shownName all path
  if shown == path && path.toList.contains ' ' then "\"" ++ path ++ "\"" else shown

/-! ## Lines -/

namespace Change

/-- What stands before the path on a line. -/
def code (change : Change) : String := String.ofList [change.staged, change.unstaged]

/-- The line of a change. -/
def line (change : Change) (all : Bool) : String :=
  match change.source with
  | none => s!"{change.code} {shownPath all change.path}"
  | some source => s!"{change.code} {shownPath all source} -> {shownPath all change.path}"

end Change

/-- A code and a path, as read from a line. -/
structure StatusEntry where
  code : String
  path : String
deriving Repr, DecidableEq

namespace StatusEntry

/-- The code of files that are not tracked. -/
def untracked : List Char := ['?', '?']

/-- What stands between the two paths of a moved file. -/
def arrow : List Char := ['-', '>']

/-- Reads a line; of two paths the second is kept. -/
def ofLine (line : List Char) : Except Failure StatusEntry :=
  if (untracked ++ [' ']).isPrefixOf line then
    .ok ⟨String.ofList untracked, String.ofList (Text.trim (line.drop 3))⟩
  else if Text.byteLength line < 4 then
    .error (.ofMessage s!"unexpected porcelain line: '{String.ofList line}'")
  else
    let path := Text.trim (line.drop 3)
    let path :=
      match Text.find? arrow path with
      | some start => Text.trim (path.drop (start + arrow.length))
      | none => path
    .ok ⟨String.ofList (line.take 2), String.ofList path⟩

/-- Reads the lines of a status, of which blank ones are passed over. -/
def ofText (text : String) : Except Failure (List StatusEntry) :=
  ((Text.lines text.toList).filter fun line => !(Text.trim line).isEmpty).mapM ofLine

/-- The entries whose paths begin with none of some texts. -/
def outside (entries : List StatusEntry) (prefixes : List String) : List StatusEntry :=
  entries.filter fun entry => !prefixes.any fun start => start.toList.isPrefixOf entry.path.toList

/-- Refuses entries outside the paths that are let pass. -/
def checkClean (entries : List StatusEntry) (prefixes : List String) : Except Failure Unit :=
  match outside entries prefixes with
  | [] => .ok ()
  | disallowed =>
      let lines := disallowed.map fun entry => s!"{entry.code} {entry.path}"
      .error (.ofMessage (String.ofList (Text.trimEnd
        ("working tree not clean (disallowed changes):\n" ++ "\n".intercalate lines).toList)))

end StatusEntry

/-! ## Changes of a repository -/

namespace Repository

/-- Whether paths are shown with escapes for all that is not plain. -/
def escapesAll (repository : Repository) : Bool := repository.settings.boolean "core.quotepath" true

/-- How two versions of a file differ. -/
def changeCode (before after : Option Blob) : Char :=
  match before, after with
  | none, some _ => 'A'
  | some _, none => 'D'
  | some before, some after => if before == after then ' ' else 'M'
  | none, none => ' '

/-- How the index differs from the newest commit at a path. -/
def stagedCode (repository : Repository) (path : String) : Char :=
  changeCode (Dictionary.get? repository.head path) (Dictionary.get? repository.staged path)

/-- How the work tree differs from the index at a path. -/
def unstagedCode (repository : Repository) (files : Files) (top : Location) (tree : Snapshot)
    (path : String) : Char :=
  match Dictionary.get? repository.index path, Dictionary.get? tree path with
  | some _, none => 'D'
  | some entry, some file =>
      if repository.isModified files top path entry file then 'M' else ' '
  | none, _ => ' '

/-- The code of a move: a copy, if its source is still there or is moved to a later path too. -/
def moveCode (after : Snapshot) (moves : List Move) (move : Move) : Char :=
  let copied := Dictionary.contains after move.source || moves.any fun other =>
    other.source == move.source && move.target < other.target
  if copied then 'C' else 'R'

/-- The changes of tracked files in the order of their paths. -/
def trackedChanges (repository : Repository) (files : Files) (top : Location) (tree : Snapshot)
    : List Change :=
  let moves := movesBetween repository.settings repository.head repository.staged
  let paths := (Dictionary.layer repository.head repository.staged).map (·.1)
  paths.filterMap fun path =>
    let unstaged := repository.unstagedCode files top tree path
    match moves.find? (·.target == path) with
    | some move =>
        some ⟨moveCode repository.staged moves move, unstaged, path, some move.source⟩
    | none =>
        let code := repository.stagedCode path
        let staged := if code == 'D' && moves.any (·.source == path) then ' ' else code
        if staged == ' ' && unstaged == ' ' then none else some ⟨staged, unstaged, path, none⟩

/-- The changes of a work tree: those of tracked files, then the files that are not tracked. -/
def changes (repository : Repository) (files : Files) (top : Location) : List Change :=
  let tree := repository.workTree files top
  let untracked := tree.filter fun entry => !Dictionary.contains repository.index entry.1
  repository.trackedChanges files top tree ++
    untracked.map fun entry => ⟨'?', '?', entry.1, none⟩

/-- The paths that the next commit would change, as lines. -/
def stagedText (repository : Repository) : String :=
  let paths := (Dictionary.layer repository.head repository.staged).map (·.1)
  String.join ((paths.filter (repository.stagedCode · != ' ')).map fun path =>
    shownName repository.escapesAll path ++ "\n")

/-- Whether the next commit would change something, as far as the lines show a path. -/
def hasStaged (repository : Repository) : Bool :=
  !(Text.trim repository.stagedText.toList).isEmpty

/-- The lines of a status. -/
def statusText (repository : Repository) (files : Files) (top : Location) : String :=
  String.join ((repository.changes files top).map fun change =>
    change.line repository.escapesAll ++ "\n")

end Repository

end Groundwork.Git
