import Groundwork.Git.Similarity

/-!
Files that were moved or copied. A removed and an added file are one that was moved if enough of
their content is the same: the same content first, then files of the same name, then those most
alike. Where copies count, a file that was changed may be the source of an added one too.
-/

namespace Groundwork.Git

/-- Which changes are looked for. -/
inductive MoveSearch where
  | none
  | moves
  | copies
deriving Repr, DecidableEq

namespace MoveSearch

def ofWord? (word : String) : Option MoveSearch :=
  if word == "copies" || word == "copy" then some .copies
  else (Setting.boolean? word).map fun found => if found then .moves else .none

/-- What settings look for in a status. -/
def ofSettings (settings : Configuration) : MoveSearch :=
  let word? (key : String) : Option MoveSearch := (settings.word? key).bind ofWord?
  ((word? "status.renames").orElse fun _ => word? "diff.renames").getD .moves

end MoveSearch

/-- A file of a tree. -/
abbrev Entry := String × Blob

/-- The last name of a path. -/
def baseName (path : String) : String := (Path.ofString path).tail.getLast?.getD path

/-- A file that an added one may come from. -/
structure Source where
  path : String
  file : Blob
  /-- The file was removed. -/
  removed : Bool

/-- A file that was added, and where it comes from. -/
structure Move where
  source : String
  target : String
deriving Repr, DecidableEq

/-- A search for moves. -/
structure MoveTable where
  copies : Bool
  sources : List Source
  targets : List Entry
  moves : List Move := []

namespace MoveTable

/-- How often a file is used: one that is still there uses itself. -/
def uses (table : MoveTable) (source : Source) : Nat :=
  (table.moves.filter (·.source == source.path)).length + (if source.removed then 0 else 1)

/-- The sources that are not used. -/
def freeSources (table : MoveTable) : List Source :=
  table.sources.filter fun source => table.uses source == 0

def freeTargets (table : MoveTable) : List Entry :=
  table.targets.filter fun target => !table.moves.any (·.target == target.1)

def push (table : MoveTable) (source target : String) : MoveTable :=
  { table with moves := table.moves ++ [⟨source, target⟩] }

/-- The value that comes first among the greatest. -/
def firstGreatest? {α : Type} (score : α → Nat) (items : List α) : Option α :=
  items.foldl (fun best item =>
    match best with
    | some found => if score found < score item then some item else best
    | none => some item) none

/-- Takes in the moves of files whose content stayed the same; one that is not used goes first, and
so does one of the same name. -/
def addExact (table : MoveTable) : MoveTable :=
  table.targets.foldl (fun table target =>
    let same := table.sources.filter fun source =>
      source.file.content == target.2.content && (table.copies || table.uses source == 0)
    let score (source : Source) : Nat :=
      (if table.uses source == 0 then 1 else 0) +
        (if baseName source.path == baseName target.1 then 1 else 0)
    match firstGreatest? score same with
    | some source => table.push source.path target.1
    | none => table) table

/-- The least score of a moved file that is chosen by its name. -/
def leastNamedScore : Nat := 45000

/-- The only one of some items with a name. -/
def only? {α : Type} (path : α → String) (name : String) (items : List α) : Option α :=
  match items.filter fun item => baseName (path item) == name with
  | [item] => some item
  | _ => none

/-- Takes in the moves of files that kept a name no other file has. -/
def addNamed (table : MoveTable) : MoveTable :=
  let sources := table.freeSources
  let targets := table.freeTargets
  sources.foldl (fun table source =>
    let name := baseName source.path
    match only? Source.path name sources, only? Prod.fst name targets with
    | some _, some target =>
        if leastNamedScore ≤ similarity source.file.content target.2.content then
          table.push source.path target.1
        else table
    | _, _ => table) table

/-- A possible move with its score and whether the name stays the same. -/
structure Candidate where
  move : Move
  score : Nat
  sameName : Bool

/-- Whether a candidate goes before another. -/
def Candidate.leads (a b : Candidate) : Bool :=
  b.score < a.score || (a.score == b.score && a.sameName && !b.sameName)

/-- How many sources are considered for a target. -/
def candidateLimit : Nat := 4

/-- The place of the first candidate that all others lead or are equal to. -/
def worstPlace (candidates : List Candidate) : Nat :=
  ((candidates.zipIdx).foldl (fun worst (candidate, i) =>
    match worst with
    | some (other, _) => if Candidate.leads other candidate then some (candidate, i) else worst
    | none => some (candidate, i)) none).elim 0 (·.2)

/-- Takes in a candidate, in place of the worst one if there are enough already. -/
def considered (candidates : List Candidate) (candidate : Candidate) : List Candidate :=
  if candidates.length < candidateLimit then candidates ++ [candidate]
  else
    let i := worstPlace candidates
    match candidates[i]? with
    | some worst => if candidate.leads worst then candidates.set i candidate else candidates
    | none => candidates

/-- Takes in the candidates that are left, in order, of sources that are not used, or with `again`
of all. -/
def addCandidates (again : Bool) (candidates : List Candidate) (table : MoveTable) : MoveTable :=
  candidates.foldl (fun table candidate =>
    let used := table.sources.any fun source =>
      source.path == candidate.move.source && table.uses source != 0
    if candidate.score < leastScore || (used && !again) ||
        table.moves.any (·.target == candidate.move.target) then table
    else { table with moves := table.moves ++ [candidate.move] }) table

/-- Takes in the moves of the files most alike, unless there are too many to compare. -/
def addSimilar (limit : Int) (table : MoveTable) : MoveTable :=
  let sources := if table.copies then table.sources else table.freeSources
  let targets := table.freeTargets
  if 0 < limit && limit * limit < ((sources.length * targets.length : Nat) : Int) then table
  else
    let candidates := targets.flatMap fun target =>
      sources.foldl (fun found source =>
        considered found ⟨⟨source.path, target.1⟩,
          similarity source.file.content target.2.content,
          baseName source.path == baseName target.1⟩) []
    let ordered := candidates.mergeSort fun a b => !Candidate.leads b a
    let table := addCandidates false ordered table
    if table.copies then addCandidates true ordered table else table

end MoveTable

/-- How many files are compared, at most, with as many others. -/
def comparisonLimit (settings : Configuration) : Int :=
  settings.number "status.renamelimit" (settings.number "diff.renamelimit" 1000)

/-- The files that were moved or copied between two trees. -/
def movesBetween (settings : Configuration) (before after : Snapshot) : List Move :=
  match MoveSearch.ofSettings settings with
  | .none => []
  | search =>
      let copies := search == .copies
      let sources := before.filterMap fun (path, file) =>
        match Dictionary.get? after path with
        | none => some ⟨path, file, true⟩
        | some now => if copies && now != file then some ⟨path, file, false⟩ else none
      let targets := after.filter fun entry => !Dictionary.contains before entry.1
      let table := MoveTable.addExact { copies, sources, targets }
      let table := if copies then table else table.addNamed
      (table.addSimilar (comparisonLimit settings)).moves

end Groundwork.Git
