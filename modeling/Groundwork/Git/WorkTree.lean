import Groundwork.Git.Fault
import Groundwork.Git.Status
import Groundwork.Run.Scene

/-!
What is done with the repository of a directory, and checkpoints as commits: one for each step, with
all changes of the work tree. What is refused is refused as `git` words it.
-/

namespace Groundwork

/-- A directory in which `git` is run. -/
structure WorkTree where
  directory : Path

namespace WorkTree

open Git

variable {α : Type}

/-- What is asked of repositories. -/
abbrev GitRequest (α : Type) := Request Repositories α

/-- A run of `git` as messages name it. -/
def commandText (arguments : List String) : String := "git " ++ " ".intercalate arguments

/-- The failure of a run of `git`. -/
def failure (arguments : List String) (fault : GitFault) : Failure :=
  .ofMessage s!"{commandText arguments} failed: {Text.trimmed fault.message}"

/-- What becomes of a text that is given to a program: it ends at no NUL. -/
def checkArguments (arguments : List String) : Except Failure Unit :=
  if arguments.any fun argument => argument.toList.any fun c => c.toNat == 0 then
    .error ⟨[s!"spawn {commandText arguments}"],
      .message "nul byte found in provided data"⟩
  else .ok ()

/-- The location of the directory; `git` cannot be run in one that is not there. -/
def location (tree : WorkTree) (arguments : List String) (files : Files)
    : Except Failure Location := do
  checkArguments arguments
  let context := s!"spawn {commandText arguments}"
  match files.place tree.directory with
  | .ok (.taken location .directory) => .ok location
  | .ok (.taken ..) => .error (.ofFiles .notDirectory context)
  | .ok (.free ..) => .error (.ofFiles .notFound context)
  | .error fault => .error (.ofFiles fault context)

/-- The repository of the directory, or why there is none. -/
def found (tree : WorkTree) (arguments : List String)
    : GitRequest (Except GitFault (Location × Repository)) :=
  ExceptT.mk fun surroundings =>
    match tree.location arguments surroundings.files with
    | .error failure => (.error failure, surroundings)
    | .ok location =>
        (.ok (match surroundings.outside.find? surroundings.files location with
          | .ok (some found) => .ok found
          | .ok none => .error .notRepository
          | .error fault => .error (.badLink fault)), surroundings)

/-- What is wrong with the layout of a repository. -/
def layoutFault? (repository : Repository) : Option GitFault :=
  let settings := repository.settings
  match Setting.fault? settings [.all] with
  | some fault => some (.badSetting fault settingsFile)
  | none =>
      let version := settings.number "core.repositoryformatversion" 0
      let unknown := settings.filterMap fun (key, _) =>
        if "extensions.".toList.isPrefixOf key.toList then
          let name := String.ofList (key.toList.drop "extensions.".length)
          if knownExtensions.contains name then none else some name
        else none
      if 1 < version then some (.version version)
      else if version == 1 && !unknown.isEmpty then some (.unknownExtensions unknown)
      else none
where
  knownExtensions : List String :=
    ["noop", "noop-v1", "preciousobjects", "partialclone", "worktreeconfig", "objectformat"]

/-- What keeps some readers of settings, which may need a work tree, from a repository. -/
def fault? (readers : List Setting.Reader) (needsTree : Bool) (repository : Repository)
    : Option GitFault :=
  match layoutFault? repository with
  | some fault => some fault
  | none =>
      if needsTree && repository.settings.boolean "core.bare" false then some .noWorkTree
      else (Setting.fault? repository.settings readers).map (.badSetting · settingsFile)

/-- The repository of the directory, for an operation whose settings have to be sound. -/
def repository (tree : WorkTree) (arguments : List String) (readers : List Setting.Reader)
    (needsTree : Bool) : GitRequest (Location × Repository) := do
  match ← tree.found arguments with
  | .ok (top, repository) =>
      match fault? readers needsTree repository with
      | some fault => throw (failure arguments fault)
      | none => return (top, repository)
  | .error fault => throw (failure arguments fault)

/-- Puts a changed repository in place of the one at a location. -/
def update (top : Location) (repository : Repository) : GitRequest Unit :=
  modifyThe (Surroundings Repositories) fun surroundings =>
    { surroundings with outside := Dictionary.insert surroundings.outside top repository }

def files : GitRequest Files :=
  return (← getThe (Surroundings Repositories)).files

/-- Whether the directory lies in a work tree whose settings are sound. -/
def isInside (tree : WorkTree) : GitRequest Bool := do
  match ← tree.found ["rev-parse", "--is-inside-work-tree"] with
  | .ok (_, repository) => return (fault? [.content] true repository).isNone
  | .error _ => return false

/-- Makes the directory the top of a work tree. One that is keeps its commits. -/
def init (tree : WorkTree) : GitRequest Unit := do
  let arguments := ["init", "--quiet"]
  let surroundings ← getThe (Surroundings Repositories)
  let top ← MonadExcept.ofExcept (tree.location arguments surroundings.files)
  let own := top ++ [directoryName]
  if let some (.file content _) := surroundings.files.node? own then
    throw (failure arguments (.badLink (linkFault own content)))
  let isKept := surroundings.files.node? (own ++ ["objects"]) == some .directory
  let repository := if isKept then (Dictionary.get? surroundings.outside top).getD {} else {}
  match fault? [.content] false repository with
  | some (.badSetting fault _) =>
      throw (failure arguments (.badSetting fault s!"{tree.directory}/{settingsFile}"))
  | some fault => throw (failure arguments fault)
  | none =>
      let files := ownNodes.foldl (fun (files : Files) (below, node) =>
        match files.node? (own ++ below) with
        | some _ => files
        | none => files.setNode (own ++ below) node) surroundings.files
      modifyThe (Surroundings Repositories) fun surroundings => { surroundings with files }
      update top { repository with settings := repository.settings.renewed }

/-! ## Settings -/

def isKeyChar (c : Char) : Bool := c.isAlphanum || c == '-'

/-- What is wrong with a key: it needs a section and a name, of letters, digits and dashes; what
stands between them is free. -/
def keyFault? (key : List Char) : Option GitKeyFault :=
  let name := (key.reverse.takeWhile (· != '.')).reverse
  let before := key.take (key.length - name.length - 1)
  if !key.contains '.' || before.isEmpty then some .noSection
  else if name.isEmpty then some .noName
  else
    let middle := before.dropWhile (· != '.')
    if !(before.takeWhile (· != '.')).all isKeyChar then some .badCharacter
    else if middle.contains '\n' then some .newline
    else if !name.all isKeyChar || !(name.head?.any Char.isAlpha) then some .badCharacter
    else none

/-- A key in the form in which it is looked up: letter case counts only between section and name. -/
def plainKey (key : List Char) : String :=
  let name := key.reverse.takeWhile (· != '.')
  let before := key.take (key.length - name.length)
  let lower (text : List Char) : List Char := text.map Char.toLower
  String.ofList (lower (before.takeWhile (· != '.')) ++ before.dropWhile (· != '.') ++
    (lower name).reverse)

/-- Changes a setting of the repository. -/
def configure (tree : WorkTree) (key value : String) : GitRequest Unit := do
  let arguments := ["config", key, value]
  match ← tree.found arguments with
  | .error .notRepository => throw (failure arguments .noDirectoryForSettings)
  | .error fault => throw (failure arguments fault)
  | .ok (top, repository) =>
      match layoutFault? repository with
      | some (.badSetting fault file) => throw (failure arguments (.badSetting fault file))
      | some fault => throw (failure arguments (.warned fault))
      | none =>
          match keyFault? key.toList with
          | some fault => throw (failure arguments (.badKey key fault))
          | none =>
              update top { repository with
                settings := repository.settings.set (plainKey key.toList) value }

/-! ## Changes and commits -/

/-- The changes of the work tree. -/
def status (tree : WorkTree) : GitRequest (List StatusEntry) := do
  let (top, repository) ← tree.repository ["status", "--porcelain=v1", "-uall"]
    [.content, .status] true
  MonadExcept.ofExcept (StatusEntry.ofText (repository.statusText (← files) top))

/-- Refuses a work tree with changes outside some paths. -/
def ensureClean (tree : WorkTree) (prefixes : List String) : GitRequest Unit := do
  MonadExcept.ofExcept (StatusEntry.checkClean (← tree.status) prefixes)

/-- Takes all changes into the index. -/
def addAll (tree : WorkTree) : GitRequest Unit := do
  let arguments := ["add", "-A"]
  let (top, repository) ← tree.repository arguments [.content] true
  match repository.add (← files) top with
  | .ok repository => update top repository
  | .error fault => throw (failure arguments (.notAdded fault))

/-- Whether something is staged; nothing is outside a work tree, or where settings are faulty. -/
def hasStaged (tree : WorkTree) : GitRequest Bool := do
  match ← tree.found ["diff", "--cached", "--name-only"] with
  | .ok (_, repository) =>
      return (fault? [.content, .comparison] false repository).isNone && repository.hasStaged
  | .error _ => return false

/-- Whether a character may not stand at the ends of names. -/
def isDisallowed (c : Char) : Bool := c.toNat ≤ 32 || ".,:;<>\"\\'".toList.contains c

/-- What is wrong with the name of the one who commits. -/
def nameFault? (settings : Configuration) : Option GitFault :=
  match settings.lookup "user.name" with
  | none => none
  | some name =>
      if name.isEmpty then some (.noName ((settings.lookup "user.email").getD ""))
      else if name.toList.all isDisallowed then some (.unusableName name)
      else none

/-- Commits what is staged, which must be something unless empty commits are allowed. Tells whether
a commit was made. -/
def commitStaged (tree : WorkTree) (message : String) (allowEmpty : Bool) : GitRequest Bool := do
  let staged ← tree.hasStaged
  if !staged && !allowEmpty then return false
  else
    let arguments := ["commit", "--quiet"] ++ (if staged then [] else ["--allow-empty"]) ++
      ["-m", message]
    let (top, repository) ← tree.repository arguments
      [.content, .status, .commit] true
    match Cleanup.ofSettings repository.settings with
    | .error word => throw (failure arguments (.badCleanup word))
    | .ok cleanup =>
        if let some fault := nameFault? repository.settings then throw (failure arguments fault)
        let kept := Message.clean cleanup message
        if Message.saysNothing cleanup kept then throw (failure arguments .emptyMessage)
        update top (repository.commit kept)
        return true

/-- The least and the greatest length of the short name of a commit. -/
def shortestName : Nat := 4

def longestName : Nat := 40

/-- The length of the short name of the newest commit, of which some length is asked. -/
def headNameLength (tree : WorkTree) (length : Nat) : GitRequest Nat := do
  let arguments := ["rev-parse", s!"--short={length}", "HEAD"]
  let (_, repository) ← tree.repository arguments [.content] false
  if repository.commits.isEmpty then throw (failure arguments .noRevision)
  else return min (max length shortestName) longestName

/-- The subjects of the commits, the newest first. -/
def subjects (tree : WorkTree) : GitRequest (List String) := do
  let arguments := ["log", "--format=%s"]
  let (_, repository) ← tree.repository arguments [.content, .comparison, .history] false
  if repository.commits.isEmpty then throw (failure arguments .noCommits)
  else
    let shown := Encoding.ofShown repository.settings
    return repository.commits.map (·.subject shown)

/-! ## Checkpoints -/

/-- The length of the name under which a checkpoint is reported. -/
def reportedLength : Nat := 12

/-- The message of a checkpoint. -/
def checkpointMessage (start : Option String) (step : String) : String := start.getD "" ++ step

/-- Commits all changes, or an empty commit if there are none. -/
def checkpoint (tree : WorkTree) (start : Option String) (step : String) : GitRequest Unit := do
  tree.addAll
  let _ ← tree.commitStaged (checkpointMessage start step) true
  let _ ← tree.headNameLength reportedLength

/-- Refuses a directory that cannot take checkpoints: it has to lie in a work tree, and if it must
be clean there may be no changes but those of ignored paths. -/
def ensureReady (tree : WorkTree) (requireClean : Bool) (ignored : String) : GitRequest Unit := do
  if !(← tree.isInside) then
    throw (.ofMessage
      s!"{tree.directory} is not a git work tree (run `git init` or pass --no-checkpoint)")
  else if requireClean then tree.ensureClean [ignored]

end WorkTree

end Groundwork
