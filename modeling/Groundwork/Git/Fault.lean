import Groundwork.Git.Repository

/-!
Why something cannot be done with a repository, as `git` words it.
-/

namespace Groundwork

/-- What is wrong with the key of a setting. -/
inductive GitKeyFault where
  | noSection
  | noName
  | newline
  | badCharacter
deriving Repr, DecidableEq

/-- Why something cannot be done with a repository. -/
inductive GitFault where
  | notRepository
  | noDirectoryForSettings
  | noCommits
  | noRevision
  | emptyMessage
  | badKey (key : String) (fault : GitKeyFault)
  /-- The value of a setting in a file means nothing. -/
  | badSetting (fault : Git.SettingFault) (file : String)
  /-- The layout of the repository is of a later version. -/
  | version (number : Int)
  | unknownExtensions (names : List String)
  /-- There is no work tree, but one is needed. -/
  | noWorkTree
  | badLink (fault : Git.LinkFault)
  | notAdded (fault : Git.AddFault)
  | badCleanup (word : String)
  | noName (address : String)
  | unusableName (name : String)
  /-- A setting cannot be changed where another fault keeps the repository from being found. -/
  | warned (fault : GitFault)
deriving Repr, DecidableEq

/-- The branch of a new repository. -/
def gitBranch : String := "master"

/-- What is said to those who have not told their name. -/
def identityHint : String :=
  "Author identity unknown\n\n*** Please tell me who you are.\n\nRun\n\n" ++
  "  git config --global user.email \"you@example.com\"\n" ++
  "  git config --global user.name \"Your Name\"\n\n" ++
  "to set your account's default identity.\n" ++
  "Omit --global to set the identity only in this repository.\n\n"

/-- The path of the settings from the top of a work tree. -/
def settingsFile : String := ".git/config"

def Git.SettingFault.message (file : String) : Git.SettingFault → String
  | .notBoolean key value => s!"bad boolean config value '{value}' for '{key}'"
  | .notNumber key value outOfRange =>
      let reason := if outOfRange then "out of range" else "invalid unit"
      s!"bad numeric config value '{value}' for '{key}' in file {file}: {reason}"

def Git.AddFault.message : Git.AddFault → String
  | .invalidPath path =>
      s!"error: invalid path '{path}'\nerror: unable to add '{path}' to index\n" ++
        "fatal: adding files failed"
  | .returnsLost path => s!"fatal: CRLF would be replaced by LF in {path}"
  | .newlinesLost path => s!"fatal: LF would be replaced by CRLF in {path}"

def Git.LinkFault.message : Git.LinkFault → String
  | .badFormat location => "invalid gitfile format: /" ++ "/".intercalate location
  | .noPath location => "no path in gitfile: /" ++ "/".intercalate location
  | .leadsNowhere path => s!"not a git repository: {path}"

/-- What is said of a fault, without the word for how bad it is. -/
def GitFault.reason : GitFault → String
  | .version number => s!"Expected git repo version <= 1, found {number}"
  | .unknownExtensions names =>
      let ending := if names.length < 2 then "" else "s"
      s!"unknown repository extension{ending} found:" ++
        String.join (names.map fun name => s!"\n\t{name}")
  | .badSetting fault file => fault.message file
  | .badLink fault => fault.message
  | _ => ""

def GitFault.message : GitFault → String
  | .notRepository => "fatal: not a git repository (or any of the parent directories): .git"
  | .noDirectoryForSettings => "fatal: not in a git directory"
  | .noCommits => s!"fatal: your current branch '{gitBranch}' does not have any commits yet"
  | .noRevision => "fatal: Needed a single revision"
  | .emptyMessage => "Aborting commit due to empty commit message."
  | .badKey key .noSection => s!"error: key does not contain a section: {key}"
  | .badKey key .noName => s!"error: key does not contain variable name: {key}"
  | .badKey key .newline => s!"error: invalid key (newline): {key}"
  | .badKey key .badCharacter => s!"error: invalid key: {key}"
  | .noWorkTree => "fatal: this operation must be run in a work tree"
  | .notAdded fault => fault.message
  | .badCleanup word => s!"fatal: Invalid cleanup mode {word}"
  | .noName address => identityHint ++ s!"fatal: empty ident name (for <{address}>) not allowed"
  | .unusableName name => s!"fatal: name consists only of disallowed characters: {name}"
  | .warned fault => s!"warning: {fault.reason}\nfatal: not in a git directory"
  | fault => s!"fatal: {fault.reason}"

end Groundwork
