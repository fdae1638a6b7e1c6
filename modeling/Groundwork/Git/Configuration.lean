import Groundwork.Text.Blank

/-!
Settings of a repository: what their values mean, and which of them an operation reads. An operation
that reads a setting fails if its value means nothing.
-/

namespace Groundwork.Git

/-- The settings of a repository by their keys, in which letter case counts only between the first
and the last dot. They stand in the order in which they are read: those of a section together, and
within it in the order in which they were first set. -/
abbrev Configuration := List (String × String)

/-- What is wrong with the value of a setting. -/
inductive SettingFault where
  | notBoolean (key value : String)
  | notNumber (key value : String) (outOfRange : Bool)
deriving Repr, DecidableEq

namespace Setting

/-! ## Values -/

/-- The value of digits to a base, if all of them are digits to it. -/
def ofDigits? (base : Nat) (digits : List Char) : Option Nat :=
  digits.foldl (fun value c =>
    let digit :=
      if c.isDigit then c.toNat - '0'.toNat
      else if c.isAlpha then c.toLower.toNat - 'a'.toNat + 10
      else base
    if digit < base then value.map (base * · + digit) else none) (some 0)

/-- The factor of the letter that follows a number. -/
def factorOf? : List Char → Option Nat
  | [] => some 1
  | ['k'] | ['K'] => some 1024
  | ['m'] | ['M'] => some (1024 * 1024)
  | ['g'] | ['G'] => some (1024 * 1024 * 1024)
  | _ => none

/-- The base of a number without sign, and its digits. -/
def splitBase : List Char → Nat × List Char
  | '0' :: 'x' :: digits | '0' :: 'X' :: digits => (16, digits)
  | '0' :: digits => (8, '0' :: digits)
  | digits => (10, digits)

/-- The greatest size of a number. -/
def numberLimit : Nat := 2147483647

/-- A number with a letter for its factor. The error tells whether it is out of range. -/
def number? (value : String) : Except Bool Int :=
  let (negative, rest) :=
    match value.toList.dropWhile Text.isBlank with
    | '-' :: rest => (true, rest)
    | '+' :: rest => (false, rest)
    | rest => (false, rest)
  let (base, rest) := splitBase rest
  let digits := rest.takeWhile fun c => (ofDigits? base [c]).isSome
  match ofDigits? base digits, factorOf? (rest.drop digits.length) with
  | some size, some factor =>
      if digits.isEmpty then .error false
      else if numberLimit < size * factor then .error true
      else .ok (if negative then -(size * factor : Nat) else (size * factor : Nat))
  | _, _ => .error false

/-- A truth value: a word for it, or a number. -/
def boolean? (value : String) : Option Bool :=
  let word := value.toLower
  if word == "true" || word == "yes" || word == "on" then some true
  else if word == "false" || word == "no" || word == "off" || word.isEmpty then some false
  else (number? value).toOption.map (· != 0)

/-- What the value of a setting has to be. -/
inductive Kind where
  | boolean
  | number
  /-- A truth value or one of some words. -/
  | booleanOr (words : List String)
deriving Repr, DecidableEq

/-- What is wrong with a value that has to be of some kind. -/
def Kind.fault? (kind : Kind) (key value : String) : Option SettingFault :=
  match kind with
  | .boolean => if (boolean? value).isSome then none else some (.notBoolean key value)
  | .booleanOr words =>
      if words.contains value.toLower || (boolean? value).isSome then none
      else some (.notBoolean key value)
  | .number =>
      match number? value with
      | .ok _ => none
      | .error outOfRange => some (.notNumber key value outOfRange)

/-! ## Readers -/

/-- What reads settings. -/
inductive Reader where
  /-- Every operation. -/
  | all
  /-- Every operation but a change of the settings. -/
  | content
  | comparison
  | status
  | commit
  | history
deriving Repr, DecidableEq

/-- The settings whose values are checked, with what reads them. -/
def checked : List (Reader × String × Kind) :=
  [(.all, "core.repositoryformatversion", .number), (.all, "core.bare", .boolean),
    (.content, "core.filemode", .boolean), (.content, "core.ignorecase", .boolean),
    (.content, "core.symlinks", .boolean), (.content, "core.trustctime", .boolean),
    (.content, "core.quotepath", .boolean),
    (.content, "core.logallrefupdates", .booleanOr ["always"]),
    (.content, "core.autocrlf", .booleanOr ["input"]),
    (.content, "core.safecrlf", .booleanOr ["warn"]),
    (.content, "user.useconfigonly", .boolean),
    (.comparison, "diff.renames", .booleanOr ["copies", "copy"]),
    (.comparison, "diff.renamelimit", .number),
    (.status, "diff.renames", .booleanOr ["copies", "copy"]),
    (.status, "diff.renamelimit", .number),
    (.status, "status.renames", .booleanOr ["copies", "copy"]),
    (.status, "status.renamelimit", .number), (.status, "status.branch", .boolean),
    (.status, "status.short", .boolean), (.status, "status.relativepaths", .boolean),
    (.commit, "commit.gpgsign", .boolean), (.commit, "commit.status", .boolean),
    (.history, "log.follow", .boolean), (.history, "log.showroot", .boolean)]

/-- Settings that a status does not read once others have been read. -/
def outranked : List (String × String) :=
  [("diff.renames", "status.renames"), ("diff.renamelimit", "status.renamelimit")]

/-- The fault of a setting that some readers look at, after others. -/
def faultAfter? (readers : List Reader) (before : List String) (key value : String)
    : Option SettingFault :=
  checked.findSome? fun (reader, other, kind) =>
    let passed := reader == .status && (outranked.lookup key).any before.contains
    if other == key && readers.contains reader && !passed then kind.fault? key value else none

/-- The first fault of the settings that some readers look at, after others. -/
def faultFrom? (readers : List Reader) (before : List String) : Configuration → Option SettingFault
  | [] => none
  | (key, value) :: rest =>
      (faultAfter? readers before key value).orElse fun _ =>
        faultFrom? readers (key :: before) rest

/-- The first fault of the settings that some readers look at. -/
def fault? (settings : Configuration) (readers : List Reader) : Option SettingFault :=
  faultFrom? readers [] settings

end Setting

namespace Configuration

/-- The settings of a new repository. -/
def new : Configuration :=
  [("core.repositoryformatversion", "0"), ("core.filemode", "true"), ("core.bare", "false"),
    ("core.logallrefupdates", "true")]

/-- The section of a key: all before its last dot. -/
def section? (key : String) : List Char := (key.toList.reverse.dropWhile (· != '.')).drop 1

/-- Sets the value of a key, at its place. -/
def set (settings : Configuration) (key value : String) : Configuration :=
  if (settings.lookup key).isSome then
    settings.map fun entry => if entry.1 == key then (key, value) else entry
  else
    let after := settings.reverse.takeWhile fun entry => section? entry.1 != section? key
    if after.length == settings.length then settings ++ [(key, value)]
    else settings.take (settings.length - after.length) ++ (key, value) :: after.reverse

/-- The settings with those of a new repository. -/
def renewed (settings : Configuration) : Configuration :=
  new.foldl (fun settings (key, value) => settings.set key value) settings

/-- The value of a setting, or another if it has none. -/
def boolean (settings : Configuration) (key : String) (default : Bool) : Bool :=
  ((settings.lookup key).bind Setting.boolean?).getD default

def number (settings : Configuration) (key : String) (default : Int) : Int :=
  ((settings.lookup key).bind fun value => (Setting.number? value).toOption).getD default

/-- The value of a setting in lower case, if it has one. -/
def word? (settings : Configuration) (key : String) : Option String :=
  (settings.lookup key).map String.toLower

end Configuration

end Groundwork.Git
