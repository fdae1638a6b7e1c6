import Groundwork.Pipeline.Definition

/-!
Settings of a target. Every setting has a default, and a missing file has them all; unknown settings
are passed over.
-/

namespace Groundwork

/-- How steps are committed to version control. -/
structure CheckpointSettings where
  enabled : Bool := true
  /-- Stands before the name of the step in messages. -/
  messagePrefix : Option String := none
  /-- Refuse to start while there are uncommitted changes. -/
  requireClean : Bool := false
deriving Repr, DecidableEq

/-- Settings of a target. -/
structure Settings where
  /-- How many seconds a command may take. -/
  timeoutSeconds : Option Nat := none
  /-- How many bytes of a command's output are kept. -/
  outputLimit : Nat := 100000
  /-- The program and its first arguments that run a command line. -/
  shell : List String := ["sh", "-c"]
  checkpoint : CheckpointSettings := {}
  options : Options := []

/-- What settings may not be. -/
inductive SettingsFlaw where
  | zeroTimeout
  | zeroLimit
  | noShell
deriving Repr, DecidableEq

def SettingsFlaw.message : SettingsFlaw → String
  | .zeroTimeout => "command_timeout_secs must be > 0 when set"
  | .zeroLimit => "command_output_limit_bytes must be > 0"
  | .noShell => "shell must be a non-empty array"

namespace Settings

/-- Whether a command has no program to run it. -/
def lacksShell : List String → Bool
  | [] => true
  | program :: _ => Text.isBlankText program

/-- The first flaw of settings. -/
def flaw? (settings : Settings) : Option SettingsFlaw :=
  if settings.timeoutSeconds == some 0 then some .zeroTimeout
  else if settings.outputLimit == 0 then some .zeroLimit
  else if lacksShell settings.shell then some .noShell
  else none

/-! ## Documents -/

def checkpointName : String := "struct CheckpointConfig"

/-- Takes in one field of the checkpoint settings. -/
def checkpointField (settings : CheckpointSettings) (name : String) (found : Datum)
    : Except DecodeFault CheckpointSettings := do
  match name with
  | "enabled" => return { settings with enabled := ← Decode.bool .toml found }
  | "message_prefix" =>
      return { settings with messagePrefix := some (← Decode.string .toml found) }
  | "require_clean" => return { settings with requireClean := ← Decode.bool .toml found }
  | _ =>
      Decode.ignored found
      return settings

/-- The names of the checkpoint settings, in the order in which a list gives them. -/
def checkpointFields : List String := ["enabled", "message_prefix", "require_clean"]

def decodeCheckpoint (found : Datum) : Except DecodeFault CheckpointSettings :=
  match found.opened with
  | .object fields =>
      fields.foldlM (fun settings field => checkpointField settings field.1 field.2) {}
  | .list items =>
      (checkpointFields.zip items).foldlM
        (fun settings field => checkpointField settings field.1 field.2) {}
  | _ => Decode.wrongKind .toml found checkpointName

/-- Takes in one field of the settings. -/
def settingsField (settings : Settings) (name : String) (found : Datum)
    : Except DecodeFault Settings := do
  match name with
  | "command_timeout_secs" =>
      return { settings with timeoutSeconds := some (← Decode.natural .toml "u64" found) }
  | "command_output_limit_bytes" =>
      return { settings with outputLimit := ← Decode.natural .toml "usize" found }
  | "shell" => return { settings with shell := ← Decode.list .toml (Decode.string .toml) found }
  | "checkpoint" => return { settings with checkpoint := ← decodeCheckpoint found }
  | "options" => return { settings with options := ← Decode.options .toml found }
  | _ =>
      Decode.ignored found
      return settings

def decode (found : Datum) : Except DecodeFault Settings :=
  match found with
  | .object fields =>
      fields.foldlM (fun settings field => settingsField settings field.1 field.2) {}
  | _ => Decode.wrongKind .toml found "struct ScaffoldConfig"

/-- Settings without flaws. -/
def accept (settings : Settings) : Except Failure Settings :=
  match settings.flaw? with
  | some flaw => .error (.ofMessage flaw.message)
  | none => .ok settings

/-- Reads the settings in a file. -/
def load (files : Files) (path : Path) : Except Failure Settings :=
  if files.exists? path then
    match files.readText path with
    | .error fault => .error (.ofFiles fault s!"read {path}")
    | .ok text =>
        match Toml.decode decode text with
        | .error fault => .error ⟨[s!"parse {path}"], .toml fault⟩
        | .ok settings => settings.accept
  else accept {}

end Settings

end Groundwork
