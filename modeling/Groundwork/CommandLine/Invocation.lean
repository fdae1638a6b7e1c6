import Groundwork.CommandLine.Grammar
import Groundwork.Path

/-!
What the program is asked to do.
-/

namespace Groundwork.CommandLine

/-- What is given to apply a pipeline. -/
structure ApplyArguments where
  pipeline : Path
  target : Path
  /-- Option assignments as they were written. -/
  assignments : List String := []
  dryRun : Bool := false
  noCheckpoint : Bool := false
  settings : Option Path := none
  templates : Option Path := none
deriving Repr, DecidableEq

/-- What is asked for. -/
inductive Invocation where
  | apply (arguments : ApplyArguments)
  | check (pipeline : Path)
  | status (pipeline target : Path)
  | version
  | help
  | refused (fault : UsageFault)
deriving Repr, DecidableEq

/-- The option that asks for messages about progress; it may stand anywhere. -/
def verboseForm : OptionForm := { name := "verbose", letter := some 'v', kind := .switch }

def applyForm : CommandForm where
  name := "apply"
  options :=
    [verboseForm, { name := "set", kind := .values, mayBeEmpty := true },
      { name := "dry-run", kind := .switch }, { name := "no-checkpoint", kind := .switch },
      { name := "config", kind := .value }, { name := "templates", kind := .value }]
  operands := ["PIPELINE", "TARGET"]

def checkForm : CommandForm where
  name := "check"
  options := [verboseForm]
  operands := ["PIPELINE"]

def statusForm : CommandForm where
  name := "status"
  options := [verboseForm]
  operands := ["PIPELINE", "TARGET"]

namespace Invocation

/-- What the arguments of `apply` ask for. -/
def ofApply (arguments : Arguments) : ApplyArguments where
  pipeline := Path.ofString (arguments.operand 0)
  target := Path.ofString (arguments.operand 1)
  assignments := arguments.valuesOf "set"
  dryRun := arguments.has "dry-run"
  noCheckpoint := arguments.has "no-checkpoint"
  settings := (arguments.valuesOf "config").head?.map Path.ofString
  templates := (arguments.valuesOf "templates").head?.map Path.ofString

/-- What is asked for if the reading of arguments has ended early. -/
def ofStop : Stop → Invocation
  | .help => .help
  | .version => .version
  | .fault fault => .refused fault

/-- What arguments of a command ask for. -/
def ofCommand (form : CommandForm) (build : Arguments → Invocation) (arguments : List String)
    : Invocation :=
  match form.readAll arguments with
  | .ok found => build found
  | .error stop => ofStop stop

/-- The names of the commands. -/
def commandNames : List String := ["apply", "check", "status", "help"]

/-- What is asked for by the name of a command and its arguments. -/
def ofName (name : String) (arguments : List String) : Invocation :=
  match name with
  | "apply" => ofCommand applyForm (fun found => .apply (ofApply found)) arguments
  | "check" => ofCommand checkForm (fun found => .check (Path.ofString (found.operand 0))) arguments
  | "status" =>
      ofCommand statusForm
        (fun found => .status (Path.ofString (found.operand 0)) (Path.ofString (found.operand 1)))
        arguments
  | "help" =>
      match arguments with
      | [] => .help
      | name :: rest =>
          if !commandNames.contains name then .refused (.unknownCommand name)
          else
            match rest with
            | [] => .help
            | extra :: _ => .refused (.unknownCommand extra)
  | name => .refused (.unknownCommand name)

/-- Follows letters before the command: whether messages are asked for already, or what ends the
reading. -/
def readLetters (verbose : Bool) : List Char → Except Stop Bool
  | [] => .ok verbose
  | 'v' :: rest =>
      if verbose then .error (.fault (.repeated "--verbose")) else readLetters true rest
  | 'h' :: _ => .error .help
  | 'V' :: _ => .error .version
  | letter :: _ => .error (.fault (.unknownArgument s!"-{letter}"))

/-- Reads what stands before the name of the command, and then the command. -/
def readFrom (verbose : Bool) : List String → Invocation
  | [] => .refused .missingCommand
  | text :: rest =>
      match text with
      | "--help" => .help
      | "--version" => .version
      | "--verbose" =>
          if verbose then .refused (.repeated "--verbose") else readFrom true rest
      | text =>
          match text.toList with
          | '-' :: '-' :: _ => .refused (.unknownArgument text)
          | '-' :: letter :: letters =>
              match readLetters verbose (letter :: letters) with
              | .ok verbose => readFrom verbose rest
              | .error stop => ofStop stop
          | _ => ofName text rest

/-- What arguments ask for. -/
def read (arguments : List String) : Invocation := readFrom false arguments

end Invocation

end Groundwork.CommandLine
