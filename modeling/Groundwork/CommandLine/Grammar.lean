import Groundwork.Text.Search

/-!
Arguments of commands: options by their names and other arguments by their places, in any order.
After two dashes there are no more options.
-/

namespace Groundwork.CommandLine

/-- What an option takes. -/
inductive OptionKind where
  | switch
  | value
  /-- Values that add up. -/
  | values
deriving Repr, DecidableEq

/-- An option by its long name, with a letter for short. -/
structure OptionForm where
  name : String
  letter : Option Char := none
  kind : OptionKind
  /-- Whether a value may be the empty text. -/
  mayBeEmpty : Bool := false

/-- What a command takes: options, and arguments that have to be there. -/
structure CommandForm where
  name : String
  options : List OptionForm := []
  operands : List String := []

/-- Why arguments cannot be taken. -/
inductive UsageFault where
  | unknownArgument (text : String)
  | unknownCommand (text : String)
  | missingCommand
  | missingValue (option : String)
  | unwantedValue (option : String)
  | repeated (option : String)
  | missingOperands (names : List String)
deriving Repr, DecidableEq

def UsageFault.message : UsageFault → String
  | .unknownArgument text => s!"unexpected argument '{text}' found"
  | .unknownCommand text => s!"unrecognized subcommand '{text}'"
  | .missingCommand => "a subcommand is required"
  | .missingValue option => s!"a value is required for '{option}' but none was supplied"
  | .unwantedValue option => s!"unexpected value for '{option}' found; no more were expected"
  | .repeated option => s!"the argument '{option}' cannot be used multiple times"
  | .missingOperands names =>
      "the following required arguments were not provided: " ++ " ".intercalate names

/-- Why the reading of arguments ends before them. -/
inductive Stop where
  | help
  | version
  | fault (fault : UsageFault)
deriving Repr, DecidableEq

/-- The arguments of a command. -/
structure Arguments where
  switches : List String := []
  values : List (String × String) := []
  operands : List String := []
deriving Repr, DecidableEq

namespace Arguments

def has (arguments : Arguments) (name : String) : Bool := arguments.switches.contains name

/-- The values of an option in the order in which they were given. -/
def valuesOf (arguments : Arguments) (name : String) : List String :=
  (arguments.values.filter (·.1 == name)).map (·.2)

/-- The operand at a place; all that a command needs are there. -/
def operand (arguments : Arguments) (place : Nat) : String := arguments.operands[place]?.getD ""

end Arguments

namespace CommandForm

/-- Takes in a switch. -/
def addSwitch (arguments : Arguments) (name : String) : Except Stop Arguments :=
  if arguments.has name then .error (.fault (.repeated s!"--{name}"))
  else .ok { arguments with switches := arguments.switches ++ [name] }

/-- Takes in a value of an option. -/
def addValue (arguments : Arguments) (option : OptionForm) (value : String)
    : Except Stop Arguments :=
  if option.kind != .values && !(arguments.valuesOf option.name).isEmpty then
    .error (.fault (.repeated s!"--{option.name}"))
  else if value.isEmpty && !option.mayBeEmpty then
    .error (.fault (.missingValue s!"--{option.name}"))
  else .ok { arguments with values := arguments.values ++ [(option.name, value)] }

/-- Takes in an argument that belongs to no option. -/
def addOperand (form : CommandForm) (arguments : Arguments) (text : String)
    : Except Stop Arguments :=
  match form.operands[arguments.operands.length]? with
  | none => .error (.fault (.unknownArgument text))
  | some name =>
      if text.isEmpty then .error (.fault (.missingValue name))
      else .ok { arguments with operands := arguments.operands ++ [text] }

/-- Takes in switches by their letters. -/
def addLetters (form : CommandForm) (arguments : Arguments) : List Char → Except Stop Arguments
  | [] => .ok arguments
  | letter :: rest =>
      if letter == 'h' then .error .help
      else
        match form.options.find? (fun option => option.letter == some letter) with
        | some option => do form.addLetters (← addSwitch arguments option.name) rest
        | none => .error (.fault (.unknownArgument s!"-{letter}"))

/-- A long option with the value that is joined to it, if any. -/
def splitLong (text : List Char) : String × Option String :=
  match Text.splitOnce '=' text with
  | some (name, value) => (String.ofList name, some (String.ofList value))
  | none => (String.ofList text, none)

/-- Whether an argument can be the value of the option before it. -/
def isValue (text : String) : Bool := text == "-" || text.toList.head? != some '-'

/-- Reads arguments up to the end. -/
def read (form : CommandForm) (arguments : Arguments) : List String → Except Stop Arguments
  | [] => .ok arguments
  | text :: rest =>
      match text.toList with
      | ['-', '-'] => rest.foldlM form.addOperand arguments
      | '-' :: '-' :: long =>
          let (name, joined) := splitLong long
          if name == "help" && joined.isNone then .error .help
          else
            match form.options.find? (·.name == name) with
            | none => .error (.fault (.unknownArgument s!"--{name}"))
            | some option =>
                match option.kind, joined with
                | .switch, some _ => .error (.fault (.unwantedValue s!"--{name}"))
                | .switch, none => do form.read (← addSwitch arguments name) rest
                | _, some value => do form.read (← addValue arguments option value) rest
                | _, none =>
                    match rest with
                    | value :: rest =>
                        if isValue value then do
                          form.read (← addValue arguments option value) rest
                        else .error (.fault (.missingValue s!"--{name}"))
                    | [] => .error (.fault (.missingValue s!"--{name}"))
      | '-' :: letter :: letters => do
          form.read (← form.addLetters arguments (letter :: letters)) rest
      | _ => do form.read (← form.addOperand arguments text) rest

/-- Reads arguments, which must have all that the command needs. -/
def readAll (form : CommandForm) (arguments : List String) : Except Stop Arguments := do
  let found ← form.read {} arguments
  match form.operands.drop found.operands.length with
  | [] => return found
  | missing => .error (.fault (.missingOperands (missing.map fun name => s!"<{name}>")))

end CommandForm

end Groundwork.CommandLine
