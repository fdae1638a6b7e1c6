import Groundwork.Shell.Machine

/-!
Programs that command lines run: each takes its arguments and ends with a status.
-/

namespace Groundwork.Shell

/-- Why a program cannot be started. -/
inductive LaunchFault where
  | notFound
  | denied
  | notDirectory
  /-- It is no program. -/
  | format
  | loop
deriving Repr, DecidableEq

namespace LaunchFault

/-- A fault in words. -/
def message : LaunchFault → String
  | .notFound => "No such file or directory"
  | .denied => "Permission denied"
  | .notDirectory => "Not a directory"
  | .format => "Exec format error"
  | .loop => "Too many levels of symbolic links"

/-- The status of what starts a program that cannot be started. -/
def status : LaunchFault → Nat
  | .denied | .format => 126
  | _ => 127

end LaunchFault

/-- What starts programs for others. -/
structure Launcher where
  /-- Starts a program with arguments: in the place of the one that runs, which then does not go on,
  or in a process of its own. -/
  start : (inPlace : Bool) → String → List String → Action (Except LaunchFault Ending)
  /-- The path of the program that a name stands for. -/
  find? : String → Action (Option String)

/-- A program. It can start others. -/
abbrev Program := Launcher → List String → Action Nat

/-- What is wrong with an operation on files, in words only. -/
def reason (fault : FileFault) : String :=
  String.ofList ((Text.find? " (os error".toList fault.message.toList).elim fault.message.toList
    fault.message.toList.take)

/-- A message of the program that runs. -/
def report (message : String) : Action Unit := do
  say 2 s!"{(← getThe Machine).program}: {message}\n"

/-- What programs add to messages about their arguments. -/
def adviseHelp : Action Unit := do
  say 2 s!"Try '{(← getThe Machine).program} --help' for more information.\n"

/-- A message about arguments, after which a program ends. -/
def misuse (status : Nat) (message : String) : Action Nat := do
  report message
  adviseHelp
  return status

/-- Changes the tree, or passes on why it cannot be changed. -/
def changeFiles (operation : Files → Except FileFault Files) : Action (Option FileFault) := do
  let machine ← getThe Machine
  match operation machine.world.files with
  | .ok files =>
      modifyThe Machine fun machine => { machine with world := { machine.world with files } }
      return none
  | .error fault => return some fault

/-- A device by its path. -/
def device? (path : String) : Option Opened :=
  match path with
  | "/dev/null" => some .nothing
  | "/dev/zero" => some .zeros
  | _ => none

/-- The channel that a path names. -/
def channelOf? (path : String) : Option Nat :=
  match path with
  | "/dev/stdin" => some 0
  | "/dev/stdout" => some 1
  | "/dev/stderr" => some 2
  | path =>
      let lead := "/dev/fd/".toList
      if lead.isPrefixOf path.toList then (String.ofList (path.toList.drop lead.length)).toNat?
      else none

/-- The content of a file. Devices are empty. -/
def fileContent (path : String) : Action (Except FileFault ByteArray) := do
  match device? path, channelOf? path with
  | some _, _ => return .ok .empty
  | none, some channel => return .ok (← readAll channel)
  | none, none =>
      return (← getThe Machine).content path

/-- The content of an operand: a file, or with `-` what is left on the input channel. -/
def operandContent (operand : String) : Action (Except FileFault ByteArray) := do
  if operand == "-" then return .ok (← readAll 0) else fileContent operand

/-- Writes a file, and keeps what it holds if asked for. -/
def writeFile (path : String) (append : Bool) (content : ByteArray)
    : Action (Option FileFault) := do
  match device? path, channelOf? path with
  | some _, _ => return none
  | none, some channel =>
      emitTo channel content
      return none
  | none, none =>
      let machine ← getThe Machine
      let target := machine.path path
      let before := if append then (machine.world.files.read target).toOption.getD .empty
        else .empty
      changeFiles (·.write target (before ++ content))

/-- The worst status of doing something with each of some operands. -/
def forOperands (operands : List String) (step : String → Action Nat) : Action Nat :=
  operands.foldlM (fun worst operand => return max worst (← step operand)) 0

/-- Does something with the content of each operand, or of the input channel if there is none. -/
def withContents (failure : Nat) (complaint : String → FileFault → String)
    (operands : List String) (step : ByteArray → Action Unit) : Action Nat :=
  forOperands (if operands.isEmpty then ["-"] else operands) fun operand => do
    match ← operandContent operand with
    | .ok content =>
        step content
        return 0
    | .error fault =>
        report (complaint operand fault)
        return failure

/-- The usual complaint about an operand. -/
def plainComplaint (operand : String) (fault : FileFault) : String := s!"{operand}: {reason fault}"

/-! ## Bytes and lines -/

def ofBytes (bytes : List UInt8) : ByteArray := ⟨bytes.toArray⟩

/-- The lines of some bytes without their ends, and whether the last one has an end. -/
def splitLines (mark : UInt8) (bytes : ByteArray) : List (List UInt8) × Bool :=
  let (lines, last) := bytes.data.toList.foldr (fun b (lines, line) =>
    if b == mark then (line :: lines, []) else (lines, b :: line))
    (([] : List (List UInt8)), ([] : List UInt8))
  let all := last :: lines
  match all.getLast? with
  | some [] => (all.dropLast, true)
  | _ => (all, bytes.isEmpty)

/-- The lines of some bytes with their ends. -/
def piecesOf (mark : UInt8) (bytes : ByteArray) : List (List UInt8) :=
  let (lines, ended) := splitLines mark bytes
  let count := lines.length
  lines.zipIdx.map fun (line, i) => if ended || i + 1 < count then line ++ [mark] else line

/-- The lines of some bytes with the newlines after them. -/
def byteLines (bytes : ByteArray) : List (List UInt8) := piecesOf 10 bytes

/-- Bytes of lines with an end to each. -/
def joinLines (lines : List (List UInt8)) : ByteArray := ofBytes (lines.flatMap (· ++ [10]))

/-- The text of some bytes. -/
def bytesText (bytes : List UInt8) : String := Text.decodeLossy (ofBytes bytes)

/-! ## Options -/

/-- Options of a program as they were given, the first one first: the letter or the long name of
each, and what it was given. -/
abbrev GivenOptions := List (String × String)

/-- What options a program has: letters without and with an argument of their own, and long names,
of which those that end in an equals sign take one and those that end in a question mark can. -/
structure OptionSet where
  letters : String := ""
  marked : String := ""
  long : List String := []
  /-- Whether options are looked for after other arguments as well. -/
  anywhere : Bool := true

/-- What is wrong with options. -/
inductive OptionFault where
  | invalid (letter : Char)
  | unknown (text : String)
  | missing (letter : Char)
  | missingLong (name : String)
  | ambiguous (text : String)
  | superfluous (name : String)

def OptionFault.message : OptionFault → String
  | .invalid letter => s!"invalid option -- '{letter}'"
  | .unknown text => s!"unrecognized option '{text}'"
  | .missing letter => s!"option requires an argument -- '{letter}'"
  | .missingLong name => s!"option '--{name}' requires an argument"
  | .ambiguous text => s!"option '{text}' is ambiguous"
  | .superfluous name => s!"option '--{name}' doesn't allow an argument"

namespace OptionSet

/-- The options of letters after a dash, and the arguments after them. -/
def readLetters (set : OptionSet) (rest : List String) : List Char
    → Except OptionFault (GivenOptions × List String)
  | [] => .ok ([], rest)
  | c :: letters =>
      if set.marked.toList.contains c then
        match letters, rest with
        | [], [] => .error (.missing c)
        | [], value :: rest => .ok ([(String.singleton c, value)], rest)
        | letters, rest => .ok ([(String.singleton c, String.ofList letters)], rest)
      else if set.letters.toList.contains c then do
        let (found, rest) ← set.readLetters rest letters
        return ((String.singleton c, "") :: found, rest)
      else .error (.invalid c)

/-- A long option, and the arguments after it. It can be shortened. -/
def readLong (set : OptionSet) (text : String) (rest : List String)
    : Except OptionFault ((String × String) × List String) :=
  let spelled := text.toList.drop 2
  let name := spelled.takeWhile (· != '=')
  let value? := if name.length < spelled.length then
      some (String.ofList (spelled.drop (name.length + 1))) else none
  let bare (entry : String) : String :=
    String.ofList (entry.toList.filter fun c => c != '=' && c != '?')
  let exact := set.long.filter fun entry => bare entry == String.ofList name
  let found := if exact.isEmpty then
      set.long.filter fun entry => name.isPrefixOf (bare entry).toList else exact
  match found with
  | [] => .error (.unknown (String.ofList ('-' :: '-' :: name)))
  | [entry] =>
      let takes := entry.toList.contains '='
      match takes, value?, rest with
      | _, some value, rest =>
          if takes || entry.toList.contains '?' then .ok ((bare entry, value), rest)
          else .error (.superfluous (bare entry))
      | true, none, value :: rest => .ok ((bare entry, value), rest)
      | true, none, [] => .error (.missingLong (bare entry))
      | false, none, rest => .ok ((bare entry, ""), rest)
  | _ => .error (.ambiguous text)

/-- The options among arguments, and the other arguments; `fuel` bounds their number. -/
def read (set : OptionSet) (fuel : Nat) (arguments : List String)
    : Except OptionFault (GivenOptions × List String) :=
  match fuel with
  | 0 => .ok ([], arguments)
  | fuel + 1 =>
      match arguments with
      | [] => .ok ([], [])
      | "--" :: rest => .ok ([], rest)
      | argument :: rest =>
          match argument.toList with
          | '-' :: '-' :: _ => do
              let (found, rest) ← set.readLong argument rest
              let (others, operands) ← set.read fuel rest
              return (found :: others, operands)
          | '-' :: c :: letters => do
              let (found, rest) ← set.readLetters rest (c :: letters)
              let (others, operands) ← set.read fuel rest
              return (found ++ others, operands)
          | _ =>
              if set.anywhere then do
                let (others, operands) ← set.read fuel rest
                return (others, argument :: operands)
              else .ok ([], arguments)

end OptionSet

/-- Whether an option was given by one of its names. -/
def GivenOptions.has (options : GivenOptions) (names : List String) : Bool :=
  options.any fun option => names.contains option.1

/-- What an option was given the last time. -/
def GivenOptions.last? (options : GivenOptions) (names : List String) : Option String :=
  ((options.filter fun option => names.contains option.1).getLast?).map (·.2)

/-- The mark after each record: a newline, or a byte that cannot be seen if asked for. -/
def recordEnd (options : GivenOptions) (names : List String) : String :=
  if options.has names then "\x00" else "\n"

/-- Does something with the options and operands of a program, or tells what is wrong with them. -/
def withOptions (failure : Nat) (set : OptionSet) (arguments : List String)
    (action : GivenOptions → List String → Action Nat) : Action Nat := do
  match set.read (arguments.length + 1) arguments with
  | .ok (options, operands) => action options operands
  | .error fault => misuse failure fault.message

/-- A text in quotes, as messages show names. -/
def quote (text : String) : String :=
  if text.toList.contains '\'' then
    if text.toList.any "\"$`\\!".toList.contains then setApart text
    else s!"\"{text}\""
  else s!"'{text}'"
where
  /-- A text in single quotes, its own ones set apart. -/
  setApart (text : String) : String :=
    "'" ++ String.ofList (text.toList.flatMap fun c => if c == '\'' then "'\\''".toList else [c]) ++
      "'"

end Groundwork.Shell
