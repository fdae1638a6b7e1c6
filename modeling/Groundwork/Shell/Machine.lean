import Groundwork.Files.Basic
import Groundwork.Shell.Signal
import Groundwork.Shell.Syntax
import Groundwork.Text.Search
import Groundwork.Text.Utf8

/-!
What a command line runs on: a world of files, open channels and time that all processes share, and
the state of a process of its own. Relative paths start at the working directory, which is the base
of the tree.
-/

namespace Groundwork.Shell

/-! ## The world -/

/-- Something that is open. What is written to nothing is lost, and nothing is read from it. -/
inductive Opened where
  | nothing
  /-- Zeros without an end. -/
  | zeros
  /-- Pieces of bytes, the last one first, each with the time at which it was written, and the time
  of the end. -/
  | pipe (pieces : List (Nat × ByteArray)) (ends : Nat)
  /-- A file from a place on, or at its end. -/
  | file (location : Location) (place : Nat) (appends : Bool)

/-- What all processes share. -/
structure World where
  files : Files
  /-- Links from one location to a path; they are not part of the tree. -/
  links : Dictionary Location String := []
  /-- The rights of files and directories for which others than the usual ones were set. -/
  rights : Dictionary Location Nat := []
  opened : Dictionary Nat Opened := []
  nextOpened : Nat := 3
  /-- How many ticks have passed. -/
  clock : Nat := 0
  /-- When the first process is ended, whatever it waits for. -/
  deadline : Option Nat := none
  processes : Nat := 1
  /-- Signals that processes have not noticed yet. -/
  pending : List (Nat × Signal) := []

/-- What was not written after a moment. -/
def World.forgetAfter (world : World) (moment : Nat) : World :=
  { world with
    opened := world.opened.map fun (number, opened) =>
      match opened with
      | .pipe pieces ends => (number, .pipe (pieces.filter (·.1 ≤ moment)) ends)
      | opened => (number, opened) }

/-- How many ticks a millisecond has. -/
def ticks : Nat := 1000

/-- How a process ends. -/
inductive Ending where
  | exit (code : Nat)
  | killed (signal : Signal)
deriving Repr, DecidableEq

/-- What a shell says of the way in which a process ended. -/
def Ending.status : Ending → Nat
  | .exit code => code
  | .killed signal => 128 + signal

/-- A process that was started and not waited for, with the time of its end. -/
structure Job where
  process : Nat
  ends : Nat
  ending : Ending

/-! ## Processes -/

/-- A variable. It can have properties without being set. -/
structure Binding where
  value : Option String := none
  exported : Bool := false
  fixed : Bool := false

/-- The world and the state of the process that runs. -/
structure Machine where
  world : World
  /-- The process that runs, and the one that stands for the shell. -/
  process : Nat := 1
  shell : Nat := 1
  /-- The processes that wait for this one, the nearest first. -/
  ancestors : List Nat := []
  channels : Dictionary Nat Nat := [(0, 0), (1, 1), (2, 2)]
  bindings : Dictionary String Binding := []
  functions : Dictionary String (Nat × Command) := []
  aliases : Dictionary String String := []
  /-- The name under which the shell or program was started. -/
  name : String := "sh"
  program : String := "sh"
  /-- The variables that the program was given. -/
  given : List (String × String) := []
  /-- The names of programs that have been found before. -/
  hashed : List String := []
  /-- The command that messages are about. -/
  subject : Option String := none
  /-- Whether messages are worded as `bash` words them. -/
  verbose : Bool := false
  parameters : List String := []
  options : List Char := []
  status : Nat := 0
  /-- The status of a command whose output was taken into this one. -/
  substituted : Nat := 0
  /-- The number of the line that is run, and of the line where the function begins. -/
  line : Nat := 1
  functionLine : Nat := 0
  /-- How many loops are around the command. -/
  loops : Nat := 0
  /-- The functions around the command have variables of their own: what these hid. -/
  hidden : List (List (String × Option Binding)) := []
  traps : Dictionary Signal String := []
  jobs : List Job := []
  lastJob : Option Nat := none
  /-- The path of the working directory as it was gone to. -/
  here : String := "/"
  /-- The rights that new files do not get. -/
  mask : Nat := 18
  /-- How many characters of the argument were read in which options are looked for. -/
  optionOffset : Nat := 0
  /-- Whether the words of a trace are expanded. -/
  tracing : Bool := false
  /-- When the process is ended, with all that it starts, and by which signal. -/
  limit : Option (Nat × Signal) := none

/-- Why a run does not go on with the next command. -/
inductive Halt where
  | exit (code : Nat)
  /-- A fault of which the shell has told already. -/
  | failed
  | killed (signal : Signal)
  /-- The run has no end in sight, or its time is over. -/
  | late
  /-- Leaves loops, the outermost of them with its next round if `again`. -/
  | leave (levels : Nat) (again : Bool)
  /-- Leaves a function or a script. -/
  | back (code : Nat)
deriving Repr, DecidableEq

/-- Something that a process does. -/
abbrev Action := ExceptT Halt (StateM Machine)

/-! ## Channels -/

namespace Machine

/-- What a channel leads to. -/
def opened? (machine : Machine) (channel : Nat) : Option (Nat × Opened) := do
  let number ← machine.channels.get? channel
  let opened ← machine.world.opened.get? number
  return (number, opened)

/-- Sets what is open under a number. -/
def setOpened (machine : Machine) (number : Nat) (opened : Opened) : Machine :=
  { machine with
    world := { machine.world with opened := machine.world.opened.insert number opened } }

/-- Adds a piece at its time. -/
def addPiece (time : Nat) (bytes : ByteArray) : List (Nat × ByteArray) → List (Nat × ByteArray)
  | [] => [(time, bytes)]
  | (other, piece) :: rest =>
      if other ≤ time then (time, bytes) :: (other, piece) :: rest
      else (other, piece) :: addPiece time bytes rest

/-- Bytes with others in their place from some place on. -/
def overwrite (content bytes : ByteArray) (place : Nat) : ByteArray :=
  let start := content.extract 0 place
  let gap : ByteArray := ⟨(List.replicate (place - start.size) (0 : UInt8)).toArray⟩
  start ++ gap ++ bytes ++ content.extract (place + bytes.size) content.size

/-- Adds bytes to a channel. -/
def write (machine : Machine) (channel : Nat) (bytes : ByteArray) : Machine :=
  match machine.opened? channel with
  | some (number, .pipe pieces ends) =>
      if bytes.isEmpty then machine
      else machine.setOpened number (.pipe (addPiece machine.world.clock bytes pieces) ends)
  | some (number, .file location place appends) =>
      match machine.world.files.node? location with
      | some (.file content executable) =>
          let place := if appends then content.size else place
          let written := if place == content.size then content ++ bytes
            else overwrite content bytes place
          let files := machine.world.files.setNode location (.file written executable)
          { machine with world := { machine.world with files } }.setOpened number
            (.file location (place + bytes.size) appends)
      | _ => machine
  | _ => machine

/-- The bytes of pieces, and the time of the last of them. -/
def joinPieces (pieces : List (Nat × ByteArray)) : ByteArray × Nat :=
  (pieces.reverse.foldl (fun bytes piece => bytes ++ piece.2) .empty,
    (pieces.head?.map (·.1)).getD 0)

/-- The path of a location as text. -/
def locationText (location : Location) : String := "/" ++ "/".intercalate location

def directory (machine : Machine) : String := locationText machine.world.files.base

end Machine

def files : Action Files := return (← getThe Machine).world.files

/-- Writes bytes to a channel. -/
def emitTo (channel : Nat) (bytes : ByteArray) : Action Unit :=
  modifyThe Machine (·.write channel bytes)

/-- Writes text to a channel. -/
def say (channel : Nat) (text : String) : Action Unit := emitTo channel text.toUTF8

/-- Writes bytes to the output channel. -/
def emit (bytes : ByteArray) : Action Unit := emitTo 1 bytes

/-- A message of the shell itself. -/
def complain (message : String) : Action Unit := do
  let machine ← getThe Machine
  let mark := if machine.verbose then "line " else ""
  let subject := (machine.subject.map (· ++ ": ")).getD ""
  say 2 s!"{machine.name}: {mark}{machine.line}: {subject}{message}\n"

/-- A message of the shell after which it does not go on. -/
def giveUp {α : Type} (message : String) : Action α := do
  complain message
  throw .failed

/-- Lets time come to a moment, if it has not yet. -/
def waitUntil (moment : Nat) : Action Unit :=
  modifyThe Machine fun machine =>
    { machine with world := { machine.world with clock := max machine.world.clock moment } }

/-- Ends the process if its time is over. -/
def checkTime : Action Unit := do
  let machine ← getThe Machine
  match machine.limit with
  | some (moment, signal) =>
      if moment ≤ machine.world.clock then
        modifyThe Machine fun machine =>
          { machine with world := { machine.world with clock := moment } }
        throw (.killed signal)
  | none => pure ()
  if machine.process == 1 && machine.world.deadline.any (· ≤ machine.world.clock) then throw .late

/-- Lets time pass. -/
def wait (milliseconds : Nat) : Action Unit := do
  waitUntil ((← getThe Machine).world.clock + ticks * milliseconds)
  checkTime

/-- All that is left on a channel. -/
def readAll (channel : Nat) : Action ByteArray := do
  let machine ← getThe Machine
  match machine.opened? channel with
  | some (number, .pipe pieces ends) =>
      modifyThe Machine (·.setOpened number (.pipe [] ends))
      waitUntil ends
      return (Machine.joinPieces pieces).1
  | some (number, .file location place appends) =>
      match machine.world.files.node? location with
      | some (.file content _) =>
          modifyThe Machine (·.setOpened number (.file location content.size appends))
          return content.extract place content.size
      | _ => return .empty
  | _ => return .empty

/-- The bytes before a mark, and whether the mark was there. -/
def splitAtByte (mark : UInt8) (bytes : ByteArray) (start : Nat) : ByteArray × Bool :=
  let fuel := bytes.size - start
  let rec find (fuel i : Nat) : Nat :=
    match fuel with
    | 0 => i
    | fuel + 1 => if bytes.get! i == mark then i else find fuel (i + 1)
  let place := find fuel start
  (bytes.extract start place, place < bytes.size)

/-- The next line on a channel, and whether it has an end. -/
def readLineOf (channel : Nat) : Action (ByteArray × Bool) := do
  let machine ← getThe Machine
  match machine.opened? channel with
  | some (number, .pipe pieces ends) =>
      let (bytes, _) := Machine.joinPieces pieces
      let (line, ended) := splitAtByte 10 bytes 0
      let rest := bytes.extract (line.size + 1) bytes.size
      let moment := if ended then momentOf (line.size + 1) pieces.reverse else ends
      modifyThe Machine (·.setOpened number
        (.pipe (if rest.isEmpty then [] else keepAfter (line.size + 1) pieces.reverse).reverse
          ends))
      waitUntil moment
      return (line, ended)
  | some (number, .file location place appends) =>
      match machine.world.files.node? location with
      | some (.file content _) =>
          let (line, ended) := splitAtByte 10 content place
          modifyThe Machine (·.setOpened number
            (.file location (place + line.size + (if ended then 1 else 0)) appends))
          return (line, ended)
      | _ => return (.empty, false)
  | _ => return (.empty, false)
where
  /-- The time at which so many bytes were there. -/
  momentOf (count : Nat) : List (Nat × ByteArray) → Nat
    | [] => 0
    | (time, piece) :: rest =>
        if count ≤ piece.size then time else momentOf (count - piece.size) rest
  /-- The pieces after so many bytes. -/
  keepAfter (count : Nat) : List (Nat × ByteArray) → List (Nat × ByteArray)
    | [] => []
    | (time, piece) :: rest =>
        if count < piece.size then (time, piece.extract count piece.size) :: rest
        else keepAfter (count - piece.size) rest

/-- Opens something under a new number. -/
def openNew (opened : Opened) : Action Nat := do
  let world := (← getThe Machine).world
  modifyThe Machine fun machine =>
    { machine with world := { world with
        nextOpened := world.nextOpened + 1
        opened := world.opened.insert world.nextOpened opened } }
  return world.nextOpened

/-- Opens a pipe that holds some bytes. -/
def openBytes (bytes : ByteArray) : Action Nat := do
  let clock := (← getThe Machine).world.clock
  openNew (.pipe (if bytes.isEmpty then [] else [(clock, bytes)]) clock)

/-- Ends a pipe at this moment. -/
def closePipe (number : Nat) : Action Unit :=
  modifyThe Machine fun machine =>
    match machine.world.opened.get? number with
    | some (.pipe pieces ends) =>
        machine.setOpened number (.pipe pieces (max ends machine.world.clock))
    | _ => machine

/-- Sets where a channel leads; without a number it is closed. -/
def setChannel (channel : Nat) (number : Option Nat) : Action Unit :=
  modifyThe Machine fun machine =>
    { machine with
      channels := match number with
        | some number => machine.channels.insert channel number
        | none => machine.channels.erase channel }

/-- Does something with channels that lead where they led before once it is done. -/
def keepingChannels {α : Type} (action : Action α) : Action α := do
  let channels := (← getThe Machine).channels
  let restore : Action Unit := modifyThe Machine fun machine => { machine with channels }
  let result ← tryCatch action fun halt => do
    restore
    throw halt
  restore
  return result

def setStatus (status : Nat) : Action Unit :=
  modifyThe Machine fun machine => { machine with status }

/-! ## Variables -/

namespace Machine

/-- The value of a variable. -/
def value? (machine : Machine) (name : String) : Option String :=
  (machine.bindings.get? name).bind (·.value)

/-- Whether an option of the shell is set. -/
def has (machine : Machine) (letter : Char) : Bool := machine.options.contains letter

/-- The characters at which expansions are split. -/
def separators (machine : Machine) : List Char :=
  ((machine.value? "IFS").map String.toList).getD [' ', '\t', '\n']

/-- Gives a variable a value, with its properties. -/
def bind (machine : Machine) (name value : String) : Machine :=
  let binding := (machine.bindings.get? name).getD {}
  let machine :=
    { machine with
      bindings := machine.bindings.insert name
        { binding with
          value := some value
          exported := binding.exported || machine.has 'a' } }
  if name == "OPTIND" then { machine with optionOffset := 0 } else machine

/-- The variables that programs are given. -/
def environment (machine : Machine) : List (String × String) :=
  machine.bindings.filterMap fun (name, binding) =>
    if binding.exported then binding.value.map (name, ·) else none

end Machine

/-- Gives a variable a value, unless its value is fixed. -/
def setVariable (name value : String) : Action Unit := do
  let machine ← getThe Machine
  if (machine.bindings.get? name).any (·.fixed) then giveUp s!"{name}: is read only"
  else modifyThe Machine (·.bind name value)

/-- Changes the properties of a variable. -/
def changeBinding (name : String) (change : Binding → Binding) : Action Unit :=
  modifyThe Machine fun machine =>
    { machine with
      bindings := machine.bindings.insert name (change ((machine.bindings.get? name).getD {})) }

/-! ## Links -/

namespace Machine

/-- The most links that are followed on a path. -/
def linkLimit : Nat := 40

/-- A path without the links on its way, if there is an end to them; with `follow` a link at its end
is followed as well. `fuel` bounds the segments, and `left` the links. -/
def resolveFrom (machine : Machine) (follow : Bool) (fuel left : Nat) (location : Location)
    (segments : List String) : Option (List String) :=
  match fuel with
  | 0 => none
  | fuel + 1 =>
      match segments with
      | [] => some ("" :: location)
      | segment :: rest =>
          if segment.isEmpty || segment == "." then
            if rest.isEmpty then some ("" :: (location ++ [segment]))
            else machine.resolveFrom follow fuel left location rest
          else if segment == ".." then machine.resolveFrom follow fuel left location.dropLast rest
          else
            match machine.world.links.get? (location ++ [segment]) with
            | some target =>
                if rest.isEmpty && !follow then some ("" :: (location ++ [segment]))
                else if left == 0 then none
                else
                  let parts := (Text.splitOn '/' target.toList).map String.ofList
                  machine.resolveFrom follow fuel (left - 1)
                    (if target.toList.head? == some '/' then [] else location) (parts ++ rest)
            | none =>
                match machine.world.files.node? (location ++ [segment]) with
                | some .directory =>
                    machine.resolveFrom follow fuel left (location ++ [segment]) rest
                | _ => some ("" :: (location ++ segment :: rest))

/-- The path that a text stands for, with links followed, if there is an end to them. -/
def path? (machine : Machine) (text : String) (follow : Bool) : Option Path :=
  if machine.world.links.isEmpty || text.isEmpty then some (Path.ofString text)
  else
    let segments := (Text.splitOn '/' text.toList).map String.ofList
    let start := if text.toList.head? == some '/' then [] else machine.world.files.base
    (machine.resolveFrom follow (64 * (segments.length + linkLimit)) linkLimit start segments).map
      fun parts => Path.ofString ("/".intercalate parts)

/-- The path that a text stands for, with links followed. -/
def path (machine : Machine) (text : String) (follow : Bool := true) : Path :=
  (machine.path? text follow).getD (Path.ofString "")

/-- Where a text leads to. -/
def place (machine : Machine) (text : String) (follow : Bool := true) : Except FileFault Place :=
  match machine.path? text follow with
  | some path => machine.world.files.place path
  | none => .error .loop

/-- The content of the file that a text leads to. -/
def content (machine : Machine) (text : String) : Except FileFault ByteArray :=
  match machine.path? text true with
  | some path => machine.world.files.read path
  | none => .error .loop

/-- The link at the end of a path, with its location. -/
def link? (machine : Machine) (text : String) : Option (Location × String) :=
  if machine.world.links.isEmpty then none
  else
    let path := machine.path text false
    (machine.world.links.get? path.tail).map (path.tail, ·)

end Machine

/-- The path that a text stands for. -/
def pathOf (text : String) : Action Path := return (← getThe Machine).path text

end Groundwork.Shell
