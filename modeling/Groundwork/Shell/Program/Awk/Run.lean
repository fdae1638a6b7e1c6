import Groundwork.Shell.Program.Awk.Reader
import Groundwork.Shell.Program.Awk.Table
import Groundwork.Shell.Program.Basic

/-!
The state of a run of `awk`: variables and tables, the record with its fields, and what is read and
written.
-/

namespace Groundwork.Shell.Program.Awk

/-- What a name stands for. -/
inductive Slot where
  /-- Nothing yet: it can become either. -/
  | free
  | value (value : Value)
  | table (number : Nat)

/-- Something that is read by the record. -/
structure Stream where
  name : String
  isCommand : Bool
  content : ByteArray
  place : Nat := 0
  /-- What the command ended with. -/
  status : Nat := 0

inductive SinkKind where
  | output
  | errors
  | file
  | command
deriving DecidableEq

/-- Something that is written to. What is held is not there yet: pieces, the last one first, and
how long they are together. -/
structure Sink where
  name : String
  kind : SinkKind
  held : List ByteArray := []
  size : Nat := 0

/-- What a sink holds. -/
def Sink.content (sink : Sink) : ByteArray :=
  sink.held.reverse.foldl (fun content piece => content ++ piece) .empty

/-- The state of a run. -/
structure Run where
  launcher : Launcher
  script : Script
  globals : Std.HashMap String Slot := {}
  /-- The parameters of the function that runs. -/
  locals : Std.HashMap String Slot := {}
  tables : Array Table := #[]
  record : ByteArray := .empty
  fields : Array Value := #[]
  /-- Whether the fields are those of the record, and the record is that of the fields. -/
  divided : Bool := true
  joined : Bool := true
  /-- The argument that is read next, what is read of the one before, and whether one has been
  read at all. -/
  argument : Nat := 1
  input : Option Stream := none
  anyInput : Bool := false
  ended : Bool := false
  streams : List Stream := []
  /-- The sinks, the one used last first. -/
  sinks : List Sink := [{ name := "/dev/stdout", kind := .output }]
  /-- Patterns that were read from texts. -/
  patterns : Std.HashMap ByteArray Pattern := {}
  /-- Rules whose range of records has begun. -/
  begun : List Nat := []
  status : Nat := 0
  seed : Nat := 1
  random : Nat := 1

/-- Why a statement is not followed by the next one. -/
inductive Escape where
  | leave
  | again
  | next
  | nextFile
  | exit
  | give (value : Value)

abbrev Engine := ExceptT Escape (StateT Run Action)

def bytesOf (text : String) : ByteArray := text.toUTF8

def textOf (bytes : ByteArray) : String := Text.decodeLossy bytes

/-! ## Names -/

/-- What a name stands for. -/
def slot (name : String) : Engine Slot := do
  let run ← get
  match run.locals.get? name with
  | some slot => return slot
  | none => return (run.globals.get? name).getD .free

def setSlot (name : String) (slot : Slot) : Engine Unit :=
  modify fun run =>
    if run.locals.contains name then { run with locals := run.locals.insert name slot }
    else { run with globals := run.globals.insert name slot }

/-- The value of a variable of all. -/
def global (name : String) : Engine Value := do
  match (← get).globals.get? name with
  | some (.value value) => return value
  | _ => return .unset

def setGlobal (name : String) (value : Value) : Engine Unit :=
  modify fun run => { run with globals := run.globals.insert name (.value value) }

/-- The text of a variable of all. -/
def globalText (name : String) : Engine ByteArray := do
  match ← global name with
  | .text bytes | .given bytes => return bytes
  | value => return value.toBytes (bytesOf "%.6g")

/-- The text of a value. -/
def toText (value : Value) : Engine ByteArray := do
  match value with
  | .text bytes | .given bytes => return bytes
  | .unset => return .empty
  | .number x => return numberText (← globalText "CONVFMT") x

/-- The text of a value as it is written. -/
def toOutput (value : Value) : Engine ByteArray := do
  match value with
  | .number x => return numberText (← globalText "OFMT") x
  | value => toText value

/-! ## Tables -/

/-- The number of the table that a name stands for. A name that stands for nothing gets one. -/
def tableOf (name : String) : Engine Nat := do
  match ← slot name with
  | .table number => return number
  | _ =>
      let number := (← get).tables.size
      modify fun run => { run with tables := run.tables.push {} }
      setSlot name (.table number)
      return number

def changeTable (number : Nat) (change : Table → Table) : Engine Unit :=
  modify fun run => { run with tables := run.tables.modify number change }

def tableAt (number : Nat) : Engine Table := return ((← get).tables[number]?).getD {}

/-- A value as a key. -/
def keyOfValue (value : Value) : Engine Table.Key := do
  match value with
  | .number x =>
      match countOf? x with
      | some n =>
          if n.natAbs < 2147483648 then return .number n else return .text (Table.keyOf n)
      | none => return .text (← toText value)
  | value => return .text (← toText value)

/-! ## Output -/

/-- The bytes that are held at most for a file. -/
def holdLimit : Nat := 4096

/-- Writes what a sink holds, if it is no command. -/
def pour (sink : Sink) : Engine Sink := do
  match sink.kind with
  | .command => return sink
  | .output => emit sink.content
  | .errors => emitTo 2 sink.content
  | .file => if 0 < sink.size then let _ ← writeFile sink.name true sink.content
  return { sink with held := [], size := 0 }

/-- Writes all that is held. -/
def pourAll : Engine Unit := do
  let sinks ← (← get).sinks.mapM pour
  modify fun run => { run with sinks }

/-- Runs a command with an input if one is given; the status is what it ends with. -/
def runCommand (text : String) (input : Option ByteArray) : Engine Nat := do
  let launcher := (← get).launcher
  let action : Action (Except LaunchFault Ending) := keepingChannels do
    if let some bytes := input then
      let pipe ← openBytes bytes
      setChannel 0 (some pipe)
    launcher.start false "/bin/sh" ["-c", text]
  match ← action with
  | .ok (.exit code) => return code
  | .ok (.killed signal) => return 256 + signal
  | .error fault => return fault.status

/-- Ends a sink. The value is what its command ends with. -/
def closeSink (sink : Sink) : Engine Nat := do
  match sink.kind with
  | .command => runCommand sink.name (some sink.content)
  | _ =>
      let _ ← pour sink
      return 0

/-- Ends all sinks, the one used last first. -/
def closeAll : Engine Unit := do
  for sink in (← get).sinks do
    let _ ← closeSink sink
  modify fun run => { run with sinks := [] }

/-! ## Faults -/

/-- Where a run is, as messages tell it. -/
def whereabouts : Engine String := do
  let file := textOf (← globalText "FILENAME")
  let inFile := textOf (← globalText "FNR")
  let number := textOf (← globalText "NR")
  return s!"\tFILENAME=\x22{file}\x22 FNR={inFile} NR={number}\n"

/-- Ends the run with a message. -/
def abandon {α : Type} (message : String) : Engine α := do
  report message
  closeAll
  throwThe Halt (.exit 2)

/-- Ends the run with a message that tells where it was. -/
def collapse {α : Type} (message : String) : Engine α := do
  report s!"run time error: {message}"
  say 2 (← whereabouts)
  closeAll
  throwThe Halt (.exit 2)

/-! ## Writing -/

/-- Adds bytes to what a sink holds. -/
def fill (sink : Sink) (bytes : ByteArray) : Engine Sink := do
  let sink := { sink with held := bytes :: sink.held, size := sink.size + bytes.size }
  if sink.kind == .errors || (sink.kind != .command && holdLimit < sink.size) then pour sink
  else return sink

/-- Writes to the output. -/
def put (bytes : ByteArray) : Engine Unit := do
  let run ← get
  let sinks ← run.sinks.mapM fun sink =>
    if sink.kind == .output then fill sink bytes else pure sink
  modify fun run => { run with sinks }

/-- The sink of a name, which is opened if it is not yet. -/
def sinkOf (kind : TargetKind) (name : String) : Engine Sink := do
  let wanted (sink : Sink) : Bool :=
    sink.name == name && (sink.kind == .command) == (kind == .command)
  match (← get).sinks.find? wanted with
  | some sink => return sink
  | none =>
      match kind with
      | .command =>
          pourAll
          return { name, kind := .command }
      | kind =>
          if name == "-" then return { name := "/dev/stdout", kind := .output }
          else if name == "/dev/stderr" then return { name, kind := .errors }
          else
            let fault? ← if name.isEmpty then pure (some FileFault.notFound)
              else writeFile name (kind == .fileEnd) .empty
            match fault? with
            | some fault => abandon s!"cannot open \x22{name}\x22 for output ({reason fault})"
            | none => return { name, kind := .file }

/-- Writes to a sink, which becomes the one used last. -/
def putTo (kind : TargetKind) (name : String) (bytes : ByteArray) : Engine Unit := do
  let sink ← sinkOf kind name
  let filled ← fill sink bytes
  modify fun run =>
    { run with
      sinks := filled :: run.sinks.filter fun other =>
        other.name != sink.name || other.kind != sink.kind }

/-! ## Fields -/

/-- How texts are set apart. -/
inductive Separator where
  | blanks
  | letters
  | byte (b : UInt8)
  | pattern (pattern : Pattern)

/-- The pattern that a text spells. -/
def patternOf (source : ByteArray) : Engine Pattern := do
  match (← get).patterns.get? source with
  | some pattern => return pattern
  | none =>
      match readPattern source with
      | .ok pattern =>
          modify fun run => { run with patterns := run.patterns.insert source pattern }
          return pattern
      | .error message =>
          collapse s!"regular expression compile failed ({message})\n{textOf source}"

/-- The separator that a text stands for. -/
def separatorOf (text : ByteArray) : Engine Separator := do
  match text.data.toList with
  | [] => return .letters
  | [32] => return .blanks
  | [b] => return .byte b
  | _ => return .pattern (← patternOf text)

/-- The parts between blanks; `fuel` bounds them. -/
def wordsFrom (text : ByteArray) (fuel place : Nat) (before : Array ByteArray)
    : Array ByteArray :=
  match fuel with
  | 0 => before
  | fuel + 1 =>
      let start := skipSpaces text text.size place
      if text.size ≤ start then before
      else
        let stop := wordEnd text text.size start
        wordsFrom text fuel stop (before.push (text.extract start stop))
where
  wordEnd (text : ByteArray) (fuel place : Nat) : Nat :=
    match fuel with
    | 0 => place
    | fuel + 1 =>
        if place < text.size && !isSpace (byteAt text place) then wordEnd text fuel (place + 1)
        else place

/-- The parts between bytes of a kind; `fuel` bounds them. -/
def partsAt (marks : UInt8 → Bool) (text : ByteArray) (fuel start place : Nat)
    (before : Array ByteArray) : Array ByteArray :=
  match fuel with
  | 0 => before.push (text.extract start text.size)
  | fuel + 1 =>
      if text.size ≤ place then before.push (text.extract start text.size)
      else if marks (byteAt text place) then
        partsAt marks text fuel (place + 1) (place + 1) (before.push (text.extract start place))
      else partsAt marks text fuel start (place + 1) before

/-- The parts between matches of a pattern, which are not empty; `fuel` bounds them. -/
def partsBetween (pattern : Expression) (text : ByteArray) (fuel start place : Nat)
    (before : Array ByteArray) : Array ByteArray :=
  match fuel with
  | 0 => before.push (text.extract start text.size)
  | fuel + 1 =>
      match pattern.find? {} text place with
      | some found =>
          if found.start == found.stop then
            if text.size ≤ found.stop then before.push (text.extract start text.size)
            else partsBetween pattern text fuel start (found.stop + 1) before
          else
            partsBetween pattern text fuel found.stop found.stop
              (before.push (text.extract start found.start))
      | none => before.push (text.extract start text.size)

/-- The parts of a text. -/
def Separator.split (separator : Separator) (lines : Bool) (text : ByteArray) : Array ByteArray :=
  if text.isEmpty then #[]
  else
    match separator with
    | .blanks => wordsFrom text (text.size + 1) 0 #[]
    | .letters => (text.data.map fun b => ⟨#[b]⟩)
    | .byte b => partsAt (fun c => c == b || (lines && c == 10)) text (text.size + 1) 0 0 #[]
    | .pattern found =>
        let expression := if lines then .choice found.expression (.byte 10)
          else found.expression
        partsBetween expression text (2 * text.size + 2) 0 0 #[]

/-- Lets the fields be those of the record. -/
def divide : Engine Unit := do
  let run ← get
  if !run.divided then
    let separator ← separatorOf (← globalText "FS")
    let lines := (← globalText "RS").isEmpty
    let fields := (separator.split lines run.record).map Value.given
    modify fun run =>
      { run with
        fields
        divided := true
        globals := run.globals.insert "NF" (.value (.number (Float.ofNat fields.size))) }

/-- Lets the record be that of the fields. -/
def joinFields : Engine Unit := do
  let run ← get
  if !run.joined then
    let mark ← globalText "OFS"
    let mut record := ByteArray.empty
    let mut first := true
    for field in run.fields do
      let text ← toText field
      record := if first then text else record ++ mark ++ text
      first := false
    modify fun run => { run with record, joined := true }

/-- Sets the record. -/
def setRecord (record : ByteArray) : Engine Unit :=
  modify fun run => { run with record, divided := false, joined := true, fields := #[] }

/-- The value of a field. -/
def fieldAt (index : Nat) : Engine Value := do
  if index == 0 then
    joinFields
    return .given (← get).record
  else
    divide
    return ((← get).fields[index - 1]?).getD .unset

/-- Sets how many fields there are. -/
def setFieldCount (count : Nat) : Engine Unit := do
  divide
  modify fun run =>
    { run with
      fields := (run.fields.extract 0 count) ++
        Array.replicate (count - run.fields.size) (Value.text .empty)
      joined := false
      globals := run.globals.insert "NF" (.value (.number (Float.ofNat count))) }

/-- Sets a field. -/
def setField (index : Nat) (value : Value) : Engine Unit := do
  if index == 0 then setRecord (← toText value)
  else
    divide
    if (← get).fields.size < index then setFieldCount index
    modify fun run =>
      { run with fields := run.fields.setIfInBounds (index - 1) value, joined := false }

/-- The number of a field. -/
def fieldIndex (value : Value) : Engine Nat := do
  let x := value.toNumber
  if x < 0.0 then
    let shown := textOf (numberText (bytesOf "%.6g") x)
    collapse s!"negative field index ${shown}"
  else return x.toUInt64.toNat

/-- Sets a variable. -/
def setVariable (name : String) (value : Value) : Engine Unit := do
  if name == "NF" && !(← get).locals.contains name then
    let x := value.toNumber
    if x < 0.0 then collapse "negative value assigned to NF"
    else setFieldCount x.toUInt64.toNat
  else
    if name == "FS" then divide
    setSlot name (.value value)

/-! ## Input -/

/-- How records end. -/
inductive RecordEnd where
  | byte (b : UInt8)
  | paragraph
  | pattern (pattern : Pattern)

def recordEndOf : Engine RecordEnd := do
  let text ← globalText "RS"
  match text.data.toList with
  | [] => return .paragraph
  | [b] => return .byte b
  | _ => return .pattern (← patternOf text)

/-- The place after bytes of a kind; `fuel` bounds them. -/
def placeAfter (marks : UInt8 → Bool) (content : ByteArray) (fuel place : Nat) : Nat :=
  match fuel with
  | 0 => place
  | fuel + 1 =>
      if place < content.size && marks (byteAt content place) then
        placeAfter marks content fuel (place + 1)
      else place

/-- The place of an empty line or of the end; `fuel` bounds it. -/
def emptyLineFrom (content : ByteArray) (fuel place : Nat) : Nat :=
  match fuel with
  | 0 => content.size
  | fuel + 1 =>
      if content.size ≤ place then content.size
      else if byteAt content place == 10 &&
          (content.size ≤ place + 1 || byteAt content (place + 1) == 10) then place
      else emptyLineFrom content fuel (place + 1)

/-- The next record of a stream, and the stream after it. -/
def Stream.next? (stream : Stream) (ending : RecordEnd) : Option (ByteArray × Stream) :=
  let content := stream.content
  if content.size ≤ stream.place then none
  else
    match ending with
    | .byte b =>
        let (record, _) := splitAtByte b content stream.place
        some (record, { stream with place := stream.place + record.size + 1 })
    | .paragraph =>
        let start := placeAfter (· == 10) content content.size stream.place
        if content.size ≤ start then none
        else
          let stop := emptyLineFrom content content.size start
          some (content.extract start stop,
            { stream with place := placeAfter (· == 10) content content.size stop })
    | .pattern pattern =>
        match pattern.expression.find? {} content stream.place with
        | some found =>
            if found.start < found.stop then
              some (content.extract stream.place found.start, { stream with place := found.stop })
            else
              some (content.extract stream.place content.size,
                { stream with place := content.size })
        | none =>
            let stop := if byteAt content (content.size - 1) == 10 then content.size - 1
              else content.size
            some (content.extract stream.place stop, { stream with place := content.size })

/-- The parts of an argument that sets a variable. -/
def assignmentOf? (argument : String) : Option (String × String) :=
  let bytes := argument.toList
  let name := bytes.takeWhile fun c => c.isAlphanum || c == '_'
  match bytes.drop name.length with
  | '=' :: value =>
      if name.isEmpty || name.head?.any Char.isDigit then none
      else some (String.ofList name, String.ofList value)
  | _ => none

/-- A text with its escapes, as what was read. -/
def givenText (text : String) : Value :=
  .given (Lexing.textOf text.toUTF8.data.toList)

/-- Opens what is read next: the files that arguments name, or the input channel if there are
none. Arguments can set variables as well. `fuel` bounds the arguments. -/
def openNext (fuel : Nat) : Engine Bool :=
  match fuel with
  | 0 => return false
  | fuel + 1 => do
      let run ← get
      let count := (← global "ARGC").toNumber.toUInt64.toNat
      if run.ended then return false
      else if count ≤ run.argument then
        if run.anyInput then
          modify fun run => { run with ended := true }
          return false
        else openFile "-"
      else
        modify fun run => { run with argument := run.argument + 1 }
        let number ← tableOf "ARGV"
        let name := textOf (← toText ((← tableAt number).get (.number run.argument)))
        if name.isEmpty then openNext fuel
        else
          match assignmentOf? name with
          | some (assigned, value) =>
              setVariable assigned (givenText value)
              openNext fuel
          | none => openFile name
where
  /-- Opens a file for reading. -/
  openFile (name : String) : Engine Bool := do
    match ← operandContent name with
    | .ok content =>
        modify fun run =>
          { run with input := some ⟨name, false, content, 0, 0⟩, anyInput := true }
        setGlobal "FILENAME" (.text (bytesOf name))
        setGlobal "FNR" (.number 0.0)
        return true
    | .error .isDirectory => abandon "read error (Is a directory)"
    | .error fault => abandon s!"cannot open \x22{name}\x22 ({reason fault})"

/-- Adds one to the numbers of records. -/
def countRecord : Engine Unit := do
  setGlobal "NR" (.number ((← global "NR").toNumber + 1.0))
  setGlobal "FNR" (.number ((← global "FNR").toNumber + 1.0))

/-- The next record of the arguments; `fuel` bounds the files. -/
def nextRecord (fuel : Nat) : Engine (Option ByteArray) :=
  match fuel with
  | 0 => return none
  | fuel + 1 => do
      match (← get).input with
      | none =>
          let opened ← openNext 100000
          if opened then nextRecord fuel else return none
      | some stream =>
          match stream.next? (← recordEndOf) with
          | some (record, stream) =>
              modify fun run => { run with input := some stream }
              countRecord
              return some record
          | none =>
              modify fun run => { run with input := none }
              nextRecord fuel

/-- The stream of a file or a command, which is opened if it is not yet. -/
def streamOf? (isCommand : Bool) (name : String) : Engine (Option Stream) := do
  let wanted (stream : Stream) : Bool := stream.name == name && stream.isCommand == isCommand
  match (← get).streams.find? wanted with
  | some stream => return some stream
  | none =>
      if isCommand then
        pourAll
        let pipe ← openBytes .empty
        let channels := (← getThe Machine).channels
        setChannel 1 (some pipe)
        let status ← runCommand name none
        modifyThe Machine fun machine => { machine with channels }
        let content := match (← getThe Machine).world.opened.get? pipe with
          | some (.pipe pieces _) => (Machine.joinPieces pieces).1
          | _ => .empty
        return some ⟨name, true, content, 0, status⟩
      else
        match ← operandContent name with
        | .ok content => return some ⟨name, false, content, 0, 0⟩
        | .error _ => return none

/-- The next record of a file or a command: nothing if it cannot be read, and no record at its
end. -/
def readFrom (isCommand : Bool) (name : String) : Engine (Option (Option ByteArray)) := do
  match ← streamOf? isCommand name with
  | none => return none
  | some stream =>
      let found := stream.next? (← recordEndOf)
      let stream := (found.map (·.2)).getD stream
      modify fun run =>
        { run with
          streams := stream :: run.streams.filter fun other =>
            other.name != name || other.isCommand != isCommand }
      return some (found.map (·.1))

/-- Closes all that has a name; the value is what its command ended with. -/
def closeNamed (name : String) : Engine Int := do
  let run ← get
  let mut result : Int := -1
  for stream in run.streams do
    if stream.name == name then result := stream.status
  modify fun run => { run with streams := run.streams.filter (·.name != name) }
  for sink in run.sinks do
    if sink.name == name && sink.kind != .output then
      if sink.kind == .command then pourAll
      let status ← closeSink sink
      result := status
      modify fun run =>
        { run with
          sinks := run.sinks.filter fun other => other.name != name || other.kind != sink.kind }
  return result

end Groundwork.Shell.Program.Awk
