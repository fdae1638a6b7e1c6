import Groundwork.Shell.Program.Entry
import Groundwork.Shell.Program.Sed.Reader

/-!
The program `sed`, which edits streams of lines by scripts.
-/

namespace Groundwork.Shell.Program.Sed

/-! ## The state of a run -/

/-- A line without its end, and whether it has one. -/
structure Space where
  bytes : ByteArray := .empty
  ended : Bool := true

/-- What is written once the line is done. -/
inductive Queued where
  | text (bytes : ByteArray)
  | file (name : String)

/-- Where a command is with regard to its range of lines. -/
inductive Phase where
  | before
  /-- Inside, up to a line if its number is known. -/
  | inside (stop : Option Nat) (lenient : Bool)
  | past
deriving Repr, DecidableEq

/-- What holds for a whole run. -/
structure Settings where
  script : Script
  quiet : Bool
  /-- Each file is a stream of its own. -/
  separate : Bool
  /-- Files are replaced by what becomes of them, and what is added to the names of the old ones. -/
  inPlace : Option String
  mark : UInt8
  width : Nat
  launcher : Launcher

/-- The state of a run. -/
structure Run where
  /-- The files to come, the lines to come of the one that is read, and its name. -/
  files : List String
  lines : List Space := []
  file : String := "-"
  opened : Bool := false
  number : Nat := 0
  space : Space := {}
  held : Space := {}
  queue : List Queued := []
  replaced : Bool := false
  pattern : Option Pattern := none
  phases : Array Phase
  /-- The lines to come of files that are read by the line. -/
  readers : List (String × List Space) := []
  /-- What takes the place of the file that is read. -/
  target : ByteArray := .empty
  /-- Whether the last line written to an output had no end; no name means the main output. -/
  unended : List (Option String) := []
  failed : Bool := false

abbrev Engine := StateT Run Action

/-- Ends the run with a message. -/
def abandon {α : Type} (status : Nat) (message : String) : Engine α := do
  report message
  throw (.exit status)

/-! ## Output -/

/-- Writes to the main output or to a file. -/
def send (settings : Settings) (name : Option String) (bytes : ByteArray) : Engine Unit := do
  match name with
  | none =>
      if settings.inPlace.isSome then
        modify fun run => { run with target := run.target ++ bytes }
      else emit bytes
  | some name =>
      let _ ← writeFile name true bytes

/-- Ends the last line of an output if it has no end yet. -/
def endLine (settings : Settings) (name : Option String) : Engine Unit := do
  if (← get).unended.contains name then
    modify fun run => { run with unended := run.unended.filter (· != name) }
    send settings name (ofBytes [settings.mark])

/-- Writes bytes on lines of their own. -/
def put (settings : Settings) (bytes : ByteArray) : Engine Unit := do
  endLine settings none
  send settings none bytes

/-- Writes a line. -/
def putLine (settings : Settings) (name : Option String) (line : Space) : Engine Unit := do
  endLine settings name
  send settings name (if line.ended then line.bytes.push settings.mark else line.bytes)
  if !line.ended then modify fun run => { run with unended := name :: run.unended }

/-! ## Input -/

/-- The lines of a content. -/
def spacesOf (mark : UInt8) (content : ByteArray) : List Space :=
  let (lines, ended) := splitLines mark content
  let count := lines.length
  lines.zipIdx.map fun (line, i) => ⟨ofBytes line, ended || i + 1 < count⟩

/-- The lines of a file, if it can be read. -/
def linesOf? (settings : Settings) (name : String) : Engine (Option (List Space)) := do
  match ← fileContent name with
  | .ok content => return some (spacesOf settings.mark content)
  | .error .isDirectory => abandon 4 s!"read error on {name}: Is a directory"
  | .error _ => return none

/-- Takes the file that was read as done: it is replaced if asked for. -/
def closeFile (settings : Settings) : Engine Unit := do
  let run ← get
  match settings.inPlace with
  | some ending =>
      if run.opened then
        let machine ← getThe Machine
        match machine.entry run.file false with
        | .ok (location, entry) =>
            if !ending.isEmpty then
              let name := nameOfPath run.file
              let saved := if ending.toList.contains '*' then
                  String.ofList (ending.toList.flatMap fun c =>
                    if c == '*' then name.toList else [c])
                else name ++ ending
              let directory := location.dropLast
              changeWorld fun world => (world.drop (directory ++ [saved])).put
                (directory ++ [saved]) entry
            if entry.isLink then changeWorld (·.drop location)
        | .error _ => pure ()
        let _ ← writeFile run.file false run.target
  | none => pure ()
  modify fun run => { run with opened := false, target := .empty }

/-- Opens the next of some files that can be read. -/
def openFrom (settings : Settings) : List String → Engine Bool
  | [] => do
      modify fun run => { run with files := [] }
      return false
  | name :: rest => do
      modify fun run => { run with files := rest }
      let found : Option ByteArray ←
        if settings.inPlace.isSome then
          match ← fileContent name with
          | .ok content => pure (some content)
          | .error .isDirectory => abandon 4 s!"couldn't edit {name}: not a regular file"
          | .error fault => unread name fault
        else
          match ← operandContent name with
          | .ok content => pure (some content)
          | .error .isDirectory => abandon 4 s!"read error on {name}: Is a directory"
          | .error fault => unread name fault
      match found with
      | none => openFrom settings rest
      | some content =>
          modify fun run =>
            { run with
              file := name
              opened := true
              lines := spacesOf settings.mark content }
          return true
where
  unread (name : String) (fault : FileFault) : Engine (Option ByteArray) := do
    report s!"can't read {name}: {reason fault}"
    modify fun run => { run with failed := true }
    return none

/-- The phases at the start of a stream. -/
def freshPhases (script : Script) : Array Phase :=
  script.steps.map fun step =>
    match step.guard.first with
    | some (.line 0) => .inside none false
    | _ => .before

/-- Sees to it that a line is there to be read; `fuel` bounds the files. -/
def fill (settings : Settings) (fuel : Nat) : Engine Bool :=
  match fuel with
  | 0 => return false
  | fuel + 1 => do
      let run ← get
      if !run.lines.isEmpty then return true
      else
        closeFile settings
        if ← openFrom settings run.files then
          if settings.separate then
            modify fun run =>
              { run with number := 0, phases := freshPhases settings.script }
          fill settings fuel
        else return false

/-- Whether the line is the last one of its stream. -/
def atEnd (settings : Settings) : Engine Bool := do
  let run ← get
  if !run.lines.isEmpty then return false
  else if settings.separate then return true
  else return !(← fill settings (run.files.length + 1))

/-- Writes what was queued. -/
def flushQueue (settings : Settings) : Engine Unit := do
  let queue := (← get).queue
  modify fun run => { run with queue := [] }
  for queued in queue do
    match queued with
    | .text bytes => put settings bytes
    | .file name =>
        match ← fileContent name with
        | .ok content => put settings content
        | .error .isDirectory => abandon 4 s!"read error on {name}: Is a directory"
        | .error _ => pure ()

/-- Reads the next line, into the space or behind what it holds. -/
def readNext (settings : Settings) (join : Bool) : Engine Bool := do
  flushQueue settings
  if ← fill settings ((← get).files.length + 1) then
    modify fun run =>
      match run.lines with
      | [] => run
      | line :: lines =>
          let bytes := if join then run.space.bytes.push settings.mark ++ line.bytes
            else line.bytes
          { run with
            lines
            number := run.number + 1
            replaced := false
            space := ⟨bytes, line.ended⟩ }
    return true
  else return false

/-! ## Addresses -/

/-- The pattern that is meant, which then is the one that was used last. -/
def usedPattern (pattern : Option Pattern) : Engine Pattern := do
  let some pattern := pattern <|> (← get).pattern
    | abandon 1 "-e expression #1, char 0: no previous regular expression"
  modify fun run => { run with pattern := some pattern }
  return pattern

/-- Whether an address means the line. -/
def addresses (settings : Settings) : Address → Engine Bool
  | .line number => return (← get).number == number
  | .every first width => do
      let number := (← get).number
      return first ≤ number && (number - first) % width == 0
  | .last => atEnd settings
  | .pattern pattern => do
      let pattern ← usedPattern pattern
      return (pattern.expression.find? pattern.mode (← get).space.bytes 0).isSome
  | .after _ | .multiple _ => return true

/-- Where a range ends that starts at a line, if the number of that line is known, and whether the
line counts even if it has been passed. -/
def stopOf (number : Nat) : Address → Option (Nat × Bool)
  | .line stop => some (stop, false)
  | .after count => some (number + count, true)
  | .multiple 0 => some (number, true)
  | .multiple width => some ((number / width + 1) * width, true)
  | _ => none

/-- Whether the line is in a range of lines. -/
def inRange (settings : Settings) (index : Nat) (first second : Address) : Engine Bool := do
  let run ← get
  let number := run.number
  let setPhase (phase : Phase) : Engine Unit :=
    modify fun run => { run with phases := run.phases.setIfInBounds index phase }
  let closed : Phase := match first with
    | .line _ => .past
    | _ => .before
  match run.phases[index]?.getD .before with
  | .inside (some stop) lenient =>
      if stop ≤ number then setPhase closed
      return lenient || number ≤ stop
  | .inside none _ =>
      if ← stops settings second then setPhase closed
      return true
  | phase =>
      let begins ← match first with
        | .line start => pure (phase != .past && start ≤ number)
        | other => addresses settings other
      if !begins then return false
      else
        match stopOf number second with
        | some (stop, lenient) =>
            if stop ≤ number then
              setPhase closed
              return match first with
                | .line start => start == number || number ≤ stop
                | _ => true
            else
              setPhase (.inside (some stop) lenient)
              return true
        | none =>
            setPhase (.inside none false)
            return true
where
  stops (settings : Settings) (second : Address) : Engine Bool := addresses settings second

/-- Whether a step is for the line. -/
def selects (settings : Settings) (index : Nat) (guard : Guard) : Engine Bool := do
  let found ← match guard.first, guard.second with
    | none, _ => pure true
    | some first, none => addresses settings first
    | some first, some second => inRange settings index first second
  return found != guard.negated

/-! ## Commands -/

/-- A byte with the case of a letter. -/
def withCase (case : LetterCase) (b : UInt8) : UInt8 :=
  match case with
  | .kept => b
  | .lower => if 65 ≤ b && b ≤ 90 then b + 32 else b
  | .upper => if 97 ≤ b && b ≤ 122 then b - 32 else b

/-- The bytes of pieces, with the case for all letters and for the next one. -/
def fillPieces (line : ByteArray) (found : Expression.Match) (case once : LetterCase)
    : List Piece → List UInt8
  | [] => []
  | .letters case :: rest => fillPieces line found case .kept rest
  | .nextLetter once :: rest => fillPieces line found case once rest
  | piece :: rest =>
      let bytes := match piece with
        | .text bytes => bytes
        | .part index =>
            match found.part? index with
            | some (start, stop) => (line.extract start stop).data.toList
            | none => []
        | _ => []
      match bytes with
      | [] => fillPieces line found case once rest
      | b :: more =>
          withCase (if once == .kept then case else once) b ::
            (more.map (withCase case) ++ fillPieces line found case .kept rest)

/-- The line with matches replaced, if there are any to be replaced. -/
def replaced? (pattern : Pattern) (substitution : Substitution) (line : ByteArray)
    : Option ByteArray :=
  let found :=
    if substitution.number == 1 && !substitution.all then
      (pattern.expression.find? pattern.mode line 0).toList
    else (pattern.expression.findAll pattern.mode line).drop (substitution.number - 1)
  let found := if substitution.all then found else found.take 1
  if found.isEmpty then none
  else
    let (result, place) := found.foldl (fun (result, place) (found : Expression.Match) =>
      (result ++ line.extract place found.start ++
        ofBytes (fillPieces line found .kept .kept substitution.pieces), found.stop))
      (ByteArray.empty, 0)
    some (result ++ line.extract place line.size)

/-- How a byte is shown when nothing may be misread. -/
def shownByte (b : UInt8) : String :=
  match Char.ofNat b.toNat with
  | '\\' => "\\\\"
  | '\x07' => "\\a"
  | '\x08' => "\\b"
  | '\x0c' => "\\f"
  | '\n' => "\\n"
  | '\r' => "\\r"
  | '\t' => "\\t"
  | '\x0b' => "\\v"
  | c => if 32 ≤ b && b ≤ 126 then String.singleton c else "\\" ++ octalText 3 b.toNat

/-- The line as it is shown when nothing may be misread, folded to a width. -/
def shownLine (width : Nat) (bytes : ByteArray) : String :=
  let (text, _) := bytes.data.toList.foldl (fun (text, used) b =>
    let shown := shownByte b
    if 0 < width && width - 1 < used + shown.length then (text ++ "\\\n" ++ shown, shown.length)
    else (text ++ shown, used + shown.length)) ("", 0)
  text ++ "$"

/-- What a command line writes. -/
def outputOfLine (settings : Settings) (text : String) : Engine ByteArray := do
  let pipe ← openBytes .empty
  let action : Action Unit := do
    setChannel 1 (some pipe)
    let _ ← settings.launcher.start false "sh" ["-c", text]
  keepingChannels action
  match (← getThe Machine).world.opened.get? pipe with
  | some (.pipe pieces _) => return (Machine.joinPieces pieces).1
  | _ => return .empty

/-- Runs what a line holds; its output takes the place of the line. -/
def runSpace (settings : Settings) : Engine Unit := do
  let line := (← get).space
  let output ← outputOfLine settings (bytesText line.bytes.data.toList)
  let bytes := if output.data.back? == some settings.mark then output.extract 0 (output.size - 1)
    else output
  modify fun run => { run with space := { run.space with bytes } }

/-- The part of the space up to its first line end, and whether there is one. -/
def firstLine (settings : Settings) (bytes : ByteArray) : ByteArray × Bool :=
  splitAtByte settings.mark bytes 0

/-- What follows a command. -/
inductive Outcome where
  | go (step : Nat)
  /-- The line is done and is written. -/
  | done
  /-- The line is done and is not written. -/
  | dropped
  /-- The script starts over with what is left. -/
  | again
  | stop (status : Nat)

/-- Replaces matches in the line. -/
def substitute (settings : Settings) (substitution : Substitution) : Engine Unit := do
  let pattern ← usedPattern substitution.pattern
  match replaced? pattern substitution (← get).space.bytes with
  | none => pure ()
  | some bytes =>
      modify fun run => { run with replaced := true, space := { run.space with bytes } }
      if substitution.executed then runSpace settings
      if substitution.printed then putLine settings none (← get).space
      if let some name := substitution.file then putLine settings (some name) (← get).space

/-- The step at which a label stands. -/
def labelled (settings : Settings) (label : Option String) : Nat :=
  match label.bind fun label => settings.script.labels.find? (·.1 == label) with
  | some (_, step) => step
  | none => settings.script.steps.size

/-- Runs a command that is for the line. -/
def perform (settings : Settings) (index : Nat) (guard : Guard) (command : Command)
    : Engine Outcome := do
  let run ← get
  let following := Outcome.go (index + 1)
  let joined (space more : Space) : Space :=
    { more with bytes := space.bytes.push settings.mark ++ more.bytes }
  let onSpace (change : Space → Space) : Engine Outcome := do
    modify fun run => { run with space := change run.space }
    return following
  match command with
  | .block _ => return following
  | .append text =>
      modify fun run => { run with queue := run.queue ++ [.text (ofBytes text)] }
      return following
  | .insert text =>
      put settings ((ofBytes text.dropLast).push settings.mark)
      return following
  | .change text =>
      let within := match run.phases[index]? with
        | some (.inside ..) => guard.second.isSome && !guard.negated
        | _ => false
      if !within then put settings (ofBytes text)
      return .dropped
  | .jump label => return .go (labelled settings label)
  | .jumpIf wanted label =>
      modify fun run => { run with replaced := false }
      return if run.replaced == wanted then .go (labelled settings label) else following
  | .delete => return .dropped
  | .deleteFirst =>
      let (line, more) := firstLine settings run.space.bytes
      if more then
        let _ ← onSpace fun space =>
          { space with bytes := space.bytes.extract (line.size + 1) space.bytes.size }
        return .again
      else return .dropped
  | .print =>
      putLine settings none run.space
      return following
  | .printFirst =>
      let (line, more) := firstLine settings run.space.bytes
      putLine settings none ⟨line, more || run.space.ended⟩
      return following
  | .hold =>
      modify fun run => { run with held := run.space }
      return following
  | .holdMore =>
      modify fun run => { run with held := joined run.held run.space }
      return following
  | .recall => onSpace fun _ => run.held
  | .recallMore => onSpace fun space => joined space run.held
  | .exchange =>
      modify fun run => { run with space := run.held, held := run.space }
      return following
  | .next =>
      if ← atEnd settings then return .done
      else
        if !settings.quiet then putLine settings none run.space
        let _ ← readNext settings false
        return following
  | .join =>
      if ← atEnd settings then return .done
      else
        let _ ← readNext settings true
        return following
  | .list width =>
      let shown := shownLine (width.getD settings.width) run.space.bytes
      put settings (shown.toUTF8.push settings.mark)
      return following
  | .number =>
      put settings ((toString run.number).toUTF8.push settings.mark)
      return following
  | .fileName =>
      put settings (run.file.toUTF8.push settings.mark)
      return following
  | .clear => onSpace fun space => { space with bytes := .empty }
  | .quit silent status =>
      if !silent then
        if !settings.quiet then putLine settings none run.space
        flushQueue settings
      return .stop status
  | .readFile name =>
      modify fun run => { run with queue := run.queue ++ [.file name] }
      return following
  | .readLine name =>
      let lines ← match run.readers.find? (·.1 == name) with
        | some (_, lines) => pure lines
        | none => pure ((← linesOf? settings name).getD [])
      let others := run.readers.filter (·.1 != name)
      modify fun run => { run with readers := (name, lines.drop 1) :: others }
      match lines with
      | [] => pure ()
      | line :: _ =>
          let bytes := if line.ended then line.bytes.push settings.mark else line.bytes
          modify fun run => { run with queue := run.queue ++ [.text bytes] }
      return following
  | .writeFile name =>
      putLine settings (some name) run.space
      return following
  | .writeFirst name =>
      let (line, more) := firstLine settings run.space.bytes
      putLine settings (some name) ⟨line, more || run.space.ended⟩
      return following
  | .substitute substitution =>
      substitute settings substitution
      return following
  | .translate pairs =>
      let translate (b : UInt8) : UInt8 := ((pairs.find? (·.1 == b)).map (·.2)).getD b
      onSpace fun space => { space with bytes := ⟨space.bytes.data.map translate⟩ }
  | .run none =>
      runSpace settings
      return following
  | .run (some text) =>
      let output ← outputOfLine settings (bytesText text)
      put settings output
      return following

/-! ## Runs -/

/-- Ends the work on a line. -/
def finishLine (settings : Settings) (written : Bool) : Engine Unit := do
  if written && !settings.quiet then putLine settings none (← get).space
  flushQueue settings

/-- Runs the script from a step on, and then for all lines that follow. The status is what the
script ends with; `fuel` bounds the steps. -/
def runFrom (settings : Settings) (fuel index : Nat) : Engine Nat :=
  match fuel with
  | 0 => throw .late
  | fuel + 1 => do
      let outcome : Outcome ←
        match settings.script.steps[index]? with
        | none => pure .done
        | some step =>
            if ← selects settings index step.guard then
              perform settings index step.guard step.command
            else
              match step.command with
              | .block stop => pure (.go stop)
              | _ => pure (.go (index + 1))
      match outcome with
      | .go index => runFrom settings fuel index
      | .again =>
          flushQueue settings
          runFrom settings fuel 0
      | .stop status =>
          closeFile settings
          return status
      | .done =>
          finishLine settings true
          if ← readNext settings false then runFrom settings fuel 0 else return 0
      | .dropped =>
          finishLine settings false
          if ← readNext settings false then runFrom settings fuel 0 else return 0

/-- The most steps that a run has. -/
def stepLimit : Nat := 4000000

/-- The files that a script writes. -/
def targetsOf (script : Script) : List String :=
  script.steps.toList.filterMap fun step =>
    match step.command with
    | .writeFile name | .writeFirst name => some name
    | .substitute substitution => substitution.file
    | _ => none

/-- Runs a script on files. -/
def runAll (settings : Settings) (files : List String) : Action Nat := do
  for name in targetsOf settings.script do
    if let some fault ← writeFile name false .empty then
      report s!"couldn't open file {name}: {reason fault}"
      throw (.exit 4)
  let start : Run := { files, phases := freshPhases settings.script }
  let action : Engine Nat := do
    if ← readNext settings false then runFrom settings stepLimit 0 else return 0
  let (status, run) ← action.run start
  return if run.failed then 2 else status

/-! ## Arguments -/

/-- Arguments with the option for replacing files, which may stand among other letters, spelled
out. -/
def spellInPlace : List String → List String
  | [] => []
  | "--" :: rest => "--" :: rest
  | argument :: rest =>
      match argument.toList with
      | '-' :: '-' :: _ => argument :: spellInPlace rest
      | '-' :: letters =>
          let before := letters.takeWhile fun c => !("iefl".toList.contains c)
          match letters.drop before.length with
          | 'i' :: ending =>
              let value := if ending.isEmpty then "" else "=" ++ String.ofList ending
              (if before.isEmpty then [] else [String.ofList ('-' :: before)]) ++
                ["--in-place" ++ value] ++ spellInPlace rest
          | _ => argument :: spellInPlace rest
      | _ => argument :: spellInPlace rest

/-- What the program says of its use. -/
def usage : String :=
  "Usage: sed [OPTION]... \x7bscript-only-if-no-other-script\x7d [input-file]...\n"

/-- The options of the program. -/
def options : OptionSet :=
  { letters := "nEruszb", marked := "efl"
    long := ["quiet", "silent", "debug", "expression=", "file=", "follow-symlinks", "in-place?",
      "line-length=", "posix", "regexp-extended", "separate", "sandbox", "unbuffered", "null-data",
      "zero-terminated", "binary", "help", "version"] }

/-- The parts of a script that options give. -/
def partsOf (number : Nat) : GivenOptions → Action (List (Origin × List UInt8))
  | [] => return []
  | (name, value) :: rest => do
      if name == "e" || name == "expression" then
        return (.argument number, value.toUTF8.data.toList) :: (← partsOf (number + 1) rest)
      else if name == "f" || name == "file" then
        match ← operandContent value with
        | .ok content => return (.file value, content.data.toList) :: (← partsOf number rest)
        | .error .isDirectory => partsOf number rest
        | .error fault =>
            report s!"couldn't open file {value}: {reason fault}"
            throw (.exit 4)
      else partsOf number rest

/-- Runs the parts of a script on files. -/
def start (launcher : Launcher) (given : GivenOptions) (parts : List (Origin × List UInt8))
    (files : List String) : Action Nat := do
  let extended := given.has ["E", "r", "regexp-extended"]
  match readScript extended parts with
  | .error (status, message) =>
      report message
      return status
  | .ok script =>
      let inPlace := given.last? ["in-place"]
      match script.missingLabel? with
      | some label =>
          report ("can't find label for jump to \x60" ++ label ++ "'")
          return 4
      | none =>
          if inPlace.isSome && files.isEmpty then
            report "no input files"
            return 4
          else
            let width := ((given.last? ["l", "line-length"]).map fun text =>
              numberOf (text.toUTF8.data.toList.takeWhile isDigit)).getD 70
            runAll
              { script, launcher, inPlace, width
                quiet := script.quiet || given.has ["n", "quiet", "silent"]
                separate := inPlace.isSome || given.has ["s", "separate"]
                mark := if given.has ["z", "null-data", "zero-terminated"] then 0 else 10 }
              (if files.isEmpty then ["-"] else files)

end Sed

/-- Edits streams of lines by a script. -/
def sed : Program := fun launcher arguments => do
  match Sed.options.read (2 * arguments.length + 1) (Sed.spellInPlace arguments) with
  | .error fault =>
      report fault.message
      say 2 Sed.usage
      return 1
  | .ok (given, operands) =>
      let parts ← Sed.partsOf 1 given
      if given.has ["e", "expression", "f", "file"] then Sed.start launcher given parts operands
      else
        match operands with
        | [] =>
            say 2 Sed.usage
            return 1
        | script :: files =>
            Sed.start launcher given [(.argument 1, script.toUTF8.data.toList)] files

end Groundwork.Shell.Program
