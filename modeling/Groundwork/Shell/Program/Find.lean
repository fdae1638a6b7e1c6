import Groundwork.Shell.Program.Listing
import Groundwork.Text.Expression

/-!
The program `find`, which looks for files that fulfil conditions and does something with them.
-/

namespace Groundwork.Shell.Program.Find

/-! ## Conditions -/

/-- How a number is compared. -/
inductive Comparison where
  | less
  | equal
  | greater
deriving DecidableEq

/-- A number to compare with. -/
structure Bound where
  comparison : Comparison
  number : Nat

def Bound.holds (bound : Bound) (number : Nat) : Bool :=
  match bound.comparison with
  | .less => number < bound.number
  | .equal => number == bound.number
  | .greater => bound.number < number

/-- Something that is asked of a file or done with it. -/
inductive Test where
  | always (outcome : Bool)
  | name (glob : Glob) (fold : Bool)
  | path (glob : Glob) (fold : Bool)
  | target (glob : Glob) (fold : Bool)
  | pattern (pattern : Expression) (fold : Bool)
  | kind (letters : List Char)
  | empty
  | size (bound : Bound) (unit : Nat)
  | age (bound : Bound)
  | links (bound : Bound)
  /-- Some or all of the rights are given, or exactly these. -/
  | rights (sign : Char) (bits : Nat)
  | runnable
  | same (location : Location)
  | print (ending : String)
  | write (format : String)
  | list
  | delete
  | prune
  | quit
  | run (words : List String) (asks : Bool)
  /-- Runs a program once with all files; runs are told apart by a number. -/
  | runAll (number : Nat) (words : List String)
  | negated (test : Test)
  | both (left right : Test)
  | either (left right : Test)
  | joined (left right : Test)

/-- What else is said of a search. -/
structure Settings where
  least : Nat := 0
  most : Option Nat := none
  depthFirst : Bool := false
  follows : Bool := false
  /-- How many programs are run with all files. -/
  runs : Nat := 0
  /-- Whether something is done with files besides leaving directories out. -/
  acts : Bool := false
  warnings : List String := []

/-! ## Reading -/

/-- The state of reading. -/
structure Reading where
  words : List String
  settings : Settings := {}
  /-- The last condition that was read. -/
  last : Option String := none

abbrev Reader := StateT Reading (Except String)

/-- The next word, as what a condition is given. -/
def argumentOf (name : String) : Reader String := do
  match (← get).words with
  | word :: rest =>
      modify ({ · with words := rest })
      return word
  | [] => throw s!"missing argument to \x60{name}'"

/-- A number of a condition, with its sign. -/
def readBound? (text : List Char) : Option Bound :=
  let (comparison, digits) : Comparison × List Char :=
    match text with
    | '+' :: rest => (.greater, rest)
    | '-' :: rest => (.less, rest)
    | rest => (.equal, rest)
  if digits.isEmpty || !digits.all Char.isDigit then none
  else some ⟨comparison, (String.ofList digits).toNat?.getD 0⟩

/-- How many bytes a unit of sizes has. -/
def unitOf? : Char → Option Nat
  | 'c' => some 1
  | 'w' => some 2
  | 'b' => some 512
  | 'k' => some 1024
  | 'M' => some 1048576
  | 'G' => some 1073741824
  | _ => none

/-- A pattern of the kind that `find` has, in extended form. -/
def extendedForm : List Char → List Char
  | '\\' :: c :: rest =>
      if "()|".toList.contains c then c :: extendedForm rest else '\\' :: c :: extendedForm rest
  | c :: rest =>
      if "()|\x7b\x7d".toList.contains c then '\\' :: c :: extendedForm rest
      else c :: extendedForm rest
  | [] => []

def globOf (text : String) (fold : Bool) : Glob :=
  let bytes := text.toUTF8.data.toList
  Glob.ofMarked ((if fold then bytes.map lowerByte else bytes).map fun b => (b, false))

/-- The words of a program up to its end, and whether it is run once with all files. -/
def splitRun (sofar : List String) : List String → Option (List String × Bool × List String)
  | [] => none
  | ";" :: rest => some (sofar.reverse, false, rest)
  | "+" :: rest =>
      if sofar.head? == some "\x7b\x7d" then some (sofar.reverse.dropLast, true, rest)
      else splitRun ("+" :: sofar) rest
  | word :: rest => splitRun (word :: sofar) rest

/-- Sets something of the whole search. -/
def setting (name : String) (change : Settings → Settings) : Reader Test := do
  match (← get).last with
  | some last =>
      let text := s!"warning: you have specified the global option {name} after the argument " ++
        s!"{last}, but global options are not positional, i.e., {name} affects tests specified " ++
        "before it as well as those specified after it.  Please specify global options before " ++
        "other arguments."
      modify fun reading =>
        { reading with
          settings := { reading.settings with warnings := reading.settings.warnings ++ [text] } }
  | none => pure ()
  modify fun reading => { reading with settings := change reading.settings }
  return .always true

/-- Notes that something is done with files. -/
def acting (test : Test) : Reader Test := do
  modify fun reading => { reading with settings := { reading.settings with acts := true } }
  return test

/-- The number that a setting is given. -/
def levelOf (name : String) : Reader Nat := do
  let text ← argumentOf name
  match text.toNat? with
  | some number => return number
  | none =>
      throw s!"Expected a positive decimal integer argument to {name}, but got \x60{text}'"

/-- Reads a condition by its name. -/
def readTest (machine : Machine) (name : String) : Reader Test := do
  let test ← read name
  modify fun reading => { reading with last := some name }
  return test
where
  bound (name : String) (build : Bound → Test) : Reader Test := do
    let text ← argumentOf name
    match readBound? text.toList with
    | some bound => return build bound
    | none => throw s!"invalid argument \x60{text}' to \x60{name}'"
  expression (name : String) (fold : Bool) : Reader Test := do
    let text ← argumentOf name
    let spelled := String.ofList (extendedForm text.toList)
    match Expression.parse { extended := true, strict := false } spelled.toUTF8.data.toList with
    | .ok spelled => return .pattern spelled.pattern fold
    | .error fault => throw s!"failed to compile regular expression '{text}': {fault.message}"
  read (name : String) : Reader Test := do
    match name with
    | "-name" => return .name (globOf (← argumentOf name) false) false
    | "-iname" => return .name (globOf (← argumentOf name) true) true
    | "-path" | "-wholename" => return .path (globOf (← argumentOf name) false) false
    | "-ipath" | "-iwholename" => return .path (globOf (← argumentOf name) true) true
    | "-lname" => return .target (globOf (← argumentOf name) false) false
    | "-ilname" => return .target (globOf (← argumentOf name) true) true
    | "-regex" => expression name false
    | "-iregex" => expression name true
    | "-regextype" =>
        let _ ← argumentOf name
        return .always true
    | "-type" | "-xtype" =>
        let text ← argumentOf name
        let letters := text.toList.filter (· != ',')
        match letters.find? fun c => !"bcdpflsD".toList.contains c with
        | some c => throw s!"Unknown argument to {name}: {c}"
        | none => return .kind letters
    | "-empty" => return .empty
    | "-size" =>
        let text ← argumentOf name
        let letters := text.toList
        let (number, unit) := match letters.getLast?.bind unitOf? with
          | some unit => (letters.dropLast, unit)
          | none => (letters, 512)
        match readBound? number with
        | some bound => return .size bound unit
        | none => throw s!"Invalid argument \x60{text}' to -size"
    | "-mtime" | "-atime" | "-ctime" | "-mmin" | "-amin" | "-cmin" => bound name .age
    | "-links" => bound name .links
    | "-inum" | "-uid" | "-gid" => bound name fun bound => .always (bound.holds 0)
    | "-user" | "-group" => return .always (["root", "0"].contains (← argumentOf name))
    | "-nouser" | "-nogroup" => return .always false
    | "-newer" | "-anewer" | "-cnewer" =>
        let file ← argumentOf name
        match machine.entry file true with
        | .ok _ => return .always false
        | .error fault => throw s!"'{file}': {reason fault}"
    | "-samefile" =>
        let file ← argumentOf name
        match machine.entry file false with
        | .ok (location, _) => return .same location
        | .error fault => throw s!"'{file}': {reason fault}"
    | "-perm" =>
        let text ← argumentOf name
        let (sign, mode) : Char × List Char := match text.toList with
          | '-' :: rest => ('-', rest)
          | '/' :: rest => ('/', rest)
          | rest => (' ', rest)
        match readMode 0 (String.ofList mode) with
        | some changes => return .rights sign (changes.foldl (RightsChange.apply false) 0)
        | none => throw s!"invalid mode '{text}'"
    | "-executable" => return .runnable
    | "-readable" | "-writable" | "-true" => return .always true
    | "-false" => return .always false
    | "-print" => acting (.print "\n")
    | "-print0" => acting (.print "\x00")
    | "-printf" => acting (.write (← argumentOf name))
    | "-ls" => acting .list
    | "-prune" => return .prune
    | "-quit" => acting .quit
    | "-delete" =>
        modify fun reading =>
          { reading with settings := { reading.settings with depthFirst := true } }
        acting .delete
    | "-exec" | "-execdir" | "-ok" | "-okdir" =>
        match splitRun [] (← get).words with
        | none | some ([], _, _) => throw s!"missing argument to \x60{name}'"
        | some (words, all, rest) =>
            modify ({ · with words := rest })
            if all then
              let number := (← get).settings.runs
              modify fun reading =>
                { reading with settings := { reading.settings with runs := number + 1 } }
              acting (.runAll number words)
            else acting (.run words (name == "-ok" || name == "-okdir"))
    | "-maxdepth" =>
        let level ← levelOf name
        setting name ({ · with most := some level })
    | "-mindepth" =>
        let level ← levelOf name
        setting name ({ · with least := level })
    | "-depth" => setting name ({ · with depthFirst := true })
    | "-d" => setting name ({ · with depthFirst := true })
    | "-follow" => setting name ({ · with follows := true })
    | "-xdev" | "-mount" | "-noleaf" | "-daystart" | "-warn" | "-nowarn" |
      "-ignore_readdir_race" => setting name id
    | name =>
        if name.toList.head? == some '-' then throw s!"unknown predicate \x60{name}'"
        else
          match (← get).last with
          | some last =>
              throw (s!"paths must precede expression: \x60{name}'\nfind: possible unquoted " ++
                s!"pattern after predicate \x60{last}'?")
          | none => throw s!"paths must precede expression: \x60{name}'"

mutual

/-- Reads conditions joined by commas; `fuel` bounds the nesting. -/
def readList (machine : Machine) (fuel : Nat) : Reader Test :=
  match fuel with
  | 0 => throw "invalid expression"
  | fuel + 1 => do
      let left ← readEither machine fuel
      match (← get).words with
      | "," :: rest =>
          modify ({ · with words := rest })
          return .joined left (← readList machine fuel)
      | _ => return left

/-- Reads conditions of which one has to hold. -/
def readEither (machine : Machine) (fuel : Nat) : Reader Test :=
  match fuel with
  | 0 => throw "invalid expression"
  | fuel + 1 => do
      let left ← readBoth machine fuel
      match (← get).words with
      | "-o" :: rest | "-or" :: rest =>
          modify ({ · with words := rest })
          if rest.isEmpty then
            throw "invalid expression; expected to find an expression after '-o'."
          return .either left (← readEither machine fuel)
      | _ => return left

/-- Reads conditions that have to hold together. -/
def readBoth (machine : Machine) (fuel : Nat) : Reader Test :=
  match fuel with
  | 0 => throw "invalid expression"
  | fuel + 1 => do
      let left ← readOne machine fuel
      match (← get).words with
      | [] | "," :: _ | "-o" :: _ | "-or" :: _ | ")" :: _ => return left
      | "-a" :: rest | "-and" :: rest =>
          modify ({ · with words := rest })
          return .both left (← readBoth machine fuel)
      | _ => return .both left (← readBoth machine fuel)

/-- Reads one condition. -/
def readOne (machine : Machine) (fuel : Nat) : Reader Test :=
  match fuel with
  | 0 => throw "invalid expression"
  | fuel + 1 => do
      match (← get).words with
      | [] => throw "invalid expression"
      | word :: rest =>
          modify ({ · with words := rest })
          match word with
          | "!" | "-not" => return .negated (← readOne machine fuel)
          | "(" =>
              let inner ← readList machine fuel
              match (← get).words with
              | ")" :: rest =>
                  modify ({ · with words := rest })
                  return inner
              | _ =>
                  throw ("invalid expression; I was expecting to find a ')' somewhere but did " ++
                    "not see one.")
          | "-a" | "-and" | "-o" | "-or" | "," =>
              throw (s!"invalid expression; you have used a binary operator '{word}' with " ++
                "nothing before it.")
          | ")" => throw "invalid expression; you have too many ')'"
          | name => readTest machine name

end

/-! ## Searching -/

/-- A file that has been found. -/
structure Found where
  path : String
  location : Location
  entry : Entry
  depth : Nat
  /-- The path from which the search began. -/
  top : String

/-- The state of a search. -/
structure Search where
  pruned : Bool := false
  done : Bool := false
  status : Nat := 0
  /-- The files with which programs are run in the end. -/
  collected : Dictionary Nat (List String) := []

abbrev Finding := StateT Search Action

/-- A fact about a file by its letter. -/
def factOf (machine : Machine) (found : Found) (letter : Char) : String :=
  let plain (letter : Char) : String :=
    factText machine found.path found.location found.entry letter
  match letter with
  | 'p' => found.path
  | 'f' => if found.path.toList.all (· == '/') then found.path else nameOfPath found.path
  | 'h' =>
      let before := (found.path.toList.reverse.dropWhile (· != '/')).drop 1
      if found.path.toList.contains '/' then String.ofList before.reverse else "."
  | 'P' =>
      let rest := found.path.toList.drop found.top.length
      String.ofList (if rest.head? == some '/' then rest.drop 1 else rest)
  | 'H' => found.top
  | 'd' => toString found.depth
  | 'y' => match kindLetter found.entry with
    | '-' => "f"
    | c => String.singleton c
  | 'm' => plain 'a'
  | 'M' => plain 'A'
  | 'u' | 'g' => "root"
  | 'U' | 'G' => "0"
  | 'n' => plain 'h'
  | 'k' => toString (blocksOf found.entry)
  | 'l' => match found.entry with
    | .link target => target
    | _ => ""
  | letter => plain letter

/-- Runs a program with a file in the place of each pair of braces. -/
def runOn (launcher : Launcher) (words : List String) (path : String) : Action Bool := do
  let put (word : String) : String :=
    String.ofList (Text.replaceAll ['\x7b', '\x7d'] path.toList word.toList)
  match words with
  | [] => return false
  | name :: arguments =>
      match ← launcher.start false name (arguments.map put) with
      | .ok ending => return ending.status == 0
      | .error fault =>
          report s!"'{name}': {fault.message}"
          return false

/-- Whether a file fulfils a condition. -/
def holds (launcher : Launcher) (found : Found) : Test → Finding Bool
  | .always outcome => return outcome
  | .name glob fold =>
      return glob.matchBytes { fold } (nameOfPath found.path).toUTF8.data.toList
  | .path glob fold => return glob.matchBytes { fold } found.path.toUTF8.data.toList
  | .target glob fold =>
      match found.entry with
      | .link target => return glob.matchBytes { fold } target.toUTF8.data.toList
      | _ => return false
  | .pattern pattern fold =>
      let text := found.path.toUTF8
      return (pattern.matchAt? { fold } text 0).any fun result => result.stop == text.size
  | .kind letters =>
      let letter := kindLetter found.entry
      return letters.contains (if letter == '-' then 'f' else letter)
  | .empty => do
      let machine ← getThe Machine
      match found.entry with
      | .node .directory => return (machine.entriesBelow found.location).isEmpty
      | .node (.file content _) => return content.isEmpty
      | .link _ => return false
  | .size bound unit => return bound.holds ((sizeOfEntry found.entry + unit - 1) / unit)
  | .age bound => return bound.holds 0
  | .links bound => return bound.holds (linkCount (← getThe Machine) found.location found.entry)
  | .rights sign bits => do
      let rights := (← getThe Machine).rightsOf found.location found.entry
      return match sign with
        | '-' => rights &&& bits == bits
        | '/' => bits == 0 || rights &&& bits != 0
        | _ => rights == bits
  | .runnable => do
      return (← getThe Machine).rightsOf found.location found.entry &&& 73 != 0
  | .same location => return found.location == location
  | .print ending => do
      say 1 (found.path ++ ending)
      return true
  | .write format => do
      let machine ← getThe Machine
      let (bytes, _) := Format.unescape { stops := true } format
      say 1 (fillFacts (factOf machine found) (bytesText bytes).toList)
      return true
  | .list => do
      let machine ← getThe Machine
      let fact := factOf machine found
      say 1 (" ".intercalate [alignRight 9 (fact 'i'), alignRight 6 (fact 'k'), fact 'M',
        alignRight 3 (fact 'n'), alignLeft 8 (fact 'u'), alignLeft 8 (fact 'g'),
        alignRight 8 (fact 's'), momentText, found.path] ++ "\n")
      return true
  | .delete => do
      let machine ← getThe Machine
      if found.path == "." then return true
      else if found.entry.isDirectory && !(machine.entriesBelow found.location).isEmpty then
        report s!"cannot delete {quote found.path}: {reason .notEmpty}"
        modify ({ · with status := 1 })
        return false
      else
        changeWorld (·.drop found.location)
        return true
  | .prune => do
      modify ({ · with pruned := true })
      return true
  | .quit => do
      modify ({ · with done := true })
      return true
  | .run words asks => do
      if asks then
        say 2 s!"< {words.headD default} ... {found.path} > ? "
        let (line, _) ← readLineOf 0
        if line.data.toList.head? == some 121 then runOn launcher words found.path
        else return false
      else runOn launcher words found.path
  | .runAll number _ => do
      modify fun search =>
        { search with
          collected := search.collected.insert number
            ((search.collected.get? number).getD [] ++ [found.path]) }
      return true
  | .negated test => return !(← holds launcher found test)
  | .both left right => do
      if ← holds launcher found left then
        if (← get).done then return true else holds launcher found right
      else return false
  | .either left right => do
      if ← holds launcher found left then return true else holds launcher found right
  | .joined left right => do
      let _ ← holds launcher found left
      holds launcher found right

/-- Looks at a file and at what lies below it; `fuel` bounds the depth. -/
def visit (launcher : Launcher) (settings : Settings) (test : Test) (fuel : Nat) (found : Found)
    : Finding Unit :=
  match fuel with
  | 0 => return ()
  | fuel + 1 => do
      let look : Finding Unit := do
        if settings.least ≤ found.depth && !(← get).done then
          let _ ← holds launcher found test
      modify ({ · with pruned := false })
      if !settings.depthFirst then look
      let search ← get
      if found.entry.isDirectory && !search.done && (settings.depthFirst || !search.pruned) &&
          settings.most.all (found.depth < ·) then
        let machine ← getThe Machine
        for (name, entry) in machine.entriesBelow found.location do
          let path := joinName found.path name
          let (location, entry) := followed machine path (found.location ++ [name]) entry
          visit launcher settings test fuel ⟨path, location, entry, found.depth + 1, found.top⟩
      if settings.depthFirst then look
where
  /-- What an entry leads to, if links are followed. -/
  followed (machine : Machine) (path : String) (location : Location) (entry : Entry)
      : Location × Entry :=
    if settings.follows && entry.isLink then
      (machine.entry path true).toOption.getD (location, entry)
    else (location, entry)

/-- The programs that are run with all files, by their numbers. -/
def collectors : Test → List (Nat × List String)
  | .runAll number words => [(number, words)]
  | .negated test => collectors test
  | .both left right | .either left right | .joined left right =>
      collectors left ++ collectors right
  | _ => []

/-- Looks for files. -/
def search (launcher : Launcher) (settings : Settings) (test : Test) (tops : List String)
    : Finding Unit := do
  for top in tops do
    if !(← get).done then
      let machine ← getThe Machine
      match machine.entry top settings.follows with
      | .ok (location, entry) =>
          visit launcher settings test 256 ⟨top, location, entry, 0, top⟩
      | .error fault =>
          report s!"{quote top}: {reason fault}"
          modify ({ · with status := 1 })
  for (number, words) in collectors test do
    match ((← get).collected.get? number).getD [], words with
    | [], _ | _, [] => pure ()
    | paths, name :: arguments =>
        match ← launcher.start false name (arguments ++ paths) with
        | .ok ending => if ending.status != 0 then modify ({ · with status := 1 })
        | .error fault =>
            report s!"{quote name}: {fault.message}"
            modify ({ · with status := 1 })

end Find

/-- Looks for files that fulfil conditions. -/
def find : Program := fun launcher arguments => do
  let switches := arguments.takeWhile fun argument => ["-H", "-L", "-P"].contains argument
  let arguments := arguments.drop switches.length
  let isPath (argument : String) : Bool :=
    argument != "!" && argument != "(" && argument != ")" &&
      (argument.toList.head? != some '-' || argument == "-")
  let tops := arguments.takeWhile isPath
  let words := arguments.drop tops.length
  let machine ← getThe Machine
  let start : Find.Reading := { words, settings := { follows := switches.getLast? == some "-L" } }
  let read : Except String (Find.Test × Find.Reading) :=
    if words.isEmpty then .ok (.always true, start)
    else
      match (Find.readList machine (8 * words.length + 8)).run start with
      | .ok (test, reading) =>
          match reading.words with
          | [] => .ok (test, reading)
          | ")" :: _ => .error "invalid expression; you have too many ')'"
          | word :: _ => .error s!"paths must precede expression: \x60{word}'"
      | .error message => .error message
  match read with
  | .error message =>
      report message
      return 1
  | .ok (test, reading) =>
      for warning in reading.settings.warnings do report warning
      let test := if reading.settings.acts then test else .both test (.print "\n")
      let tops := if tops.isEmpty then ["."] else tops
      let ((), search) ← (Find.search launcher reading.settings test tops).run {}
      return search.status

end Groundwork.Shell.Program
