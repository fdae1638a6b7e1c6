import Groundwork.Shell.Condition
import Groundwork.Shell.Expansion

/-!
Commands that the shell carries out itself and that run no others.
-/

namespace Groundwork.Shell

/-- What a command does with its arguments, and the status with which it ends. -/
abbrev Builtin := List String → Action Nat

namespace Builtin

/-! ## Arguments -/

/-- Letters of options at the start of arguments, and the arguments after them. A letter that is
marked takes an argument of its own. -/
def options (allowed marked : String) (fuel : Nat) (arguments : List String)
    : Action (List (Char × String) × List String) :=
  match fuel with
  | 0 => return ([], arguments)
  | fuel + 1 =>
      match arguments with
      | [] => return ([], [])
      | "--" :: rest => return ([], rest)
      | argument :: rest =>
          match argument.toList with
          | '-' :: c :: letters => do
              let (found, rest) ← letterOptions (c :: letters) rest
              let (others, operands) ← options allowed marked fuel rest
              return (found ++ others, operands)
          | _ => return ([], arguments)
where
  /-- The options of one argument, and the arguments after it. -/
  letterOptions (letters : List Char) (rest : List String)
      : Action (List (Char × String) × List String) :=
    match letters with
    | [] => return ([], rest)
    | c :: letters => do
        if marked.toList.contains c then
          match letters, rest with
          | [], [] => giveUp s!"No arg for -{c} option"
          | [], value :: rest => return ([(c, value)], rest)
          | letters, rest => return ([(c, String.ofList letters)], rest)
        else if allowed.toList.contains c then
          let (found, rest) ← letterOptions letters rest
          return ((c, "") :: found, rest)
        else giveUp s!"Illegal option -{c}"

/-- Letters of options, and the arguments after them. -/
def letters (allowed : String) (arguments : List String) : Action (List Char × List String) := do
  let (found, operands) ← options allowed "" (arguments.length + 1) arguments
  return (found.map (·.1), operands)

/-- A number without a sign. -/
def number (text : String) : Action Nat := do
  let digits := text.toList
  if !digits.isEmpty && digits.all Char.isDigit then
    let value := (Arithmetic.ofDigits 10 digits).toNat
    if value < 2147483648 then return value else giveUp s!"Illegal number: {text}"
  else giveUp s!"Illegal number: {text}"

/-- A text in single quotes, and its single quotes in double ones; `fuel` bounds its length. -/
def quotedFrom (fuel : Nat) (text : List Char) : List Char :=
  match fuel with
  | 0 => []
  | fuel + 1 =>
      let plain := text.takeWhile (· != '\'')
      let rest := text.drop plain.length
      let marks := rest.takeWhile (· == '\'')
      let after := rest.drop marks.length
      '\'' :: plain ++ '\'' ::
        (if rest.isEmpty then []
          else '"' :: marks ++ '"' :: (if after.isEmpty then [] else quotedFrom fuel after))

/-- A text in single quotes. -/
def quoted (text : String) : String := String.ofList (quotedFrom (text.length + 1) text.toList)

/-! ## Output -/

/-- Writes words. -/
def echo : Builtin := fun arguments => do
  let machine ← getThe Machine
  let bytes := if machine.verbose then Format.echoWithSwitches arguments else Format.echo arguments
  emit ⟨bytes.toArray⟩
  return 0

/-- Writes arguments by a format. -/
def printf : Builtin := fun arguments => do
  let (_, operands) ← letters "" arguments
  match operands with
  | [] => giveUp "usage: printf format [arg ...]"
  | format :: rest =>
      let writing := Format.printf .shell format rest
      for warning in writing.warnings.reverse do complain warning
      match writing.fault with
      | some fault =>
          complain fault
          emit writing.bytes
          throw .failed
      | none =>
          emit writing.bytes
          return if writing.warnings.isEmpty then 0 else 1

/-- Succeeds if a condition holds. -/
def test (bracket : Bool) : Builtin := fun arguments => do
  let machine ← getThe Machine
  if bracket && arguments.getLast? != some "]" then giveUp "missing ]"
  else
    match Condition.evaluate machine (if bracket then arguments.dropLast else arguments) with
    | .ok true => return 0
    | .ok false => return 1
    | .error fault => giveUp fault

/-! ## Directories -/

/-- Directories that are there besides those of the tree. -/
def knownDirectories : List Location :=
  [[], ["bin"], ["dev"], ["etc"], ["home"], ["lib"], ["opt"], ["proc"], ["root"], ["run"],
    ["sbin"], ["srv"], ["sys"], ["tmp"], ["usr"], ["usr", "bin"], ["usr", "lib"],
    ["usr", "local"], ["usr", "local", "bin"], ["usr", "sbin"], ["usr", "share"], ["var"],
    ["var", "tmp"]]

/-- The path that a text stands for by its segments alone, from a path on. -/
def logicalPath (start text : String) : String :=
  let segments := Text.splitOn '/' text.toList
  let isAbsolute := text.toList.head? == some '/'
  let double := "//".toList.isPrefixOf text.toList && (text.toList.drop 2).head? != some '/'
  let base := if isAbsolute then [] else (Text.splitOn '/' start.toList).filter (!·.isEmpty)
  let parts := segments.foldl (fun parts segment =>
    if segment.isEmpty || segment == ['.'] then parts
    else if segment == ['.', '.'] then parts.dropLast
    else parts ++ [segment]) base
  let lead := if (isAbsolute && double) || (!isAbsolute && "//".toList.isPrefixOf start.toList)
    then "//" else "/"
  lead ++ "/".intercalate (parts.map String.ofList)

/-- Goes to a directory. Tells whether it is there. -/
def enter (target : String) (physical : Bool) : Action Bool := do
  let machine ← getThe Machine
  let text := logicalPath machine.here target
  let goal := if physical then target else text
  let location? : Option Location :=
    match machine.place goal with
    | .ok (.taken location .directory) => some location
    | _ =>
        let location := ((Text.splitOn '/' text.toList).filter (!·.isEmpty)).map String.ofList
        if knownDirectories.contains location then some location else none
  match location? with
  | none => return false
  | some location =>
      let before := machine.here
      let here := if physical then Machine.locationText location else text
      modifyThe Machine fun machine =>
        { machine with
          here
          world := { machine.world with files := { machine.world.files with base := location } } }
      setVariable "OLDPWD" before
      setVariable "PWD" here
      for name in ["OLDPWD", "PWD"] do changeBinding name ({ · with exported := true })
      return true

/-- Changes the working directory. -/
def cd : Builtin := fun arguments => do
  let (found, operands) ← letters "LP" arguments
  let machine ← getThe Machine
  let physical := found.getLast? == some 'P'
  let (target, shown) :=
    match operands with
    | "-" :: _ => ((machine.value? "OLDPWD").getD "", true)
    | target :: _ => (target, false)
    | [] => ((machine.value? "HOME").getD "", false)
  let segments := Text.splitOn '/' target.toList
  let searched := !(target.toList.head? == some '/' || segments.head? == some ['.'] ||
    segments.head? == some ['.', '.'])
  let places := if searched then
      (Text.splitOn ':' ((machine.value? "CDPATH").getD "").toList).map String.ofList else [""]
  let goal := if target.isEmpty then "." else target
  let candidates := places.map fun place =>
    (if place.isEmpty then goal else s!"{place}/{goal}", !place.isEmpty)
  let found := candidates.find? fun (path, _) =>
    machine.world.files.isDirectory (machine.path path)
  let (path, shown) := match found with
    | some (path, named) => (path, shown || named)
    | none => (goal, shown)
  if ← enter path physical then
    if shown then say 1 ((← getThe Machine).here ++ "\n")
    return 0
  else giveUp s!"can't cd to {target}"

/-- Tells the working directory. -/
def pwd : Builtin := fun arguments => do
  let (found, _) ← letters "LP" arguments
  let machine ← getThe Machine
  say 1 ((if found.getLast? == some 'P' then machine.directory else machine.here) ++ "\n")
  return 0

/-! ## Options and parameters -/

/-- The options of the shell with their names, in the order in which they are told. -/
def optionNames : List (String × Char) :=
  [("errexit", 'e'), ("noglob", 'f'), ("ignoreeof", 'I'), ("interactive", 'i'), ("monitor", 'm'),
    ("noexec", 'n'), ("stdin", 's'), ("xtrace", 'x'), ("verbose", 'v'), ("vi", 'V'),
    ("emacs", 'E'), ("noclobber", 'C'), ("allexport", 'a'), ("notify", 'b'), ("nounset", 'u')]

/-- Sets an option, or takes it away. -/
def setOption (letter : Char) (on : Bool) : Action Unit :=
  if optionNames.any (·.2 == letter) then
    modifyThe Machine fun machine =>
      { machine with
        options := (optionNames.map (·.2)).filter fun other =>
          if other == letter then on else machine.options.contains other }
  else giveUp s!"Illegal option -{letter}"

/-- Shows all options: as they are, or as commands that set them. -/
def showOptions (plain : Bool) : Action Unit := do
  let machine ← getThe Machine
  if plain then
    say 1 "Current option settings\n"
    for (name, letter) in optionNames do
      let gap := String.ofList (List.replicate (16 - name.length) ' ')
      let state := if machine.has letter then "on" else "off"
      say 1 s!"{name}{gap}{state}\n"
    say 1 "nolog           off\ndebug           off\n"
  else
    for (name, letter) in optionNames do
      let sign := if machine.has letter then "-o" else "+o"
      say 1 s!"set {sign} {name}\n"
    say 1 "set +o nolog\nset +o debug\n"

/-- Sets the options at the start of arguments. Gives the arguments after them, and whether they
were set off from the options. -/
def readOptions : List String → Action (List String × Bool)
  | [] => return ([], false)
  | argument :: rest => do
      match argument.toList with
      | ['-'] =>
          setOption 'x' false
          setOption 'v' false
          return (rest, false)
      | ['-', '-'] => return (rest, true)
      | sign :: cs =>
          if sign == '-' || sign == '+' then
            let on := sign == '-'
            let named := cs.contains 'o'
            for c in cs do
              if c == 'o' then
                match rest.head? with
                | none => showOptions on
                | some name =>
                    match optionNames.find? (·.1 == name) with
                    | some (_, letter) => setOption letter on
                    | none =>
                        if name != "nolog" && name != "debug" then
                          giveUp s!"Illegal option -o {name}"
              else setOption c on
            match rest with
            | name :: rest => if named then readOptions rest else readOptions (name :: rest)
            | [] => return ([], false)
          else return (argument :: rest, false)
      | [] => return (argument :: rest, false)

/-- Shows variables with their values. -/
def showVariables (lead : String) (p : Binding → Bool) : Action Unit := do
  let machine ← getThe Machine
  for (name, binding) in machine.bindings do
    if p binding then
      match binding.value with
      | some value => say 1 s!"{lead}{name}={quoted value}\n"
      | none => if !lead.isEmpty then say 1 s!"{lead}{name}\n"

/-- Sets options and parameters. -/
def set : Builtin := fun arguments => do
  if arguments.isEmpty then
    showVariables "" fun binding => binding.value.isSome
    return 0
  else
    let (rest, apart) ← readOptions arguments
    if apart || !rest.isEmpty then
      modifyThe Machine fun machine => { machine with parameters := rest, optionOffset := 0 }
    return 0

/-- Takes parameters away. -/
def shift : Builtin := fun arguments => do
  let count ← match arguments with
    | [] => pure 1
    | text :: _ => number text
  let machine ← getThe Machine
  if machine.parameters.length < count then giveUp "can't shift that many"
  else
    modifyThe Machine fun machine =>
      { machine with parameters := machine.parameters.drop count, optionOffset := 0 }
    return 0

/-! ## Variables -/

/-- A name and the value after its equals sign, if there is one. -/
def splitAssignment (argument : String) : String × Option String :=
  match Text.splitOnce '=' argument.toList with
  | some (name, value) => (String.ofList name, some (String.ofList value))
  | none => (argument, none)

/-- Checks that a text can be the name of a variable. -/
def checkName (name : String) : Action Unit :=
  if isName name.toList then return () else giveUp s!"{name}: bad variable name"

/-- Gives variables a property, or shows those that have it. -/
def mark (command : String) (has : Binding → Bool) (change : Binding → Binding) : Builtin :=
  fun arguments => do
    let (found, operands) ← letters "p" arguments
    if !found.isEmpty || operands.isEmpty then
      showVariables (command ++ " ") has
      return 0
    else
      for operand in operands do
        let (name, value) := splitAssignment operand
        checkName name
        match value with
        | some value => setVariable name value
        | none => pure ()
        changeBinding name change
      return 0

/-- Makes variables known to other programs. -/
def exportNames : Builtin := mark "export" (·.exported) ({ · with exported := true })

/-- Fixes the values of variables. -/
def readonly : Builtin := mark "readonly" (·.fixed) ({ · with fixed := true })

/-- Hides variables until the function is left. -/
def localNames : Builtin := fun arguments => do
  if (← getThe Machine).hidden.isEmpty then giveUp "not in a function"
  else
    for operand in arguments do
      let (name, value) := splitAssignment operand
      if name != "-" then
        checkName name
        modifyThe Machine fun machine =>
          match machine.hidden with
          | frame :: frames =>
              { machine with hidden := ((name, machine.bindings.get? name) :: frame) :: frames }
          | [] => machine
        match value with
        | some value => setVariable name value
        | none =>
            if ((← getThe Machine).bindings.get? name).isNone then changeBinding name id
    return 0

/-- Takes variables or functions away. -/
def unset : Builtin := fun arguments => do
  let (found, operands) ← letters "vf" arguments
  for name in operands do
    if found.getLast? == some 'f' then
      modifyThe Machine fun machine =>
        { machine with functions := machine.functions.erase name }
    else
      checkName name
      if ((← getThe Machine).bindings.get? name).any (·.fixed) then giveUp s!"{name}: is read only"
      modifyThe Machine fun machine =>
        { machine with bindings := machine.bindings.erase name }
  return 0

/-! ## Input -/

/-- The characters of a line that is read: without `raw` a backslash takes the meaning from the next
one, and joins lines; `fuel` bounds their number. Also tells whether the last line has an end. -/
def readPieces (raw : Bool) (fuel : Nat) : Action (List Piece × Bool) :=
  match fuel with
  | 0 => return ([], false)
  | fuel + 1 => do
      let (line, ended) ← readLineOf 0
      let text := (Text.decodeLossy ⟨line.data.filter (· != 0)⟩).toList
      if raw then return (text.map (.char · .expanded), ended)
      else
        let (pieces, joined) := plain text
        if joined && ended then
          let (others, ended) ← readPieces raw fuel
          return (pieces ++ others, ended)
        else return (pieces, ended)
where
  /-- The characters of a line, and whether it goes on on the next. -/
  plain : List Char → List Piece × Bool
    | [] => ([], false)
    | ['\\'] => ([], true)
    | '\\' :: c :: rest =>
        let (pieces, joined) := plain rest
        (.char c .quoted :: pieces, joined)
    | c :: rest =>
        let (pieces, joined) := plain rest
        (.char c .expanded :: pieces, joined)

/-- Whether a piece is a separator. -/
def isSeparator (separators : List Char) : Piece → Bool
  | .char c .expanded => separators.contains c
  | _ => false

/-- Whether a piece is a separator that counts once however many there are. -/
def isBlankSeparator (separators : List Char) : Piece → Bool
  | .char c .expanded => separators.contains c && isBlank c
  | _ => false

/-- The last field: what is left, without blanks at its end, and without a separator at its end if
it is the only one. -/
def lastField (separators : List Char) (pieces : List Piece) : List Piece :=
  let trim (pieces : List Piece) : List Piece :=
    (pieces.reverse.dropWhile (isBlankSeparator separators)).reverse
  let pieces := trim (pieces.dropWhile (isBlankSeparator separators))
  match pieces.reverse with
  | last :: rest =>
      let inner := trim rest.reverse
      if isSeparator separators last && !inner.any (isSeparator separators) then inner else pieces
  | [] => []

/-- As many fields as there are names. -/
def fields (separators : List Char) : List String → List Piece → List (String × List Piece)
  | [], _ => []
  | [name], pieces => [(name, lastField separators pieces)]
  | name :: rest, pieces =>
      let pieces := pieces.dropWhile (isBlankSeparator separators)
      let field := pieces.takeWhile fun piece => !isSeparator separators piece
      let after := pieces.drop field.length
      let after := match after with
        | separator :: after =>
            dropSeparators separators (isBlankSeparator separators separator) after
        | [] => []
      (name, field) :: fields separators rest after

/-- Reads a line into variables. -/
def read : Builtin := fun arguments => do
  let (found, names) ← options "r" "p" (arguments.length + 1) arguments
  if names.isEmpty then giveUp "arg count"
  else
    let (pieces, ended) ← readPieces (found.any (·.1 == 'r')) 100000
    for (name, field) in fields (← getThe Machine).separators names pieces do
      checkName name
      setVariable name (String.ofList (pieceText field))
    return if ended then 0 else 1

/-! ## Options of scripts -/

/-- Where the reading of options is: the argument that is next, and how far the one before it has
been read. -/
structure OptionPlace where
  index : Nat
  rest : List Char

/-- Reads the next option of arguments. -/
def getopts : Builtin := fun arguments => do
  match arguments with
  | letters :: name :: operands => do
      let machine ← getThe Machine
      let given := if operands.isEmpty then machine.parameters else operands
      let index := ((machine.value? "OPTIND").bind String.toNat?).getD 1
      let index := if index == 0 || given.length + 1 < index then 1 else index
      let offset := if index ≤ 1 then 0 else machine.optionOffset
      let current := (given[index - 2]?.getD "").toList
      let left := if offset == 0 || current.length < offset then [] else current.drop offset
      let start : Option OptionPlace :=
        if !left.isEmpty then some ⟨index, left⟩
        else
          match (given[index - 1]?.getD "").toList with
          | '-' :: c :: rest => some ⟨index + 1, c :: rest⟩
          | _ => none
      let finish (index : Nat) (letter : Char) (rest : List Char) (status : Nat) : Action Nat := do
        setVariable "OPTIND" (toString index)
        checkName name
        setVariable name (String.singleton letter)
        let length := (given[index - 2]?.getD "").length
        modifyThe Machine fun machine =>
          { machine with optionOffset := if rest.isEmpty then 0 else length - rest.length }
        return status
      let silent := letters.toList.head? == some ':'
      let complainOf (c : Char) (message : String) : Action Unit :=
        if silent then setVariable "OPTARG" (String.singleton c)
        else do
          say 2 s!"{message}\n"
          modifyThe Machine fun machine =>
            { machine with bindings := machine.bindings.erase "OPTARG" }
      match start with
      | none => finish index '?' [] 1
      | some ⟨index, ['-']⟩ => finish index '?' [] 1
      | some ⟨index, []⟩ => finish index '?' [] 1
      | some ⟨index, c :: rest⟩ =>
          let after := (letters.toList.dropWhile fun d => d != c || d == ':').drop 1
          if c == ':' || !letters.toList.contains c then
            complainOf c s!"Illegal option -{c}"
            finish index '?' rest 0
          else if after.head? == some ':' then
            if !rest.isEmpty then
              setVariable "OPTARG" (String.ofList rest)
              finish index c [] 0
            else
              match given[index - 1]? with
              | some value =>
                  setVariable "OPTARG" value
                  finish (index + 1) c [] 0
              | none =>
                  complainOf c s!"No arg for -{c} option"
                  finish index (if silent then ':' else '?') [] 0
          else
            setVariable "OPTARG" ""
            finish index c rest 0
  | _ => giveUp "Usage: getopts optstring var [arg...]"

/-! ## Processes and signals -/

/-- Sends a signal to a process. Tells whether there is such a process. -/
def send (signal : Signal) (target : Nat) : Action Bool := do
  let machine ← getThe Machine
  if target == machine.process then
    match if signal == Signal.kill then none else machine.traps.get? signal with
    | some action =>
        if action.isEmpty || signal == 0 then return true
        else
          modifyThe Machine fun machine =>
            { machine with world := { machine.world with
                pending := machine.world.pending ++ [(target, signal)] } }
          return true
    | none => if Signal.isHarmless signal then return true else throw (.killed signal)
  else if machine.ancestors.contains target then
    if signal != 0 then
      modifyThe Machine fun machine =>
        { machine with world := { machine.world with
            pending := machine.world.pending ++ [(target, signal)] } }
    return true
  else
    let clock := machine.world.clock
    if machine.jobs.any fun job => job.process == target then
      if !Signal.isHarmless signal then
        modifyThe Machine fun machine =>
          { machine with
            jobs := machine.jobs.map fun job =>
              if job.process == target && clock < job.ends then
                { job with ends := clock, ending := .killed signal }
              else job
            world := machine.world.forgetAfter clock }
      return true
    else return false

/-- Sends signals. -/
def kill : Builtin := fun arguments => do
  let usage : Action Nat :=
    giveUp "Usage: kill [-s sigspec | -signum | -sigspec] [pid | job]... or\nkill -l [exitstatus]"
  let deliver (signal : Signal) (targets : List String) : Action Nat := do
    if targets.isEmpty then usage
    else
      targets.foldlM (fun status target => do
        if ← send signal (← number target) then return status
        else
          complain "No such process\n"
          return 1) 0
  match arguments with
  | [] => usage
  | first :: rest =>
      match first.toList with
      | '-' :: name =>
          match Signal.read? (String.ofList name) with
          | some signal => deliver signal rest
          | none =>
              let (found, operands) ← options "l" "s" (arguments.length + 1) arguments
              let named ← found.filterMapM fun (letter, value) => do
                if letter != 's' then return none
                else
                  match Signal.read? value with
                  | some signal => return some signal
                  | none => giveUp s!"invalid signal number or name: {value}"
              if found.any (·.1 == 'l') then
                match operands with
                | [] =>
                    say 1 "0\n"
                    for signal in (List.range Signal.limit).drop 1 do
                      say 1 s!"{Signal.name signal}\n"
                    return 0
                | status :: _ =>
                    let number ← number status
                    let signal := if 128 < number then number - 128 else number
                    if 0 < signal && signal < Signal.limit then
                      say 1 s!"{Signal.name signal}\n"
                      return 0
                    else giveUp s!"invalid signal number or exit status: {status}"
              else deliver (named.getLast?.getD Signal.terminate) operands
      | _ => deliver Signal.terminate arguments

/-- Sets what is done at signals and at the end. -/
def trap : Builtin := fun arguments => do
  let (_, operands) ← letters "" arguments
  match operands with
  | [] =>
      for (signal, action) in (← getThe Machine).traps do
        say 1 s!"trap -- {quoted action} {Signal.name signal}\n"
      return 0
  | first :: rest =>
      let isNumber := !first.isEmpty && first.toList.all Char.isDigit && (Signal.read? first).isSome
      let (action, names) :=
        if rest.isEmpty || isNumber then ("-", operands) else (first, rest)
      let step (status : Nat) (name : String) : Action Nat := do
        if status != 0 then return status
        else
          match Signal.read? name with
          | none =>
              say 2 s!"trap: {name}: bad trap\n"
              return 1
          | some signal =>
              modifyThe Machine fun machine =>
                { machine with
                  traps := if action == "-" then machine.traps.erase signal
                    else machine.traps.insert signal action }
              return 0
      names.foldlM step 0

/-- Waits for processes that were started before. -/
def wait : Builtin := fun arguments => do
  let await (job : Job) : Action Unit := do
    waitUntil (job.ends + 1)
    checkTime
  match arguments with
  | [] =>
      for job in (← getThe Machine).jobs do await job
      modifyThe Machine fun machine => { machine with jobs := [] }
      return 0
  | targets =>
      targets.foldlM (fun _ target => do
        let process ← number target
        match (← getThe Machine).jobs.find? (·.process == process) with
        | none => return 127
        | some job =>
            await job
            match job.ending with
            | .killed signal =>
                match Signal.notice? signal with
                | some notice => say 2 s!"{notice}\n"
                | none => pure ()
            | .exit _ => pure ()
            return job.ending.status) 0

/-! ## Rights of new files -/

/-- The bits of a class of users in a mask, in words. -/
def rightsText (bits : Nat) : String :=
  String.ofList ((if bits / 4 % 2 == 1 then ['r'] else []) ++
    (if bits / 2 % 2 == 1 then ['w'] else []) ++ (if bits % 2 == 1 then ['x'] else []))

/-- A mask changed by words such as `u=rwx,g-w`. -/
def changeMask (mask : Nat) (text : String) : Option Nat :=
  (Text.splitOn ',' text.toList).foldl (fun mask? clause => do
    let rights := 511 - (← mask?)
    let who := clause.takeWhile "ugoa".toList.contains
    match clause.drop who.length with
    | sign :: letters =>
        if !("+-=".toList.contains sign) || !letters.all "rwx".toList.contains then none
        else
          let bits := (if letters.contains 'r' then 4 else 0) +
            (if letters.contains 'w' then 2 else 0) + (if letters.contains 'x' then 1 else 0)
          let all := who.isEmpty || who.contains 'a'
          let change (chosen : Bool) (old : Nat) : Nat :=
            if !chosen then old
            else if sign == '=' then bits
            else if sign == '+' then old ||| bits
            else old &&& (7 - bits)
          let user := change (all || who.contains 'u') (rights / 64 % 8)
          let group := change (all || who.contains 'g') (rights / 8 % 8)
          let other := change (all || who.contains 'o') (rights % 8)
          some (511 - (64 * user + 8 * group + other))
    | [] => none) (some mask)

/-- Four digits to the base eight. -/
def octal (number : Nat) : String :=
  let digits := Nat.toDigits 8 number
  String.ofList (List.replicate (4 - digits.length) '0' ++ digits)

/-- Shows or sets the rights that new files do not get. -/
def umask : Builtin := fun arguments => do
  let (found, operands) ← letters "S" arguments
  let mask := (← getThe Machine).mask
  match operands with
  | [] =>
      if found.isEmpty then say 1 s!"{octal mask}\n"
      else
        let rights := 511 - mask
        let user := rightsText (rights / 64 % 8)
        let group := rightsText (rights / 8 % 8)
        let other := rightsText (rights % 8)
        say 1 s!"u={user},g={group},o={other}\n"
      return 0
  | text :: _ =>
      let digits := text.toList
      let mask ←
        if digits.head?.any Char.isDigit then
          if digits.all fun c => '0' ≤ c && c ≤ '7' then
            pure ((Arithmetic.ofDigits 8 digits).toNat % 512)
          else giveUp s!"Illegal number: {text}"
        else
          match changeMask mask text with
          | some mask => pure mask
          | none => giveUp s!"Illegal mode: {text}"
      modifyThe Machine fun machine => { machine with mask }
      return 0

/-! ## Aliases -/

/-- The place of a name in the order in which aliases are told. -/
def aliasRank (name : String) : Nat :=
  let bytes := name.toUTF8.data.toList.map UInt8.toNat
  (bytes.foldl (· + ·) (16 * bytes.headD 0)) % 39

/-- Shows or sets aliases. -/
def aliases : Builtin := fun arguments => do
  let entries := (← getThe Machine).aliases
  if arguments.isEmpty then
    for (name, value) in entries.mergeSort fun a b => aliasRank a.1 ≤ aliasRank b.1 do
      say 1 s!"{name}={quoted value}\n"
    return 0
  else
    arguments.foldlM (fun status argument => do
      match argument.toList with
      | c :: rest =>
          match Text.splitOnce '=' rest with
          | some (name, value) =>
              modifyThe Machine fun machine =>
                { machine with
                  aliases := machine.aliases.insert (String.ofList (c :: name))
                    (String.ofList value) }
              return status
          | none =>
              match (← getThe Machine).aliases.get? argument with
              | some value =>
                  say 1 s!"{argument}={quoted value}\n"
                  return status
              | none =>
                  say 2 s!"alias: {argument} not found\n"
                  return 1
      | [] => return status) 0

/-- Takes aliases away. -/
def unalias : Builtin := fun arguments => do
  let (found, operands) ← letters "a" arguments
  if !found.isEmpty then
    modifyThe Machine fun machine => { machine with aliases := [] }
    return 0
  else
    operands.foldlM (fun status name => do
      if (← getThe Machine).aliases.contains name then
        modifyThe Machine fun machine => { machine with aliases := machine.aliases.erase name }
        return status
      else
        say 2 s!"unalias: {name} not found\n"
        return 1) 0

/-! ## Ends -/

/-- The status that the first argument gives, or the last one there was. -/
def statusOf (arguments : List String) : Action Nat := do
  match arguments with
  | [] => return (← getThe Machine).status
  | text :: _ => number text

/-- Leaves loops. -/
def leave (again : Bool) : Builtin := fun arguments => do
  let levels ← match arguments with
    | [] => pure 1
    | text :: _ => do
        let levels ← number text
        if levels == 0 then giveUp s!"Illegal number: {text}" else pure levels
  let loops := (← getThe Machine).loops
  if loops == 0 then return 0 else throw (.leave (min levels loops) again)

/-- The commands that the shell carries out itself and that run no others. -/
def table : List (String × Builtin) :=
  [("echo", echo), ("printf", printf), ("test", test false), ("[", test true), ("cd", cd),
    ("chdir", cd), ("pwd", pwd), ("set", set), ("shift", shift), ("export", exportNames),
    ("readonly", readonly), ("local", localNames), ("unset", unset), ("read", read),
    ("getopts", getopts), ("kill", kill), ("trap", trap), ("wait", wait), ("umask", umask),
    ("alias", aliases), ("unalias", unalias),
    (":", fun _ => pure 0), ("true", fun _ => pure 0), ("false", fun _ => pure 1),
    ("hash", fun _ => pure 0), ("jobs", fun _ => pure 0), ("ulimit", fun _ => do
      say 1 "unlimited\n"
      return 0),
    ("times", fun _ => do
      say 1 "0m0.000000s 0m0.000000s\n0m0.000000s 0m0.000000s\n"
      return 0),
    ("exit", fun arguments => do throw (.exit ((← statusOf arguments) % 256))),
    ("return", fun arguments => do throw (.back (← statusOf arguments))),
    ("break", leave false), ("continue", leave true)]

/-- The commands that run others. -/
def runners : List String := [".", "command", "eval", "exec", "type"]

/-- Whether the shell carries out a command itself. -/
def isBuiltin (name : String) : Bool := table.any (·.1 == name) || runners.contains name

/-- The commands whose arguments can be assignments. -/
def assigning : List String := ["alias", "export", "local", "readonly"]

end Builtin

end Groundwork.Shell
