import Groundwork.Shell.Condition
import Groundwork.Shell.Format
import Groundwork.Shell.Program.Basic

/-!
Programs that write words and numbers, check conditions, tell of their surroundings, or start other
programs.
-/

namespace Groundwork.Shell.Program

/-- Ends with a status. -/
def ending (status : Nat) : Program := fun _ _ => return status

/-- Complains about the first argument that is too much. -/
def superfluous (status : Nat) (operand : String) : Action Nat :=
  misuse status s!"extra operand {quote operand}"

/-! ## Output -/

/-- Writes words. -/
def echo : Program := fun _ arguments => do
  emit (ofBytes (Format.echoWithSwitches arguments))
  return 0

/-- Writes arguments by a format. -/
def printf : Program := fun _ arguments => do
  match (if arguments.head? == some "--" then arguments.drop 1 else arguments) with
  | [] => misuse 1 "missing operand"
  | format :: rest =>
      let writing := Format.printf .program format rest
      for warning in writing.warnings.reverse do report warning
      emit writing.bytes
      match writing.fault with
      | some fault =>
          report fault
          return 1
      | none =>
          match writing.arguments with
          | extra :: _ =>
              if !writing.stopped then
                report s!"warning: ignoring excess arguments, starting with {quote extra}"
          | [] => pure ()
          return if writing.warnings.isEmpty then 0 else 1

/-- How many bytes a program writes that would go on without an end. -/
def endlessSize : Nat := 131072

/-- Writes a line again and again, until nothing takes it any more. -/
def yes : Program := fun _ arguments => do
  let words := if arguments.head? == some "--" then arguments.drop 1 else arguments
  let line := (if words.isEmpty then "y" else " ".intercalate words) ++ "\n"
  let bytes := line.toUTF8.data.toList
  emit (ofBytes (List.replicate (endlessSize / bytes.length + 1) bytes).flatten)
  throw (.killed Signal.pipe)

/-! ## Conditions -/

/-- Succeeds if a condition holds. -/
def test (bracket : Bool) : Program := fun _ arguments => do
  let machine ← getThe Machine
  let refuse (message : String) : Action Nat := do
    let name := if bracket then "[" else "test"
    say 2 s!"{name}: {message}\n"
    return 2
  if bracket && arguments.getLast? != some "]" then refuse "missing ']'"
  else
    match Condition.evaluateProgram machine (if bracket then arguments.dropLast else arguments) with
    | .ok true => return 0
    | .ok false => return 1
    | .error fault => refuse fault

/-! ## Time -/

/-- A decimal fraction, and by how many digits its point is moved. -/
structure Fixed where
  digits : Int
  places : Nat

namespace Fixed

/-- The digits of a fraction with so many places. -/
def atPlaces (fixed : Fixed) (places : Nat) : Int :=
  fixed.digits * (Nat.pow 10 (places - fixed.places) : Nat)

/-- The fraction that a text spells. -/
def ofText? (text : List Char) : Option Fixed :=
  let (negative, rest) := Format.splitSign (text.dropWhile Format.isBlank)
  let whole := rest.takeWhile Char.isDigit
  let fraction? : Option (List Char) :=
    match rest.drop whole.length with
    | [] => some []
    | '.' :: fraction => if fraction.all Char.isDigit then some fraction else none
    | _ => none
  match fraction? with
  | none => none
  | some fraction =>
      if whole.isEmpty && fraction.isEmpty then none
      else
        let size := Arithmetic.ofExactDigits (whole ++ fraction)
        some ⟨if negative then -size else size, fraction.length⟩
where
  /-- The value of decimal digits, however many there are. -/
  Arithmetic.ofExactDigits (digits : List Char) : Int :=
    digits.foldl (fun (n : Int) c => 10 * n + ((c.toNat - '0'.toNat : Nat) : Int)) 0

/-- A fraction with so many places, as text. -/
def text (digits : Int) (places : Nat) : String :=
  let shown := Nat.toDigits 10 digits.natAbs
  let shown := List.replicate (places + 1 - shown.length) '0' ++ shown
  let whole := shown.take (shown.length - places)
  let fraction := shown.drop (shown.length - places)
  let sign := if digits < 0 then ['-'] else []
  String.ofList (sign ++ whole ++ if places == 0 then [] else '.' :: fraction)

end Fixed

/-- How many ticks a text stands for that may have a unit at its end; nothing if it has no end. -/
def interval? (text : String) : Option (Option Nat) :=
  let letters := text.toList
  let (size, unit) : List Char × Nat :=
    match letters.getLast? with
    | some 's' => (letters.dropLast, 1)
    | some 'm' => (letters.dropLast, 60)
    | some 'h' => (letters.dropLast, 3600)
    | some 'd' => (letters.dropLast, 86400)
    | _ => (letters, 1)
  if ["inf", "infinity"].contains text then some none
  else
    match Fixed.ofText? size with
    | some fixed =>
        if fixed.digits < 0 then none
        else
          some (some (((fixed.digits.toNat * unit * 1000 * ticks +
            (Nat.pow 10 fixed.places - 1)) / Nat.pow 10 fixed.places)))
    | none => none

/-- Waits without an end. -/
def neverEnd : Action Nat := do
  let machine ← getThe Machine
  let moments := (machine.limit.map (·.1)).toList ++ machine.world.deadline.toList
  for moment in moments do
    waitUntil moment
    checkTime
  throw .late

/-- Lets time pass. -/
def sleep : Program := fun _ arguments =>
  withOptions 1 {} arguments fun _ operands => do
    let faulty := operands.filter fun operand => (interval? operand).isNone
    if operands.isEmpty then misuse 1 "missing operand"
    else if !faulty.isEmpty then
      for operand in faulty do report s!"invalid time interval {quote operand}"
      adviseHelp
      return 1
    else
      let intervals := operands.filterMap interval?
      if intervals.any Option.isNone then neverEnd
      else
        let total := (intervals.filterMap id).foldl (· + ·) 0
        waitUntil ((← getThe Machine).world.clock + total)
        checkTime
        return 0

/-! ## Numbers in a row -/

/-- The fractions from one on by steps up to another; `fuel` bounds how many. -/
def countUp (fuel : Nat) (value step last : Int) : List Int :=
  match fuel with
  | 0 => []
  | fuel + 1 =>
      if (0 < step && last < value) || (step < 0 && value < last) then []
      else value :: countUp fuel (value + step) step last

/-- Writes numbers in a row. -/
def seq : Program := fun _ arguments => do
  let (before, after) := splitNumbers arguments
  withOptions 1
    { letters := "w", marked := "sf", long := ["equal-width", "separator=", "format="]
      anywhere := false }
    before fun options early => do
      let operands := early ++ after
      match operands.find? fun operand => (Fixed.ofText? operand.toList).isNone with
      | some operand =>
          if operands.length ≤ 3 then
            misuse 1 s!"invalid floating point argument: {quote operand}"
          else superfluous 1 (operands[3]?.getD "")
      | none =>
          match operands.filterMap (Fixed.ofText? ·.toList) with
          | [] => misuse 1 "missing operand"
          | [last] => write options ⟨1, 0⟩ ⟨1, 0⟩ last
          | [first, last] => write options first ⟨1, 0⟩ last
          | [first, step, last] =>
              if step.digits == 0 then
                misuse 1 ("invalid Zero increment value: " ++ quote (operands[1]?.getD ""))
              else write options first step last
          | _ => superfluous 1 (operands[3]?.getD "")
where
  /-- Arguments up to the first number that could be taken for an option, and those from there
  on. -/
  splitNumbers : List String → List String × List String
    | [] => ([], [])
    | argument :: rest =>
        match argument.toList with
        | '-' :: c :: _ =>
            if c.isDigit || c == '.' then ([], argument :: rest)
            else
              let (before, after) := splitNumbers rest
              (argument :: before, after)
        | _ =>
            let (before, after) := splitNumbers rest
            (argument :: before, after)
  /-- Writes the numbers. -/
  write (options : GivenOptions) (first step last : Fixed) : Action Nat := do
    let shown := max first.places step.places
    let places := max shown last.places
    let values := countUp 1000000 (first.atPlaces places) (step.atPlaces places)
      (last.atPlaces places)
    let cut (value : Int) : Int := value / ((Nat.pow 10 (places - shown) : Nat) : Int)
    let texts := values.map fun value => Fixed.text (cut value) shown
    let separator := (options.last? ["s", "separator"]).getD "\n"
    let finish (texts : List String) : Action Nat := do
      if !texts.isEmpty then say 1 (separator.intercalate texts ++ "\n")
      return 0
    match options.last? ["f", "format"] with
    | some format =>
        let unit := Float.ofNat (Nat.pow 10 places)
        finish (values.map fun value => shape format (Float.ofInt value / unit))
    | none =>
        if options.has ["w", "equal-width"] then
          let width := max (Fixed.text (cut (first.atPlaces places)) shown).length
            (Fixed.text (cut (last.atPlaces places)) shown).length
          finish (texts.map fun text => widen width text)
        else finish texts
  /-- A number brought to a width by zeros. -/
  widen (width : Nat) (text : String) : String :=
    let zeros := List.replicate (width - text.length) '0'
    match text.toList with
    | '-' :: rest => String.ofList ('-' :: zeros ++ rest)
    | rest => String.ofList (zeros ++ rest)
  /-- A number by a format. -/
  shape (format : String) (value : Float) : String :=
    let writing := (Format.readParts {} (format.length + 1) format.toList).foldl
      (fun (text : List Char) part =>
        match part with
        | .bytes bytes => text ++ (bytesText bytes).toList
        | .conversion conversion _ _ => text ++ conversion.fractionText value
        | _ => text) []
    String.ofList writing

/-! ## Names of files -/

/-- A path without the slashes at its end, unless there is nothing else. -/
def withoutSlashes (text : List Char) : List Char :=
  let kept := (text.reverse.dropWhile (· == '/')).reverse
  if kept.isEmpty then text.take 1 else kept

/-- The last name of a path. -/
def lastName (text : List Char) : List Char :=
  let kept := withoutSlashes text
  if kept == ['/'] then kept else (kept.reverse.takeWhile (· != '/')).reverse

/-- A path without its last name. -/
def leadingPath (text : List Char) : List Char :=
  let kept := withoutSlashes text
  let before := (kept.reverse.dropWhile (· != '/')).reverse
  if kept == ['/'] then kept
  else if before.isEmpty then ['.']
  else withoutSlashes before

/-- The last names of paths, without an ending. -/
def basename : Program := fun _ arguments =>
  withOptions 1
    { letters := "az", marked := "s", long := ["multiple", "suffix=", "zero"], anywhere := false }
    arguments fun options operands => do
      let suffix? := options.last? ["s", "suffix"]
      let several := suffix?.isSome || options.has ["a", "multiple"]
      let shorten (suffix : String) (name : List Char) : List Char :=
        let rest := name.take (name.length - suffix.length)
        if suffix.toList.isSuffixOf name && !rest.isEmpty then rest else name
      let tell (suffix operand : String) : Action Unit :=
        say 1 (String.ofList (shorten suffix (lastName operand.toList)) ++
          recordEnd options ["z", "zero"])
      match operands with
      | [] => misuse 1 "missing operand"
      | first :: rest =>
          if several then
            for operand in first :: rest do tell (suffix?.getD "") operand
            return 0
          else
            match rest with
            | _ :: extra :: _ => superfluous 1 extra
            | rest =>
                tell (rest.headD "") first
                return 0

/-- Paths without their last names. -/
def dirname : Program := fun _ arguments =>
  withOptions 1 { letters := "z", long := ["zero"] } arguments fun options operands => do
    if operands.isEmpty then misuse 1 "missing operand"
    else
      for operand in operands do
        say 1 (String.ofList (leadingPath operand.toList) ++ recordEnd options ["z", "zero"])
      return 0

/-! ## Surroundings -/

/-- Tells the working directory. -/
def pwd : Program := fun _ arguments =>
  withOptions 1 { letters := "LP", long := ["logical", "physical"] } arguments
    fun options operands => do
      if !operands.isEmpty then report "ignoring non-option arguments"
      let machine ← getThe Machine
      let logical := match options.getLast? with
        | some (name, _) => name == "L" || name == "logical"
        | none => false
      say 1 ((if logical then (machine.given.lookup "PWD").getD machine.directory
        else machine.directory) ++ "\n")
      return 0

/-- Writes a text that does not depend on the run. -/
def telling (text : String) (status : Nat) : Program := fun _ _ => do
  say 1 s!"{text}\n"
  return status

/-- Tells who runs the program. -/
def id : Program := fun _ arguments =>
  withOptions 1
    { letters := "ugGnraz", long := ["user", "group", "groups", "name", "real", "zero"] }
    arguments fun options _ => do
      let named := options.has ["n", "name"]
      if options.has ["u", "user", "g", "group", "G", "groups"] then
        say 1 (if named then "root\n" else "0\n")
        return 0
      else if named then
        report "cannot print only names or real IDs in default format"
        return 1
      else
        say 1 "uid=0(root) gid=0(root) groups=0(root)\n"
        return 0

/-- Tells what the system is. -/
def uname : Program := fun _ arguments =>
  withOptions 1
    { letters := "asnrvmpio"
      long := ["kernel-name", "machine", "operating-system"] } arguments fun options operands => do
      match operands with
      | extra :: _ => superfluous 1 extra
      | [] =>
          let facts : List (List String × String) :=
            [(["s", "kernel-name"], "Linux"), (["m", "machine"], "x86_64"),
              (["p"], "unknown"), (["i"], "unknown"), (["o", "operating-system"], "GNU/Linux")]
          let told := facts.filter fun fact => options.has fact.1
          say 1 (" ".intercalate (if options.isEmpty then ["Linux"] else told.map (·.2)) ++ "\n")
          return 0

/-- Tells the paths of programs. -/
def which : Program := fun launcher arguments => do
  let mut status := if arguments.isEmpty then 1 else 0
  for name in arguments.filter (· != "-a") do
    match ← launcher.find? name with
    | some path => say 1 s!"{path}\n"
    | none => status := 1
  return status

/-- Tells the values of variables. -/
def printenv : Program := fun _ arguments =>
  withOptions 2 { letters := "0", long := ["null"], anywhere := false } arguments
    fun options operands => do
      let given := (← getThe Machine).given
      let mark := recordEnd options ["0", "null"]
      if operands.isEmpty then
        for (name, value) in given do say 1 s!"{name}={value}{mark}"
        return 0
      else
        let found := operands.filterMap fun name => given.lookup name
        for value in found do say 1 s!"{value}{mark}"
        return if found.length < operands.length then 1 else 0

/-! ## Programs that start others -/

/-- Starts another program in the place of this one; says why if it cannot be started. -/
def become (launcher : Launcher) (complaint : String → LaunchFault → String) (words : List String)
    : Action Nat := do
  match words with
  | [] => return 0
  | name :: arguments =>
      match ← launcher.start true name arguments with
      | .ok (.exit code) => return code
      | .ok (.killed signal) => throw (.killed signal)
      | .error fault =>
          report (complaint name fault)
          return fault.status

/-- Variables with one more, in the place of one of the same name. -/
def withVariable (given : List (String × String)) (name value : String)
    : List (String × String) :=
  if given.any (·.1 == name) then
    given.map fun entry => if entry.1 == name then (name, value) else entry
  else given ++ [(name, value)]

/-- Starts a program with other variables, or tells them. -/
def env : Program := fun launcher arguments =>
  withOptions 125
    { letters := "i0v", marked := "uCS"
      long := ["ignore-environment", "null", "unset=", "chdir=", "split-string=", "debug"]
      anywhere := false }
    (splitArguments arguments) fun options operands => do
      let (bare, operands) := match operands with
        | "-" :: rest => (true, rest)
        | operands => (false, operands)
      let before := (← getThe Machine).given
      let kept := if bare || options.has ["i", "ignore-environment"] then [] else before
      let removed := options.filterMap fun option =>
        if ["u", "unset"].contains option.1 then some option.2 else none
      let kept := kept.filter fun entry => !removed.contains entry.1
      let assigned := operands.takeWhile (·.toList.contains '=')
      let words := operands.drop assigned.length
      let given := assigned.foldl (fun given text =>
        let name := text.toList.takeWhile (· != '=')
        withVariable given (String.ofList name)
          (String.ofList (text.toList.drop (name.length + 1)))) kept
      modifyThe Machine fun machine => { machine with given }
      let directory? := options.last? ["C", "chdir"]
      if words.isEmpty && directory?.isSome then
        misuse 125 "must specify command with --chdir (-C)"
      else
        match directory? with
        | some directory =>
            let machine ← getThe Machine
            match machine.place directory with
            | .ok (.taken location .directory) =>
                modifyThe Machine fun machine =>
                  { machine with
                    world := { machine.world with
                      files := { machine.world.files with base := location } } }
                become launcher complaint words
            | .ok (.taken ..) => refuse directory .notDirectory
            | .ok (.free ..) => refuse directory .notFound
            | .error fault => refuse directory fault
        | none =>
            if words.isEmpty then
              let mark := recordEnd options ["0", "null"]
              for (name, value) in given do say 1 s!"{name}={value}{mark}"
              return 0
            else become launcher complaint words
where
  complaint (name : String) (fault : LaunchFault) : String := s!"{quote name}: {fault.message}"
  refuse (directory : String) (fault : FileFault) : Action Nat := do
    report s!"cannot change directory to {quote directory}: {reason fault}"
    return 125
  /-- Arguments of which the first one is split at blanks if it says so. -/
  splitArguments : List String → List String
    | "-S" :: text :: rest => splitText text ++ rest
    | argument :: rest =>
        if "-S".toList.isPrefixOf argument.toList then
          splitText (String.ofList (argument.toList.drop 2)) ++ rest
        else argument :: rest
    | [] => []
  splitText (text : String) : List String :=
    ((Text.splitOn ' ' text.toList).filter (!·.isEmpty)).map String.ofList

/-- Starts a program that a lost line does not end. -/
def nohup : Program := fun launcher arguments => do
  match (if arguments.head? == some "--" then arguments.drop 1 else arguments) with
  | [] => misuse 125 "missing operand"
  | words =>
      become launcher (fun name fault => s!"failed to run command {quote name}: {fault.message}")
        words

/-- Starts a program with another priority, or tells the priority. -/
def nice : Program := fun launcher arguments =>
  withOptions 125 { letters := "0123456789", marked := "n", long := ["adjustment="]
                    anywhere := false } arguments fun _ words => do
    if words.isEmpty then
      say 1 "0\n"
      return 0
    else become launcher (fun name fault => s!"{quote name}: {fault.message}") words

/-- Starts a program and ends it when it has run too long. -/
def timeout : Program := fun launcher arguments =>
  withOptions 125
    { letters := "v", marked := "sk"
      long := ["signal=", "kill-after=", "preserve-status", "foreground", "verbose"]
      anywhere := false } arguments fun options operands => do
    match operands with
    | [] => misuse 125 "missing operand"
    | [_] => misuse 125 "missing operand"
    | limit :: name :: rest =>
        match interval? limit with
        | none => misuse 125 s!"invalid time interval {quote limit}"
        | some limit =>
            let signalName := (options.last? ["s", "signal"]).getD "TERM"
            match Signal.read? signalName with
            | none => misuse 125 s!"{quote signalName}: invalid signal"
            | some signal => within launcher options signal (limit.filter (0 < ·)) name rest
where
  /-- Runs a program within a limit. -/
  within (launcher : Launcher) (options : GivenOptions) (signal : Signal) (limit : Option Nat)
      (name : String) (arguments : List String) : Action Nat := do
    let machine ← getThe Machine
    let moment := machine.world.clock + limit.getD 0
    let setLimit (limit : Option (Nat × Signal)) : Action Unit :=
      modifyThe Machine fun machine => { machine with limit }
    if limit.isSome then setLimit (some (moment, signal))
    let result ← tryCatch (launcher.start false name arguments) fun
      | .late =>
          if limit.isSome then return .ok (.killed signal) else throw .late
      | halt => throw halt
    setLimit machine.limit
    let late := limit.isSome && moment ≤ (← getThe Machine).world.clock
    match result with
    | .error fault =>
        report s!"failed to run command {quote name}: {fault.message}"
        return fault.status
    | .ok ending =>
        if late && signal == Signal.kill then throw (.killed Signal.kill)
        else if late && !options.has ["preserve-status"] then return 124
        else return ending.status

end Groundwork.Shell.Program
