import Groundwork.Shell.Builtin
import Groundwork.Shell.Program.Table
import Groundwork.Shell.Reader

/-!
The running of command lines. Processes run one after the other, each on its own time: commands that
are joined by pipes begin at the same moment, and each has the whole output of the one before it as
its input. Every run is bounded by its fuel.
-/

namespace Groundwork.Shell

/-! ## Processes -/

/-- Notices signals that were sent to this process while another one ran. -/
def noticeSignals : Action Unit := do
  let machine ← getThe Machine
  if machine.world.pending.isEmpty then return ()
  else
    let mine := machine.world.pending.filter (·.1 == machine.process)
    let deadly := mine.find? fun (_, signal) =>
      signal == Signal.kill ||
        (!machine.traps.contains signal && !Signal.isHarmless signal)
    match deadly with
    | some (_, signal) => throw (.killed signal)
    | none =>
        let kept := machine.world.pending.filter fun (process, signal) =>
          process != machine.process || (machine.traps.get? signal).any (!·.isEmpty)
        modifyThe Machine fun machine =>
          { machine with world := { machine.world with pending := kept } }

/-- The way in which a process ends that has come to a halt. -/
def endingOf (status : Nat) : Halt → Ending
  | .exit code | .back code => .exit (code % 256)
  | .killed signal => .killed signal
  | .failed => .exit 2
  | .leave .. => .exit status
  | .late => .killed Signal.kill

/-- Does something in a process of its own, of which only the world stays. -/
def inProcess (action : Action Unit) : Action Ending := do
  let before ← getThe Machine
  let process := before.world.processes + 1
  modifyThe Machine fun machine =>
    { machine with
      process
      ancestors := before.process :: before.ancestors
      jobs := []
      traps := before.traps.filter fun entry => entry.2.isEmpty
      world := { machine.world with processes := process } }
  let halt ← tryCatch (do action; return none) fun halt => return some halt
  let after ← getThe Machine
  modifyThe Machine fun _ =>
    { before with
      world := { after.world with
        files := { after.world.files with base := before.world.files.base }
        pending := after.world.pending.filter (·.1 != process) } }
  match halt with
  | none => return .exit (after.status % 256)
  | some .late => throw .late
  | some halt => return endingOf after.status halt

/-- Takes in how a process ended that was waited for. -/
def takeEnding (ending : Ending) : Action Unit := do
  match ending with
  | .killed signal =>
      match Signal.notice? signal with
      | some notice => say 2 s!"{notice}\n"
      | none => pure ()
  | .exit _ => pure ()
  setStatus ending.status
  noticeSignals
  checkTime

/-- Runs the body of a loop. Tells whether the loop goes on. -/
def roundOf (body : Action Unit) : Action Bool :=
  tryCatch (do body; return true) fun
    | .leave 1 again | .leave 0 again => return again
    | .leave (levels + 1) again => do
        modifyThe Machine fun machine => { machine with status := 0 }
        throw (.leave levels again)
    | halt => throw halt

/-- Counts a loop around what is done. -/
def inLoop (action : Action Unit) : Action Unit := do
  let loops := (← getThe Machine).loops
  let restore : Action Unit := modifyThe Machine fun machine => { machine with loops }
  modifyThe Machine fun machine => { machine with loops := loops + 1 }
  tryCatch action fun halt => do
    restore
    throw halt
  restore

/-! ## Redirections -/

/-- What a shell says of a file that it cannot create. -/
def creationReason (fault : FileFault) : String :=
  if fault == .notFound || fault == .notDirectory then "Directory nonexistent" else reason fault

/-- What a shell says of a file that it cannot open. -/
def openingReason (fault : FileFault) : String :=
  if fault == .notFound || fault == .notDirectory then "No such file" else reason fault

/-- What a path leads to that is open already. -/
def openAlready (path : String) : Action (Option Nat) := do
  match device? path, channelOf? path with
  | some opened, _ => return some (← openNew opened)
  | none, some channel => return (← getThe Machine).channels.get? channel
  | none, none => return none

/-- Opens a file for writing: empty, or with what it holds. -/
def openOutput (path : String) (kind : RedirectKind) : Action (Option Nat) := do
  match ← openAlready path with
  | some number => return some number
  | none =>
      let machine ← getThe Machine
      let target := machine.path path
      let refuse (text : String) : Action (Option Nat) := do
        complain s!"cannot create {path}: {text}"
        return none
      if kind == .output && machine.has 'C' && (machine.world.files.read target).toBool then
        refuse "File exists"
      else
        let before := if kind == .append || kind == .update then
          (machine.world.files.read target).toOption.getD .empty else .empty
        match ← changeFiles (·.write target before) with
        | some fault => refuse (creationReason fault)
        | none =>
            match (← files).place target with
            | .ok (.taken location _) =>
                return some (← openNew (.file location 0 (kind == .append)))
            | _ => return none

/-- Opens a file for reading. -/
def openInput (path : String) : Action (Option Nat) := do
  match ← openAlready path with
  | some number => return some number
  | none =>
      let machine ← getThe Machine
      match machine.place path with
      | .ok (.taken location _) => return some (← openNew (.file location 0 false))
      | .ok (.free ..) =>
          complain s!"cannot open {path}: {openingReason .notFound}"
          return none
      | .error fault =>
          complain s!"cannot open {path}: {openingReason fault}"
          return none

/-- Follows a redirection with an expanded target. Tells whether it could be followed. -/
def follow (channel : Nat) (kind : RedirectKind) (target : String) : Action Bool := do
  let lead (number? : Option Nat) : Action Bool := do
    match number? with
    | some number =>
        setChannel channel (some number)
        return true
    | none => return false
  match kind with
  | .input => lead (← openInput target)
  | .output | .force | .append | .update => lead (← openOutput target kind)
  | .here => lead (some (← openBytes target.toUTF8))
  | .duplicate =>
      if target == "-" then
        setChannel channel none
        return true
      else
        match (← getThe Machine).channels.get? (target.toNat?.getD 0) with
        | some number =>
            setChannel channel (some number)
            return true
        | none =>
            complain s!"{target}: Bad file descriptor"
            return false

/-- The redirections of a command with their targets expanded. -/
def expandRedirects (substitute : Command → Action ByteArray) (redirects : List Redirect)
    : Action (List (Nat × RedirectKind × String)) :=
  redirects.mapM fun redirect => do
    let target ← expandText substitute false redirect.target
    if redirect.kind == .duplicate && target != "-" &&
        !(target.length == 1 && target.toList.all Char.isDigit) then
      giveUp "Syntax error: Bad fd number"
    return (redirect.channel, redirect.kind, target)

/-- Follows redirections in order. Tells whether all could be followed. -/
def followAll : List (Nat × RedirectKind × String) → Action Bool
  | [] => return true
  | (channel, kind, target) :: rest => do
      if ← follow channel kind target then followAll rest else return false

/-! ## Programs -/

/-- What a command name leads to. -/
inductive Found where
  | program (path : String) (run : Program)
  /-- A shell, by its name. -/
  | shell (path : String)
  /-- A file of the tree, by its path. -/
  | script (path : String) (content : ByteArray)

/-- The program that lies at a path outside of the tree. -/
def systemProgram? (path : String) : Option Found :=
  match Program.plainName? path with
  | none => none
  | some name =>
      if Program.shellNames.contains name then some (.shell path)
      else (Program.named? name).map (.program path)

/-- The program at a path. -/
def atPath (machine : Machine) (path : String) : Except LaunchFault Found :=
  match systemProgram? path with
  | some found => .ok found
  | none =>
      let target := machine.path path
      match machine.world.files.place target with
      | .ok (.taken _ .directory) => .error .denied
      | .ok (.taken _ (.file content executable)) =>
          if executable then .ok (.script path content) else .error .denied
      | .ok (.free ..) => .error .notFound
      | .error .notDirectory => .error .notDirectory
      | .error _ => .error .notFound

/-- The program of a name, looked for in the directories of a search path. -/
def searchPath (machine : Machine) (search : String) (name : String)
    : Except LaunchFault Found :=
  let places := (Text.splitOn ':' search.toList).map fun place =>
    if place.isEmpty then name else s!"{String.ofList place}/{name}"
  (places.foldl (fun found path =>
    match found with
    | .ok found => .ok found
    | .error fault =>
        match atPath machine path with
        | .ok found => .ok found
        | .error .denied =>
            if machine.world.files.isDirectory (machine.path path) then .error fault
            else .error .denied
        | .error _ => .error fault) (.error .notFound))

/-- The program that a name stands for. -/
def findProgram (machine : Machine) (search : Option String) (name : String)
    : Except LaunchFault Found :=
  if name.isEmpty then .error .notFound
  else if name.toList.contains '/' then atPath machine name
  else searchPath machine (search.getD "") name

/-- The path of a found program. -/
def Found.path : Found → String
  | .program path _ | .shell path | .script path _ => path

/-- The program and the argument that the first line of a script names. -/
def interpreter? (content : ByteArray) : Option (String × Option String) :=
  match content.data.toList with
  | 35 :: 33 :: rest =>
      let line := (bytesText (rest.takeWhile (· != 10))).toList
      let isGap (c : Char) : Bool := c == ' ' || c == '\t'
      let line := ((line.dropWhile isGap).reverse.dropWhile isGap).reverse
      let name := line.takeWhile (!isGap ·)
      let argument := (line.drop name.length).dropWhile isGap
      if name.isEmpty then none
      else some (String.ofList name,
        if argument.isEmpty then none else some (String.ofList argument))
  | _ => none

/-- What a shell says of a program that it cannot start. -/
def launchReason : LaunchFault → String
  | .notFound | .notDirectory => "not found"
  | fault => fault.message

/-- The place of a variable in the order in which programs are given them. -/
def environmentRank (name : String) : Nat :=
  let bytes := name.toUTF8.data.toList.map UInt8.toNat
  (bytes.foldl (· + ·) (16 * bytes.headD 0)) % 39

/-- The variables that programs are given, in their order. -/
def givenVariables (machine : Machine) : List (String × String) :=
  machine.environment.mergeSort fun a b => environmentRank a.1 ≤ environmentRank b.1

/-- The path of the program that a name stands for. -/
def whereIs (name : String) : Action (Option String) := do
  let machine ← getThe Machine
  return (findProgram machine (machine.given.lookup "PATH") name).toOption.map Found.path

/-! ## Shells -/

/-- How the arguments of a shell are to be taken. -/
structure ShellStart where
  fromText : Bool := false
  operands : List String := []

/-- Reads the arguments of a shell, and sets its options. -/
def readShellArguments (start : ShellStart) : List String → Action ShellStart
  | [] => return start
  | argument :: rest => do
      match argument.toList with
      | ['-'] | ['-', '-'] => return { start with operands := rest }
      | sign :: letters =>
          if sign == '-' || sign == '+' then
            let start := { start with fromText := start.fromText || letters.contains 'c' }
            let named := letters.contains 'o'
            for c in letters do
              if c == 'o' then
                match (rest.head?).bind fun name =>
                    Builtin.optionNames.find? fun entry => entry.1 == name with
                | some (_, letter) => Builtin.setOption letter (sign == '-')
                | none => giveUp ("Illegal option -o " ++ rest.headD "")
              else if c != 'c' && c != 'l' then Builtin.setOption c (sign == '-')
            match rest with
            | name :: rest =>
                if named then readShellArguments start rest
                else readShellArguments start (name :: rest)
            | [] => return start
          else return { start with operands := argument :: rest }
      | [] => return { start with operands := argument :: rest }

/-- The machine of a shell that has just been started under a name. -/
def freshShell (machine : Machine) (name : String) : Machine :=
  let here := (machine.given.lookup "PWD").filter fun path =>
    Machine.locationText machine.world.files.base == path
  let here := here.getD (Machine.locationText machine.world.files.base)
  let given := (Dictionary.ofList machine.given).map fun (key, value) =>
    (key, ({ value := some value, exported := true } : Binding))
  let given := given.filter fun entry => isName entry.1.toList
  let set (bindings : Dictionary String Binding) (key value : String) (exported : Bool)
      : Dictionary String Binding :=
    bindings.insert key { value := some value, exported }
  let bindings := set (set (set given "IFS" " \t\n" false) "OPTIND" "1" false) "PWD" here true
  { world := machine.world
    process := machine.process
    shell := machine.process
    ancestors := machine.ancestors
    channels := machine.channels
    traps := machine.traps.filter fun entry => entry.2.isEmpty
    mask := machine.mask
    given := machine.given
    name, here
    program := name
    verbose := Program.plainName? name == some "bash" || name == "bash"
    bindings := if (bindings.get? "PS4").isSome then bindings else set bindings "PS4" "+ " false }

/-! ## Runs -/

/-- How a command is run. -/
structure Mode where
  /-- Its failure is looked at. -/
  tested : Bool := false
  /-- Nothing is run by the shell after it. -/
  last : Bool := false

/-- The mode of a command before others. -/
def Mode.before (mode : Mode) : Mode := { mode with last := false }

/-- Leaves the shell if it is set to do so at a failure. -/
def checkStatus (checks : Bool) : Action Unit := do
  let status := (← getThe Machine).status
  if checks && status != 0 then throw (.exit status)

/-- Restores variables. -/
def restoreBindings (before : List (String × Option Binding)) : Action Unit :=
  modifyThe Machine fun machine =>
    { machine with
      bindings := before.foldl (fun bindings (name, binding?) =>
        match binding? with
        | some binding => bindings.insert name binding
        | none => bindings.erase name) machine.bindings }

/-- The words of a trace. -/
def traceText (assignments : List (String × String)) (words : List String) : String :=
  " ".intercalate ((assignments.map fun (name, value) => s!"{name}={value}") ++ words)

mutual

/-- Runs a command. -/
def runCommand (fuel : Nat) (mode : Mode) (command : Command) : Action Unit :=
  match fuel with
  | 0 => throw .late
  | fuel + 1 => do
      let machine ← getThe Machine
      if machine.has 'n' then return ()
      runTraps fuel
      let checks := machine.has 'e' && !mode.tested
      let substitute := outputOf fuel
      match command with
      | .simple line assignments words redirects =>
          modifyThe Machine fun machine => { machine with line, substituted := 0 }
          runSimple fuel mode assignments words redirects
          runTraps fuel
          checkStatus checks
      | .pipeline parts =>
          let endings ← runPipeline fuel mode machine.world.clock none parts
          for ending in endings do takeEnding ending
          runTraps fuel
          checkStatus checks
      | .subshell line body redirects =>
          modifyThe Machine fun machine => { machine with line }
          let targets ← expandRedirects substitute redirects
          let inner : Action Unit := do
            if ← followAll targets then runCommand fuel { mode with last := true } body
            else throw (.exit 2)
          if mode.last && machine.traps.isEmpty then
            inner
            throw (.exit (← getThe Machine).status)
          else
            takeEnding (← inProcess (asShell fuel inner))
            runTraps fuel
            checkStatus checks
      | .background command => runBackground fuel command
      | .negated command =>
          runCommand fuel { tested := true } command
          setStatus (if (← getThe Machine).status == 0 then 1 else 0)
      | .both left right =>
          runCommand fuel { tested := true } left
          if (← getThe Machine).status == 0 then runCommand fuel mode right
      | .either left right =>
          runCommand fuel { tested := true } left
          if (← getThe Machine).status != 0 then runCommand fuel mode right
      | .sequence commands => runAll fuel mode commands
      | .conditional test yes no =>
          runCommand fuel { tested := true } test
          if (← getThe Machine).status == 0 then runCommand fuel mode yes
          else
            setStatus 0
            runCommand fuel mode no
      | .loop negated test body => inLoop (runLoop fuel mode.before 0 negated test body)
      | .forEach line name items body =>
          modifyThe Machine fun machine => { machine with line }
          let words ← items.mapM (expandWord substitute)
          setStatus 0
          inLoop (runFor fuel mode.before name words.flatten body)
      | .select line subject branches =>
          modifyThe Machine fun machine => { machine with line }
          let text ← expandText substitute false subject
          setStatus 0
          runBranches fuel mode text branches
      | .redirected line command redirects =>
          modifyThe Machine fun machine => { machine with line }
          let targets ← expandRedirects substitute redirects
          keepingChannels do
            if ← followAll targets then runCommand fuel mode.before command
            else setStatus 2
      | .function name line body =>
          modifyThe Machine fun machine =>
            { machine with
              functions := machine.functions.insert name (line, body)
              status := 0 }

/-- Runs the actions of signals that have been caught. -/
def runTraps (fuel : Nat) : Action Unit :=
  match fuel with
  | 0 => throw .late
  | fuel + 1 => do
      let machine ← getThe Machine
      match machine.world.pending.find? (·.1 == machine.process) with
      | none => return ()
      | some entry =>
          modifyThe Machine fun machine =>
            { machine with
              world := { machine.world with pending := machine.world.pending.erase entry } }
          match machine.traps.get? entry.2 with
          | some action =>
              runText fuel { tested := false } false action.toList
              setStatus machine.status
              runTraps fuel
          | none => runTraps fuel

/-- Runs commands in order. -/
def runAll (fuel : Nat) (mode : Mode) (commands : List Command) : Action Unit :=
  match fuel with
  | 0 => throw .late
  | fuel + 1 =>
      match commands with
      | [] => return ()
      | [command] => runCommand fuel mode command
      | command :: rest => do
          runCommand fuel mode.before command
          runAll fuel mode rest

/-- Does something that ends a shell, and what the shell does at its end. -/
def asShell (fuel : Nat) (action : Action Unit) : Action Unit :=
  match fuel with
  | 0 => throw .late
  | fuel + 1 => do
      tryCatch action fun
        | .exit code | .back code => setStatus (code % 256)
        | .failed => setStatus 2
        | .leave .. => return ()
        | halt => throw halt
      let machine ← getThe Machine
      match machine.traps.get? 0 with
      | none => return ()
      | some action =>
          modifyThe Machine fun machine =>
            { machine with traps := machine.traps.erase 0, loops := 0 }
          let status ← tryCatch (do runText fuel {} false action.toList; return machine.status) fun
            | .exit code => return code % 256
            | .failed => return 2
            | .back _ | .leave .. => return machine.status
            | halt => throw halt
          setStatus status

/-- Runs commands joined by pipes, all from one moment on and the first with some input. Gives how
they ended. -/
def runPipeline (fuel : Nat) (mode : Mode) (start : Nat) (input : Option Nat)
    (parts : List Command) : Action (List Ending) :=
  match fuel with
  | 0 => throw .late
  | fuel + 1 =>
      match parts with
      | [] => return []
      | part :: rest => do
          let output ← if rest.isEmpty then pure none else some <$> openNew (.pipe [] start)
          let moment := (← getThe Machine).world.clock
          let setClock (clock : Nat) : Action Unit :=
            modifyThe Machine fun machine =>
              { machine with world := { machine.world with clock } }
          setClock start
          let run : Action Ending := keepingChannels do
            if input.isSome then setChannel 0 input
            if output.isSome then setChannel 1 output
            inProcess (asShell fuel (runCommand fuel { mode with last := true } part))
          let ending ← tryCatch run fun halt =>
            match halt, output with
            | .late, some _ => return .killed Signal.pipe
            | halt, _ => throw halt
          match output with
          | some number => closePipe number
          | none => pure ()
          let after := (← getThe Machine).world.clock
          setClock (max moment after)
          return ending :: (← runPipeline fuel mode start output rest)

/-- Runs a command beside the shell. -/
def runBackground (fuel : Nat) (command : Command) : Action Unit :=
  match fuel with
  | 0 => throw .late
  | fuel + 1 => do
      let before ← getThe Machine
      modifyThe Machine fun machine =>
        { machine with world := { machine.world with clock := machine.world.clock + 1 } }
      let action : Action Unit := do
        setChannel 0 (some (← openNew .nothing))
        match command with
        | .subshell line body redirects =>
            runCommand fuel { last := true } (.subshell line body redirects)
        | command => runCommand fuel { last := true } command
      let process := (← getThe Machine).world.processes + 1
      let ending ← tryCatch (keepingChannels (inProcess (asShell fuel action))) fun halt =>
        match halt with
        | .late => return .killed Signal.kill
        | halt => throw halt
      modifyThe Machine fun machine =>
        { machine with
          jobs := machine.jobs ++ [⟨process, machine.world.clock, ending⟩]
          lastJob := some process
          status := 0
          world := { machine.world with clock := before.world.clock } }

/-- Runs a loop, which has some status if it does not go on. -/
def runLoop (fuel : Nat) (mode : Mode) (status : Nat) (negated : Bool) (test body : Command)
    : Action Unit :=
  match fuel with
  | 0 => throw .late
  | fuel + 1 => do
      let outcome ← tryCatch (do
          runCommand fuel { tested := true } test
          return some ((← getThe Machine).status == 0)) fun
        | .leave 1 again | .leave 0 again => return if again then none else some negated
        | .leave (levels + 1) again => throw (.leave levels again)
        | halt => throw halt
      match outcome with
      | none => runLoop fuel mode status negated test body
      | some outcome =>
          if outcome == negated then setStatus status
          else if ← roundOf (runCommand fuel mode body) then
            runLoop fuel mode (← getThe Machine).status negated test body

/-- Runs a body for each of some words. -/
def runFor (fuel : Nat) (mode : Mode) (name : String) (words : List String) (body : Command)
    : Action Unit :=
  match fuel with
  | 0 => throw .late
  | fuel + 1 =>
      match words with
      | [] => return ()
      | word :: rest => do
          setVariable name word
          if ← roundOf (runCommand fuel mode body) then runFor fuel mode name rest body

/-- Runs the first branch with a pattern that matches a text. -/
def runBranches (fuel : Nat) (mode : Mode) (text : String)
    (branches : List (List Word × Command)) : Action Unit :=
  match fuel with
  | 0 => throw .late
  | fuel + 1 =>
      match branches with
      | [] => return ()
      | (patterns, body) :: rest => do
          let globs ← patterns.mapM fun pattern =>
            return piecePattern (← expandWhole (outputOf fuel) false pattern)
          if globs.any (·.accepts text) then runCommand fuel mode body
          else runBranches fuel mode text rest

/-- Expands the words of a simple command. After a command that takes them, assignments are not
split. -/
def expandWords (fuel : Nat) (words : List Word) (sofar : List String) : Action (List String) :=
  match fuel with
  | 0 => throw .late
  | fuel + 1 =>
      match words with
      | [] => return sofar
      | word :: rest => do
          let command := (sofar.dropWhile (· == "command")).head?
          let found ←
            match (if command.any Builtin.assigning.contains then assignment? word else none) with
            | some (name, value) => do
                let text ← expandText (outputOf fuel) true value
                pure [s!"{name}={text}"]
            | none => expandWord (outputOf fuel) word
          expandWords fuel rest (sofar ++ found)

/-- Runs a simple command. -/
def runSimple (fuel : Nat) (mode : Mode) (assignments : List (String × Word)) (words : List Word)
    (redirects : List Redirect) : Action Unit :=
  match fuel with
  | 0 => throw .late
  | fuel + 1 => do
      let substitute := outputOf fuel
      let expanded ← expandWords fuel words []
      let machine ← getThe Machine
      let name := expanded.head?.getD ""
      let isFunction := machine.functions.contains name
      let special := !expanded.isEmpty && !isFunction && specialCommands.contains name
      let targets ← expandRedirects substitute redirects
      let bare := expanded.isEmpty
      let replaced := name == "exec" && !isFunction
      let before := machine.channels
      let errors := machine.channels.get? 2
      if !(← followAll targets) then
        modifyThe Machine fun machine => { machine with channels := before, status := 2 }
        if special then throw .failed
      else
        let restoreChannels : Action Unit := do
          if !replaced then
            modifyThe Machine fun machine => { machine with channels := before }
        let run : Action Unit := do
          let hides := !bare && !special
          let mut hidden : List (String × Option Binding) := []
          let mut shown : List (String × String) := []
          for (key, value) in assignments do
            let text ← expandText substitute true value
            if hides then hidden := (key, (← getThe Machine).bindings.get? key) :: hidden
            setVariable key text
            if hides || (replaced && 1 < expanded.length) then
              changeBinding key ({ · with exported := true })
            shown := shown ++ [(key, text)]
          trace fuel errors shown expanded
          if bare then setStatus (← getThe Machine).substituted
          else
            let back := hidden
            tryCatch (runNamed fuel mode special expanded) fun halt => do
              restoreBindings back
              throw halt
            restoreBindings back
        tryCatch run fun halt => do
          restoreChannels
          throw halt
        restoreChannels

/-- Writes what is run to the error channel, if the shell is set to do so. -/
def trace (fuel : Nat) (errors : Option Nat) (assignments : List (String × String))
    (words : List String) : Action Unit :=
  match fuel with
  | 0 => throw .late
  | fuel + 1 => do
      let machine ← getThe Machine
      if machine.has 'x' && !machine.tracing then
        modifyThe Machine fun machine => { machine with tracing := true }
        let source := (machine.value? "PS4").getD ""
        let length := readingFuel source.toList
        let parts := match (readParts length { quoted := true, ending := .text } []).run
            { text := source.toList } with
          | .ok (parts, _) => finishWord parts
          | .error _ => [.text source.toList true]
        let lead ← expandText (outputOf fuel) false parts
        modifyThe Machine fun machine => { machine with tracing := false }
        keepingChannels do
          setChannel 2 errors
          say 2 s!"{lead}{traceText assignments words}\n"

/-- Runs a command by its name. -/
def runNamed (fuel : Nat) (mode : Mode) (special : Bool) (words : List String) : Action Unit :=
  match fuel with
  | 0 => throw .late
  | fuel + 1 => do
      let machine ← getThe Machine
      match words with
      | [] => return ()
      | name :: arguments =>
          match machine.functions.get? name with
          | some (line, body) => runFunction fuel mode line body arguments
          | none =>
              if Builtin.isBuiltin name then runBuiltin fuel mode special name arguments
              else runExternal fuel mode (machine.value? "PATH") name arguments

/-- Runs a function. -/
def runFunction (fuel : Nat) (mode : Mode) (line : Nat) (body : Command) (arguments : List String)
    : Action Unit :=
  match fuel with
  | 0 => throw .late
  | fuel + 1 => do
      let machine ← getThe Machine
      modifyThe Machine fun machine =>
        { machine with
          parameters := arguments
          functionLine := line
          loops := 0
          optionOffset := 0
          hidden := [] :: machine.hidden }
      let restore : Action Unit := do
        restoreBindings ((← getThe Machine).hidden.headD [])
        modifyThe Machine fun after =>
          { after with
            parameters := machine.parameters
            functionLine := machine.functionLine
            loops := machine.loops
            optionOffset := machine.optionOffset
            hidden := machine.hidden }
      tryCatch (runCommand fuel { tested := mode.tested } body) fun
        | .back code => setStatus code
        | halt => do restore; throw halt
      restore

/-- Runs a command of the shell itself. After a fault in a special one the shell does not go on. -/
def runBuiltin (fuel : Nat) (mode : Mode) (special : Bool) (name : String)
    (arguments : List String) : Action Unit :=
  match fuel with
  | 0 => throw .late
  | fuel + 1 => do
      let subject := (← getThe Machine).subject
      let restore : Action Unit := modifyThe Machine fun machine => { machine with subject }
      modifyThe Machine fun machine => { machine with subject := some name }
      let run : Action Unit :=
        match name with
        | "eval" => do
            setStatus 0
            runText fuel { tested := mode.tested } false (" ".intercalate arguments).toList
        | "." => do
            match arguments with
            | [] => setStatus 0
            | path :: _ => runScript fuel path
        | "exec" => do
            match arguments with
            | [] => setStatus 0
            | name :: arguments =>
                let machine ← getThe Machine
                match findProgram machine (machine.value? "PATH") name with
                | .ok found =>
                    modifyThe Machine fun machine => { machine with traps := [] }
                    replaceBy fuel found name arguments
                | .error fault =>
                    complain s!"{name}: {launchReason fault}"
                    throw (.exit fault.status)
        | "command" => do
            let (found, operands) ← Builtin.letters "pvV" arguments
            modifyThe Machine fun machine => { machine with subject }
            match found.find? (· != 'p'), operands with
            | _, [] => setStatus 0
            | some letter, name :: _ => describe (letter == 'V') name
            | none, name :: rest =>
                if Builtin.isBuiltin name then runBuiltin fuel mode false name rest
                else
                  let own := (← getThe Machine).value? "PATH"
                  runExternal fuel mode (if found.isEmpty then own else some Program.standardPath)
                    name rest
        | "type" => do
            let mut status := 0
            for name in arguments do
              describe true name
              status := max status (← getThe Machine).status
            setStatus status
        | name => do
            match Builtin.table.lookup name with
            | some builtin => setStatus (← builtin arguments)
            | none => setStatus 127
      tryCatch run fun
        | .failed => do
            restore
            setStatus 2
            if special then throw .failed
        | halt => do
            restore
            throw halt
      restore
where
  /-- Tells what a name stands for. -/
  describe (long : Bool) (name : String) : Action Unit := do
    let machine ← getThe Machine
    let tell (text : String) : Action Unit := do
      say 1 (if long then s!"{name}{text}\n" else s!"{name}\n")
      setStatus 0
    if reservedWords.contains name then tell " is a shell keyword"
    else
      match machine.aliases.get? name with
      | some value =>
          if long then tell s!" is an alias for {value}"
          else
            say 1 s!"alias {name}={Builtin.quoted value}\n"
            setStatus 0
      | none =>
          if machine.functions.contains name then tell " is a shell function"
          else if Builtin.isBuiltin name then
            tell (if specialCommands.contains name then " is a special shell builtin"
              else " is a shell builtin")
          else
            let found? := if name.toList.contains '/' then
                if (systemProgram? name).isSome || machine.isThere name then some name else none
              else (findProgram machine (machine.value? "PATH") name).toOption.map Found.path
            match found? with
            | some path =>
                let tracked := if machine.hashed.contains name then " a tracked alias for" else ""
                say 1 (if long then s!"{name} is{tracked} {path}\n" else s!"{path}\n")
                setStatus 0
            | none =>
                if long then say 1 s!"{name}: not found\n"
                setStatus 127

/-- Runs the commands of a script in this shell. -/
def runScript (fuel : Nat) (path : String) : Action Unit :=
  match fuel with
  | 0 => throw .late
  | fuel + 1 => do
      let machine ← getThe Machine
      let path? ←
        if path.toList.contains '/' then pure (some path)
        else
          let places := (Text.splitOn ':' ((machine.value? "PATH").getD "").toList).map fun place =>
            if place.isEmpty then path else s!"{String.ofList place}/{path}"
          pure (places.find? fun place =>
            (machine.content place).toBool)
      match path? with
      | none => giveUp s!"{path}: not found"
      | some path =>
          match ← fileContent path with
          | .ok content =>
              modifyThe Machine fun machine => { machine with subject := some path, status := 0 }
              tryCatch (runText fuel {} (machine.has 'v') (Text.decodeLossy content).toList) fun
                | .back code => setStatus code
                | halt => throw halt
          | .error .isDirectory => setStatus 0
          | .error fault => giveUp s!"cannot open {path}: {openingReason fault}"

/-- Runs a program that is found by its name. -/
def runExternal (fuel : Nat) (mode : Mode) (search : Option String) (name : String)
    (arguments : List String) : Action Unit :=
  match fuel with
  | 0 => throw .late
  | fuel + 1 => do
      let machine ← getThe Machine
      match findProgram machine search name with
      | .error fault =>
          complain (if machine.verbose && fault == .notFound && !name.toList.contains '/' then
              s!"{name}: command not found"
            else if machine.verbose then s!"{name}: {fault.message}"
            else s!"{name}: {launchReason fault}")
          setStatus fault.status
      | .ok found =>
          if !name.toList.contains '/' then
            modifyThe Machine fun machine =>
              { machine with hashed := if machine.hashed.contains name then machine.hashed
                  else name :: machine.hashed }
          if mode.last && machine.traps.isEmpty then replaceBy fuel found name arguments
          else
            takeEnding (← inProcess (replaceBy fuel found name arguments))

/-- Runs a program in the place of the shell. -/
def replaceBy (fuel : Nat) (found : Found) (name : String) (arguments : List String)
    : Action Unit :=
  match fuel with
  | 0 => throw .late
  | fuel + 1 => do
      modifyThe Machine fun machine => { machine with given := givenVariables machine }
      match ← execute fuel found name arguments with
      | .ok () => return ()
      | .error .format => do
          let path := found.path
          match ← execute fuel (.shell "/bin/sh") "/bin/sh" (path :: arguments) with
          | .ok () => return ()
          | .error fault => throw (.exit fault.status)
      | .error fault =>
          complain s!"{name}: {launchReason fault}"
          throw (.exit fault.status)

/-- Executes a program in the place of this process, if it is one. -/
def execute (fuel : Nat) (found : Found) (name : String) (arguments : List String)
    : Action (Except LaunchFault Unit) :=
  match fuel with
  | 0 => throw .late
  | fuel + 1 => do
      match found with
      | .program _ run =>
          modifyThe Machine fun machine => { machine with program := name, subject := none }
          throw (.exit (← run ⟨launch fuel, whereIs⟩ arguments))
      | .shell _ =>
          startShell fuel name arguments
          throw (.exit (← getThe Machine).status)
      | .script path content =>
          match interpreter? content with
          | none => return .error .format
          | some (interpreter, argument) =>
              let machine ← getThe Machine
              match findProgram machine (some "") interpreter with
              | .ok found =>
                  execute fuel found interpreter (argument.toList ++ path :: arguments)
              | .error fault => return .error fault

/-- Starts a program for another one: in its place, or in a process of its own. -/
def launch (fuel : Nat) (inPlace : Bool) (name : String) (arguments : List String)
    : Action (Except LaunchFault Ending) :=
  match fuel with
  | 0 => throw .late
  | fuel + 1 => do
      let machine ← getThe Machine
      match findProgram machine (machine.given.lookup "PATH") name with
      | .error fault => return .error fault
      | .ok found =>
          let run : Action (Except LaunchFault Unit) := do
            match ← execute fuel found name arguments with
            | .error .format => execute fuel (.shell "/bin/sh") "/bin/sh" (found.path :: arguments)
            | result => return result
          if inPlace then
            match ← run with
            | .ok () => return .ok (.exit 0)
            | .error fault => return .error fault
          else
            match found with
            | .script _ content =>
                match interpreter? content with
                | some (interpreter, _) =>
                    match findProgram machine (some "") interpreter with
                    | .error fault => return .error fault
                    | .ok _ => return .ok (← inProcess (do let _ ← run))
                | none => return .ok (← inProcess (do let _ ← run))
            | _ => return .ok (← inProcess (do let _ ← run))

/-- Starts a shell with arguments: a command line after `-c`, or the path of a script. -/
def startShell (fuel : Nat) (name : String) (arguments : List String) : Action Unit :=
  match fuel with
  | 0 => throw .late
  | fuel + 1 => do
      modifyThe Machine fun machine => { freshShell machine name with line := 0 }
      let begin (name : String) (parameters : List String) : Action Unit :=
        modifyThe Machine fun machine => { machine with name, parameters, line := 1 }
      asShell fuel do
        let start ← readShellArguments {} arguments
        match start.fromText, start.operands with
        | true, text :: operands =>
            begin (operands.head?.getD name) (operands.drop 1)
            runText fuel { last := true } false text.toList
        | true, [] => giveUp "-c requires an argument"
        | false, operands =>
            let machine ← getThe Machine
            if operands.isEmpty || machine.has 's' then
              modifyThe Machine fun machine => { machine with parameters := operands, line := 1 }
              let content ← readAll 0
              runText fuel {} (machine.has 'v') (Text.decodeLossy content).toList
            else
              let path := operands.headD ""
              match ← fileContent path with
              | .ok content =>
                  begin path (operands.drop 1)
                  runText fuel {} (machine.has 'v') (Text.decodeLossy content).toList
              | .error .isDirectory => setStatus 0
              | .error fault => giveUp s!"cannot open {path}: {openingReason fault}"

/-- Runs the commands of a text. With `shown` its lines are written to the error channel as they are
read. -/
def runText (fuel : Nat) (mode : Mode) (shown : Bool) (text : List Char) : Action Unit :=
  match fuel with
  | 0 => throw .late
  | fuel + 1 => do runLines fuel mode shown { text }

/-- Runs the commands of the lines that are left of a text. -/
def runLines (fuel : Nat) (mode : Mode) (shown : Bool) (source : Source) : Action Unit :=
  match fuel with
  | 0 => throw .late
  | fuel + 1 => do
      let machine ← getThe Machine
      match readLine { source with aliases := machine.aliases } with
      | .error (fault, line) =>
          modifyThe Machine fun machine => { machine with line }
          giveUp fault.message
      | .ok (command, rest) =>
          if shown then
            say 2 (String.ofList (source.text.take (source.text.length - rest.text.length)))
          match command with
          | none => return ()
          | some command =>
              let atEnd := match rest.putBack with
                | some .ending => true
                | _ => false
              match command with
              | .sequence [] => pure ()
              | command => runCommand fuel { mode with last := mode.last && atEnd } command
              if atEnd then return () else runLines fuel mode shown rest

/-- The output of a command. -/
def outputOf (fuel : Nat) (command : Command) : Action ByteArray :=
  match fuel with
  | 0 => throw .late
  | fuel + 1 => do
      let clock := (← getThe Machine).world.clock
      match command with
      | .sequence [] =>
          modifyThe Machine fun machine => { machine with substituted := 0 }
          return .empty
      | command =>
          let output ← openNew (.pipe [] clock)
          let ending ← keepingChannels do
            setChannel 1 (some output)
            inProcess (asShell fuel (runCommand fuel { last := true } command))
          let status := (← getThe Machine).status
          takeEnding ending
          modifyThe Machine fun machine =>
            { machine with substituted := machine.status, status }
          match (← getThe Machine).world.opened.get? output with
          | some (.pipe pieces _) => return (Machine.joinPieces pieces).1
          | _ => return .empty

end

/-- The fuel of a run: what takes longer is taken to have no end. -/
def runFuel : Nat := 100000

end Groundwork.Shell
