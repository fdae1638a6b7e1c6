import Groundwork.Execution.Capture
import Groundwork.Run.Scene
import Groundwork.Settings
import Groundwork.Shell.Evaluation

/-!
Runs of programs with their output captured and their time limited, and commands of steps that a
shell runs.
-/

namespace Groundwork

/-- How a program ended, and what it wrote. -/
structure ExecutionOutput where
  /-- The code, if the program exited by itself. -/
  code : Option Nat
  timedOut : Bool
  stdout : Capture
  stderr : Capture

namespace ExecutionOutput

/-- What was written about failures, with a mark where faulty bytes were and a note if bytes were
dropped. -/
def stderrText (output : ExecutionOutput) : String :=
  let text := Text.decodeLossy output.stderr.kept
  if 0 < output.stderr.dropped then
    text ++ s!"\n[stderr truncated {output.stderr.dropped} bytes]"
  else text

end ExecutionOutput

/-- How much a program may take. -/
structure ExecutionLimits where
  /-- How many milliseconds it may take. -/
  timeout : Option Nat := none
  /-- How many bytes are kept of each kind of output. -/
  output : Nat

namespace Execution

open Shell

/-- What is done when a program cannot be started. -/
def startContext : String := "spawn command"

/-- The variables that programs are given. -/
def surroundings : List (String × String) :=
  [("HOME", "/root"), ("PATH", Program.standardPath)]

/-- A machine on which a program starts in a directory. -/
def machineAt (files : Files) (location : Location) (name : String) (timeout : Option Nat)
    : Machine :=
  { world :=
      { files := { files with base := location }
        opened := [(0, .nothing), (1, .pipe [] 0), (2, .pipe [] 0)]
        deadline := timeout.map (ticks * ·) }
    name
    program := name
    given := surroundings
    here := Machine.locationText location }

/-- Why a program cannot be started. -/
def failureOf (fault : LaunchFault) : Failure :=
  match fault with
  | .notFound => .ofFiles .notFound startContext
  | .denied => .ofFiles .denied startContext
  | .notDirectory => .ofFiles .notDirectory startContext
  | .format => ⟨[startContext], .message "Exec format error (os error 8)"⟩
  | .loop => ⟨[startContext], .message "Too many levels of symbolic links (os error 40)"⟩

/-- The directory in which a program starts with arguments. -/
def startingPlace (files : Files) (directory : Path) (words : List String)
    : Except Failure Location := do
  if words.any fun word => word.toList.any fun c => c.toNat == 0 then
    .error ⟨[startContext], .message "nul byte found in provided data"⟩
  else
    match files.place directory with
    | .ok (.taken location .directory) => .ok location
    | .ok (.taken ..) => .error (.ofFiles .notDirectory startContext)
    | .ok (.free ..) => .error (.ofFiles .notFound startContext)
    | .error fault => .error (.ofFiles fault startContext)

/-- What a machine has written to one of its first channels. -/
def written (machine : Machine) (number : Nat) : ByteArray :=
  match machine.world.opened.get? number with
  | some (.pipe pieces _) => (Machine.joinPieces pieces).1
  | _ => .empty

/-- Runs a program in a directory, with its arguments after its name. -/
def run (limits : ExecutionLimits) (files : Files) (directory : Path) (words : List String)
    : Except Failure (ExecutionOutput × Files) := do
  let location ← startingPlace files directory words
  let name := words.head?.getD ""
  let start := machineAt files location name limits.timeout
  match findProgram start (some Program.standardPath) name with
  | .error fault => .error (failureOf fault)
  | .ok found =>
      let (result, machine) := (execute runFuel found name (words.drop 1)).run.run start
      let capture (number : Nat) : Capture := .ofBytes limits.output (written machine number)
      let output (code : Option Nat) (timedOut : Bool) : ExecutionOutput :=
        ⟨code, timedOut, capture 1, capture 2⟩
      let files : Files := { machine.world.files with base := files.base }
      match result with
      | .ok (.error fault) => .error (failureOf fault)
      | .ok (.ok ()) => return (output (some machine.status) false, files)
      | .error .late => return (output none limits.timeout.isSome, files)
      | .error halt =>
          match endingOf machine.status halt with
          | .exit code => return (output (some code) false, files)
          | .killed _ => return (output none false, files)

end Execution

/-- A shell that runs the commands of steps. -/
structure CommandShell where
  /-- The program and its first arguments. -/
  words : List String
  limits : ExecutionLimits

namespace CommandShell

/-- The shell of settings. -/
def ofSettings (settings : Settings) : CommandShell :=
  { words := settings.shell
    limits := ⟨settings.timeoutSeconds.map (1000 * ·), settings.outputLimit⟩ }

/-- What is added to the errors of a command that took too long. -/
def timeoutNote : String := "\n[command timed out]"

/-- How a command ended. -/
def exitOf (output : ExecutionOutput) : CommandExit :=
  if output.timedOut then ⟨none, output.stderrText ++ timeoutNote⟩
  else ⟨output.code.map fun (code : Nat) => code, output.stderrText⟩

/-- Runs a command line in a directory. -/
def run {σ : Type} (shell : CommandShell) (directory : Path) (line : String)
    : Request σ CommandExit :=
  ExceptT.mk fun surroundings =>
    if shell.words.isEmpty then (.error (.ofMessage "shell is empty"), surroundings)
    else
      match Execution.run shell.limits surroundings.files directory (shell.words ++ [line]) with
      | .error failure => (.error failure, surroundings)
      | .ok (output, files) => (.ok (exitOf output), { surroundings with files })

end CommandShell

end Groundwork
