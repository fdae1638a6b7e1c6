import Groundwork.Shell.Program.Awk.Evaluation

/-!
The program `awk`, which applies rules of patterns and actions to records.
-/

namespace Groundwork.Shell.Program

namespace Awk

/-- What the arguments of the program say. -/
structure Invocation where
  /-- The files that hold the script. -/
  files : List String := []
  separator : Option String := none
  assignments : List (String × String) := []
  operands : List String := []

/-- Reads arguments, or tells what is wrong with them. -/
def readArguments (invocation : Invocation) : List String → Except String Invocation
  | [] => .ok invocation
  | "-" :: rest => .ok { invocation with operands := "-" :: rest }
  | "--" :: rest => .ok { invocation with operands := rest }
  | argument :: rest =>
      match argument.toList with
      | '-' :: letter :: joined =>
          if ['f', 'F', 'v', 'W'].contains letter then
            match joined, rest with
            | [], [] => .error s!"option -{letter} lacks argument"
            | [], value :: rest =>
                match take invocation letter value with
                | .ok invocation => readArguments invocation rest
                | .error message => .error message
            | joined, rest =>
                match take invocation letter (String.ofList joined) with
                | .ok invocation => readArguments invocation rest
                | .error message => .error message
          else .error s!"not an option: {argument}"
      | _ => .ok { invocation with operands := argument :: rest }
where
  /-- Takes an option with its argument. -/
  take (invocation : Invocation) (letter : Char) (value : String) : Except String Invocation :=
    match letter with
    | 'f' => .ok { invocation with files := invocation.files ++ [value] }
    | 'F' => .ok { invocation with separator := some value }
    | 'v' =>
        match assignmentOf? value with
        | some assigned =>
            .ok { invocation with assignments := invocation.assignments ++ [assigned] }
        | none => .error s!"improper assignment: -v {value}"
    | _ => .ok invocation

/-- The variables that are set before a run. -/
def startVariables : List (String × Value) :=
  [("NR", .number 0.0), ("FNR", .number 0.0), ("NF", .number 0.0), ("FS", .text (bytesOf " ")),
    ("OFS", .text (bytesOf " ")), ("ORS", .text (bytesOf "\n")), ("RS", .text (bytesOf "\n")),
    ("FILENAME", .text .empty), ("SUBSEP", .text (bytesOf "\x1c")), ("RSTART", .number 0.0),
    ("RLENGTH", .number (-1.0)), ("CONVFMT", .text (bytesOf "%.6g")),
    ("OFMT", .text (bytesOf "%.6g"))]

/-- Runs a script. -/
def start (launcher : Launcher) (invocation : Invocation) (script : Script)
    (operands : List String) : Action Nat := do
  let machine ← getThe Machine
  let given := machine.given.map fun (name, value) => (name, Value.given (bytesOf value))
  let words := (machine.program :: operands).map fun word => Value.given (bytesOf word)
  let environment : Table := given.foldl (fun table (name, value) =>
    (table.use (.text (bytesOf name)) true).set (.text (bytesOf name)) value) {}
  let arguments : Table := words.zipIdx.foldl (fun table (word, i) =>
    (table.use (.number i) true).set (.number i) word) {}
  let globals : Std.HashMap String Slot := startVariables.foldl (fun globals (name, value) =>
    globals.insert name (.value value)) {}
  let globals := ((globals.insert "ENVIRON" (.table 0)).insert "ARGV" (.table 1)).insert "ARGC"
    (.value (ofNatural words.length))
  let action : Engine Unit := do
    for (name, value) in invocation.assignments do setVariable name (givenText value)
    if let some separator := invocation.separator then setVariable "FS" (givenText separator)
    runScript
  let (_, run) ← (action.run.run { launcher, script, globals, tables := #[environment, arguments] })
  return run.status

/-- The text of a script in files, or the name of one that cannot be read with the reason. -/
def readFiles : List String → Action (Except (String × FileFault) ByteArray)
  | [] => return .ok .empty
  | file :: rest => do
      match ← operandContent file with
      | .error fault => return .error (file, fault)
      | .ok content =>
          match ← readFiles rest with
          | .ok others => return .ok (content ++ "\n".toUTF8 ++ others)
          | .error fault => return .error fault

end Awk

open Awk in
/-- Applies rules of patterns and actions to records. -/
def awk : Program := fun launcher arguments => do
  match readArguments {} arguments with
  | .error message =>
      report message
      return 2
  | .ok invocation =>
      match invocation.files, invocation.operands with
      | [], [] =>
          say 2 "Usage: mawk [Options] [Program] [file ...]\n"
          return 2
      | [], text :: operands =>
          match readScript text.toUTF8 with
          | .ok script => begin launcher invocation script operands
          | .error messages => refuse "" messages
      | files, operands =>
          match ← readFiles files with
          | .error (file, fault) =>
              report s!"cannot open \x22{file}\x22 ({reason fault})"
              return 2
          | .ok source =>
              match readScript source with
              | .ok script => begin launcher invocation script operands
              | .error messages => refuse (files.headD "-" ++ ": ") messages
where
  /-- Runs a script, unless the separator cannot be read. -/
  begin (launcher : Launcher) (invocation : Invocation) (script : Script)
      (operands : List String) : Action Nat :=
    let separator := Lexing.textOf ((invocation.separator.getD "").toUTF8.data.toList)
    match if 1 < separator.size then (readPattern separator).map fun _ => () else .ok () with
    | .ok _ => start launcher invocation script operands
    | .error message =>
        refuse "" [s!"line 0: regular expression compile failed ({message})\n" ++
          textOf separator]
  refuse (lead : String) (messages : List String) : Action Nat := do
    for message in messages do report (lead ++ message)
    return 2

end Groundwork.Shell.Program
