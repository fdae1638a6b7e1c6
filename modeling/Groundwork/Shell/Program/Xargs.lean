import Groundwork.Shell.Program.Basic

/-!
The program `xargs`, which starts programs with arguments that it reads.
-/

namespace Groundwork.Shell.Program.Xargs

/-! ## Arguments -/

/-- What is read: arguments and the ends of lines. -/
inductive Token where
  | item (bytes : List UInt8)
  | lineEnd
deriving Repr, DecidableEq

/-- What comes before the next byte. -/
inductive Mode where
  /-- Blanks before an argument. -/
  | between
  | inside
  | quoted (mark : UInt8)
  | escaped
  /-- The argument that stands for the end was read, or a line ended in quotes. -/
  | done
deriving Repr, DecidableEq

/-- How words are read. -/
structure WordRules where
  /-- Whole lines are arguments. -/
  byLine : Bool
  /-- The argument that stands for the end. -/
  last : Option (List UInt8)

/-- What has been read so far, the last of it first. -/
structure Reading where
  mode : Mode := .between
  /-- Whether an argument has begun, which may be empty so far. -/
  begun : Bool := false
  held : List UInt8 := []
  tokens : List Token := []
  unmatched : Option UInt8 := none

/-- Takes what is held as an argument. -/
def Reading.finish (rules : WordRules) (reading : Reading) : Reading :=
  let item := reading.held.reverse
  if rules.last == some item then { reading with mode := .done, held := [], begun := false }
  else
    { reading with
      mode := .between
      begun := false
      held := []
      tokens := .item item :: reading.tokens }

def isBlank (b : UInt8) : Bool := b == 32 || b == 9

def isSpace (b : UInt8) : Bool := b == 32 || (9 ≤ b && b ≤ 13)

/-- Reads a byte inside an argument. -/
def Reading.addInside (rules : WordRules) (reading : Reading) (b : UInt8) : Reading :=
  if b == 10 then
    if reading.begun then
      let reading := reading.finish rules
      if reading.mode == .done then reading
      else { reading with tokens := .lineEnd :: reading.tokens }
    else { reading with mode := .between }
  else if !rules.byLine && isBlank b then reading.finish rules
  else if b == 92 then { reading with mode := .escaped, begun := true }
  else if b == 39 || b == 34 then { reading with mode := .quoted b, begun := true }
  else { reading with mode := .inside, begun := true, held := b :: reading.held }

/-- Reads a byte. -/
def Reading.add (rules : WordRules) (reading : Reading) (b : UInt8) : Reading :=
  match reading.mode with
  | .done => reading
  | .between => if isSpace b then reading else reading.addInside rules b
  | .inside => reading.addInside rules b
  | .quoted mark =>
      if b == 10 then { reading with mode := .done, unmatched := some mark }
      else if b == mark then { reading with mode := .inside }
      else { reading with held := b :: reading.held }
  | .escaped => { reading with mode := .inside, held := b :: reading.held }

/-- The arguments of an input, and the quote that has no partner. -/
def readWords (rules : WordRules) (bytes : List UInt8) : List Token × Option UInt8 :=
  let reading := bytes.foldl (Reading.add rules) {}
  match reading.mode with
  | .quoted mark => (reading.tokens.reverse, some mark)
  | .done => (reading.tokens.reverse, reading.unmatched)
  | _ =>
      if reading.held.isEmpty then (reading.tokens.reverse, none)
      else ((reading.finish rules).tokens.reverse, none)

/-! ## Command lines -/

/-- What is done with arguments. -/
structure Plan where
  launcher : Launcher
  words : List String
  /-- What arguments take the place of. -/
  replaced : Option String := none
  /-- How many arguments and lines a program gets at most, and how many bytes with the ends of
  all words. -/
  most : Option Nat := none
  lines : Option Nat := none
  limit : Nat := 131072
  strict : Bool := false
  /-- Commands are shown before they are run. -/
  tells : Bool := false
  /-- Programs read what this one could read. -/
  sharesInput : Bool := false
  /-- The program is run without arguments if there are none. -/
  runsAnyway : Bool := true

/-- What has been done so far, the last argument first. -/
structure Progress where
  held : List String := []
  size : Nat := 0
  lines : Nat := 0
  ran : Bool := false
  failed : Bool := false

abbrev Running := StateT Progress Action

/-- Ends the program with a message. -/
def abandon {α : Type} (status : Nat) (message : String) : Running α := do
  report message
  throw (.exit status)

/-- A word as a shell reads it. -/
def shown (word : String) : String :=
  let special := " !\"$&'()*;<=>?[\\]^\x60|".toList
  let letters := word.toList
  if letters.any fun c => c.toNat < 32 || 127 ≤ c.toNat then
    let parts := letters.map fun c =>
      let escapes := (String.singleton c).toUTF8.data.toList.map fun b =>
        match b.toNat with
        | 9 => "\\t"
        | 10 => "\\n"
        | 13 => "\\r"
        | n => "\\" ++ String.ofList
            ((List.range 3).map fun i => Char.ofNat (48 + n / Nat.pow 8 (2 - i) % 8))
      if c.toNat < 32 || 127 ≤ c.toNat then (true, String.join escapes)
      else (false, if c == '\'' then "'\\''" else String.singleton c)
    let (text, escaped) := parts.foldl (fun (text, escaped) (special, part) =>
      if special == escaped then (text ++ part, escaped)
      else if special then (text ++ "'$'" ++ part, true)
      else (text ++ "''" ++ part, false)) ("'", false)
    if escaped then text ++ "'" else text ++ "'"
  else if letters.isEmpty || letters.any special.contains ||
      ["\x7b", "\x7d"].contains word || ['#', '~'].contains (letters.headD 'x') then quote word
  else word

/-- Runs a program with arguments. -/
def launch (plan : Plan) (words : List String) : Running Unit := do
  modify fun progress => { progress with ran := true }
  if plan.tells then say 2 (" ".intercalate (words.map shown) ++ "\n")
  let name := words.headD ""
  let start : Action (Except LaunchFault Ending) := keepingChannels do
    if !plan.sharesInput then
      let nothing ← openNew .nothing
      setChannel 0 (some nothing)
    plan.launcher.start false name (words.drop 1)
  match ← start with
  | .ok (.exit 0) => pure ()
  | .ok (.exit 255) => abandon 124 s!"{name}: exited with status 255; aborting"
  | .ok (.exit _) => modify fun progress => { progress with failed := true }
  | .ok (.killed signal) => abandon 125 s!"{name}: terminated by signal {signal}"
  | .error fault =>
      abandon (if fault == .notFound then 127 else 126) s!"{name}: {fault.message}"

/-- How long words are together. -/
def sizeOf (words : List String) : Nat :=
  words.foldl (fun size word => size + word.utf8ByteSize + 1) 0

/-- Runs the program with the arguments that are held. -/
def flush (plan : Plan) : Running Unit := do
  let held := (← get).held.reverse
  modify fun progress => { progress with held := [], size := sizeOf plan.words, lines := 0 }
  launch plan (plan.words ++ held)

/-- The words of a command with an argument in the places that are left for it. -/
def insert (plan : Plan) (mark argument : String) : List String :=
  match plan.words with
  | [] => []
  | name :: words =>
      name :: words.map fun word =>
        String.ofList (Text.replaceAll mark.toList argument.toList word.toList)

/-- Takes an argument. -/
def push (plan : Plan) (argument : String) : Running Unit := do
  let size := argument.utf8ByteSize + 1
  if plan.limit < size then abandon 1 "argument line too long"
  match plan.replaced with
  | some mark =>
      let words := insert plan mark argument
      if plan.limit < sizeOf words then abandon 1 "argument list too long"
      else launch plan words
  | none =>
      let progress ← get
      if plan.limit < progress.size + size then
        if progress.held.isEmpty then
          abandon 1 "cannot fit single argument within argument list size limit"
        else if plan.strict && (plan.most.isSome || plan.lines.isSome) then
          abandon 1 "argument list too long"
        else flush plan
      modify fun progress =>
        { progress with held := argument :: progress.held, size := progress.size + size }
      let progress ← get
      if plan.most.any (· ≤ progress.held.length) then flush plan

/-- Takes all that was read. -/
def take (plan : Plan) : List Token → Running Unit
  | [] => pure ()
  | .item bytes :: rest => do
      push plan (bytesText (bytes.takeWhile (· != 0)))
      take plan rest
  | .lineEnd :: rest => do
      modify fun progress => { progress with lines := progress.lines + 1 }
      let progress ← get
      if plan.lines.any (· ≤ progress.lines) && !progress.held.isEmpty then flush plan
      take plan rest

/-- Takes all that was read, and what is left in the end. -/
def takeAll (plan : Plan) (tokens : List Token) (unmatched : Option UInt8) : Running Nat := do
  if plan.limit < sizeOf plan.words then
    abandon 1 "cannot fit single argument within argument list size limit"
  modify fun progress => { progress with size := sizeOf plan.words }
  take plan tokens
  let progress ← get
  let waiting := !progress.held.isEmpty
  match unmatched with
  | some mark =>
      if waiting && !plan.strict then flush plan
      let kind := if mark == 34 then "double" else "single"
      abandon 1 (s!"unmatched {kind} quote; by default quotes are special to xargs unless you " ++
        "use the -0 option")
  | none =>
      if plan.replaced.isNone && (waiting || (plan.runsAnyway && !progress.ran)) then flush plan
      return if (← get).failed then 123 else 0

/-! ## Options -/

/-- Options of one letter that can have an argument joined to them, in their long forms. -/
def spellOptional : List String → List String
  | [] => []
  | argument :: rest =>
      match argument.toList with
      | '-' :: 'i' :: value => long "--replace" value :: spellOptional rest
      | '-' :: 'l' :: value => long "--max-lines" value :: spellOptional rest
      | '-' :: 'e' :: value => long "--eof" value :: spellOptional rest
      | ['-', c] =>
          if "adEILnPs".toList.contains c then
            match rest with
            | [] => [argument]
            | value :: rest => argument :: value :: spellOptional rest
          else if c == '-' then argument :: rest
          else argument :: spellOptional rest
      | '-' :: _ => argument :: spellOptional rest
      | _ => argument :: rest
where
  long (name : String) (value : List Char) : String :=
    if value.isEmpty then name else name ++ "=" ++ String.ofList value

/-- A number that an option was given, and what is wrong with it. -/
def numberOf (letter : String) (least : Int) (text : String) : Except String Nat :=
  let (negative, digits) : Bool × List Char := match text.toList with
    | '-' :: rest => (true, rest)
    | '+' :: rest => (false, rest)
    | rest => (false, rest)
  match (String.ofList digits).toNat? with
  | some number =>
      let value : Int := if negative then -number else number
      if digits.all Char.isDigit then
        if value < least then
          .error s!"value {text} for -{letter} option should be >= {least}"
        else .ok value.toNat
      else .error (bad text)
  | none => .error (bad text)
where
  bad (text : String) : String := s!"invalid number \"{text}\" for -{letter} option"

/-- The byte that a delimiter stands for. -/
def delimiterOf (text : String) : Except String UInt8 :=
  let octal (digits : List Char) : UInt8 :=
    UInt8.ofNat (digits.foldl (fun n c => 8 * n + (c.toNat - 48)) 0)
  match text.toList with
  | '\\' :: 'x' :: digits =>
      let value (c : Char) : Nat :=
        if c.isDigit then c.toNat - 48
        else if 'a' ≤ c.toLower && c.toLower ≤ 'f' then c.toLower.toNat - 87
        else 99
      if !digits.isEmpty && digits.all (value · < 16) then
        .ok (UInt8.ofNat (digits.foldl (fun n c => 16 * n + value c) 0))
      else .error s!"Invalid escape sequence {text} in input delimiter specification."
  | ['\\', c] =>
      match c with
      | 'a' => .ok 7
      | 'b' => .ok 8
      | 'f' => .ok 12
      | 'n' => .ok 10
      | 'r' => .ok 13
      | 't' => .ok 9
      | 'v' => .ok 11
      | '\\' => .ok 92
      | c =>
          if '0' ≤ c && c ≤ '7' then .ok (octal [c])
          else .error s!"Invalid escape sequence {text} in input delimiter specification."
  | '\\' :: digits =>
      if !digits.isEmpty && digits.all (fun c => '0' ≤ c && c ≤ '7') then .ok (octal digits)
      else .error s!"Invalid escape sequence {text} in input delimiter specification."
  | _ =>
      if text.utf8ByteSize == 1 then .ok (text.toUTF8.data.getD 0 10)
      else
        .error (s!"Invalid input delimiter specification {text}: the delimiter must be either a " ++
          "single character or an escape sequence starting with \\.")

/-- How arguments are set apart. -/
structure Input where
  delimiter : Option UInt8 := none
  last : Option String := none
  file : String := "-"

/-- Says that an option takes back another one. -/
def exclude (before after : String) : Action Unit :=
  report (s!"warning: options {before} and {after} are mutually exclusive, ignoring previous " ++
    s!"{before} value")

/-- Takes an option into account; what is wrong with it is told, and whether all was well. -/
def applyOption (plan : Plan) (input : Input) (option : String × String)
    : Action (Except (String × Bool) (Plan × Input)) := do
  let value := option.2
  match option.1 with
  | "0" | "null" => return .ok (plan, { input with delimiter := some 0 })
  | "d" | "delimiter" =>
      match delimiterOf value with
      | .ok byte => return .ok (plan, { input with delimiter := some byte })
      | .error message => return .error (message, false)
  | "a" | "arg-file" => return .ok ({ plan with sharesInput := value != "-" },
      { input with file := value })
  | "E" | "eof" => return .ok (plan, { input with last := if value.isEmpty then none else value })
  | "I" | "replace" =>
      if plan.most.isSome then exclude "--max-args" "--replace/-I/-i"
      if plan.lines.isSome then exclude "--max-lines" "--replace/-I/-i"
      let mark := if value.isEmpty && option.1 == "replace" then "\x7b\x7d" else value
      return .ok ({ plan with replaced := some mark, most := none, lines := none }, input)
  | "L" | "max-lines" =>
      match numberOf (if option.1 == "L" then "L" else "l") 1
        (if value.isEmpty && option.1 != "L" then "1" else value) with
      | .error message => return .error (message, true)
      | .ok number =>
          let name := if option.1 == "L" then "-L" else "--max-lines/-l"
          if plan.most.isSome then exclude "--max-args" name
          if plan.replaced.isSome then exclude "--replace" name
          return .ok ({ plan with lines := some number, most := none, replaced := none }, input)
  | "n" | "max-args" =>
      match numberOf "n" 1 value with
      | .error message => return .error (message, true)
      | .ok number =>
          if plan.lines.isSome then exclude "--max-lines" "--max-args/-n"
          if plan.replaced.isSome && number == 1 then return .ok (plan, input)
          else
            if plan.replaced.isSome then exclude "--replace" "--max-args/-n"
            return .ok ({ plan with most := some number, lines := none, replaced := none }, input)
  | "s" | "max-chars" =>
      match numberOf "s" 1 value with
      | .error message => return .error (message, true)
      | .ok number => return .ok ({ plan with limit := min number 131072 }, input)
  | "P" | "max-procs" =>
      match numberOf "P" 0 value with
      | .error message => return .error (message, true)
      | .ok _ => return .ok (plan, input)
  | "r" | "no-run-if-empty" => return .ok ({ plan with runsAnyway := false }, input)
  | "t" | "verbose" => return .ok ({ plan with tells := true }, input)
  | "x" | "exit" => return .ok ({ plan with strict := true }, input)
  | _ => return .ok (plan, input)

/-- Takes options into account. -/
def applyOptions (plan : Plan) (input : Input)
    : GivenOptions → Action (Except (String × Bool) (Plan × Input))
  | [] => return .ok (plan, input)
  | option :: rest => do
      match ← applyOption plan input option with
      | .ok (plan, input) => applyOptions plan input rest
      | .error fault => return .error fault

/-- The arguments that an input holds. -/
def tokensOf (plan : Plan) (input : Input) (content : ByteArray)
    : List Token × Option UInt8 :=
  match input.delimiter with
  | some mark =>
      ((splitLines mark content).1.flatMap fun item => [.item item, .lineEnd], none)
  | none =>
      readWords
        { byLine := plan.replaced.isSome
          last := input.last.map fun last => last.toUTF8.data.toList } content.data.toList

end Xargs

open Xargs in
/-- Starts a program with arguments that are read. -/
def xargs : Program := fun launcher arguments =>
  withOptions 1
    { letters := "0oprtx", marked := "adEILnPs"
      long := ["null", "arg-file=", "delimiter=", "eof?", "replace?", "max-lines?", "max-args=",
        "max-procs=", "max-chars=", "no-run-if-empty", "verbose", "exit", "interactive",
        "open-tty", "process-slot-var=", "show-limits"]
      anywhere := false } (spellOptional arguments) fun options operands => do
    let words := if operands.isEmpty then ["echo"] else operands
    match ← applyOptions { launcher, words } {} options with
    | .error (message, advised) => if advised then misuse 1 message else
        report message
        return 1
    | .ok (plan, input) =>
        if plan.replaced == some "" then
          report "command too long"
          return 1
        else
          match ← operandContent input.file with
          | .error fault =>
              report s!"Cannot open input file '{input.file}': {reason fault}"
              return 1
          | .ok content =>
              if input.delimiter.isNone && content.data.contains 0 then
                report ("WARNING: a NUL character occurred in the input.  It cannot be passed " ++
                  "through in the argument list.  Did you mean to use the --null option?")
              let (tokens, unmatched) := tokensOf plan input content
              let (status, _) ← (takeAll plan tokens unmatched).run {}
              return status

end Groundwork.Shell.Program
