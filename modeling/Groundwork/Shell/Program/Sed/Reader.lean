import Groundwork.Shell.Program.Basic
import Groundwork.Shell.Program.Sed.Command

/-!
Reads scripts that edit a stream of lines. Messages about them tell where a script is wrong: how
many bytes of an argument were read, or which line of a file.
-/

namespace Groundwork.Shell.Program.Sed

/-- Where a script comes from. -/
inductive Origin where
  | argument (number : Nat)
  | file (name : String)

/-- A place in a script, in words. -/
def Origin.place (taken line : Nat) : Origin → String
  | .argument number => s!"-e expression #{number}, char {taken}"
  | .file name => s!"file {name} line {line}"

/-- The state of reading. -/
structure Reading where
  rest : List UInt8
  origin : Origin
  taken : Nat := 0
  line : Nat := 1
  script : Script := {}
  /-- The blocks that are open: the step of each, and where it stands. -/
  blocks : List (Nat × Origin × Nat) := []
  /-- The text of the last step goes on in the next script. -/
  unfinished : Bool := false

/-- Reads, or tells what is wrong and with which status the program ends for it. -/
abbrev Reader := StateT Reading (Except (Nat × String))

/-! ## Bytes -/

/-- Tells what is wrong with the script. -/
def fault {α : Type} (message : String) : Reader α := do
  let state ← get
  throw (1, s!"{state.origin.place state.taken state.line}: {message}")

/-- Moves on to what is left after some bytes. -/
def moveTo (rest : List UInt8) : Reader Unit :=
  modify fun state =>
    let passed := state.rest.take (state.rest.length - rest.length)
    { state with
      rest
      taken := state.taken + passed.length
      line := state.line + passed.count 10 }

/-- The next byte. -/
def next : Reader (Option UInt8) := do
  match (← get).rest with
  | [] => return none
  | b :: rest =>
      moveTo rest
      return some b

/-- Gives a byte back. -/
def giveBack : Option UInt8 → Reader Unit
  | none => pure ()
  | some b =>
      modify fun state =>
        { state with
          rest := b :: state.rest
          taken := state.taken - 1
          line := if b == 10 then state.line - 1 else state.line }

def isBlank (b : UInt8) : Bool := b == 32 || b == 9

def isSpace (b : UInt8) : Bool := isBlank b || (10 ≤ b && b ≤ 13)

def isDigit (b : UInt8) : Bool := 48 ≤ b && b ≤ 57

/-- Passes over bytes of a kind, and gives them. -/
def takeAll (accepts : UInt8 → Bool) : Reader (List UInt8) := do
  let rest := (← get).rest
  moveTo (rest.dropWhile accepts)
  return rest.takeWhile accepts

/-- The next byte that is no blank. -/
def nextVisible : Reader (Option UInt8) := do
  let _ ← takeAll isBlank
  next

/-- The number that digits spell. -/
def numberOf (digits : List UInt8) : Nat := digits.foldl (fun n b => 10 * n + (b.toNat - 48)) 0

/-- Reads a number, which can be left out. -/
def readNumber : Reader Nat := return numberOf (← takeAll isDigit)

/-- Where in a set of bytes a pattern is. -/
inductive Bracket where
  | outside
  /-- At the start, where a caret has a meaning, and before the first byte. -/
  | start
  | first
  | inside
  /-- In the name of a class, or of another kind of member. -/
  | name (kind : UInt8)
deriving DecidableEq

/-- The content up to a mark, and the bytes after it. A backslash takes the meaning of the mark
away; in a pattern the letter `n` after one stands for a newline, and sets of bytes can hold the
mark. -/
def splitAtMark (mark : UInt8) (pattern : Bool) (bracket : Bracket)
    : List UInt8 → Option (List UInt8) × List UInt8
  | [] => (none, [])
  | [b] =>
      if b == 10 then (none, [b])
      else if b == mark && bracket == .outside then (some [], [])
      else (none, [])
  | b :: c :: rest =>
      if b == 10 then (none, b :: c :: rest)
      else if bracket == .outside then
        if b == mark then (some [], c :: rest)
        else if b == 92 then
          let piece :=
            if c == 110 && pattern then [10]
            else if c == 10 || (c == mark && (pattern || c != 38)) then [c]
            else [92, c]
          put piece (splitAtMark mark pattern .outside rest)
        else
          put [b] (splitAtMark mark pattern (if b == 91 && pattern then .start else .outside)
            (c :: rest))
      else if b == 92 && c == 110 then put [10] (splitAtMark mark pattern .inside rest)
      else
        match bracket with
        | .name kind =>
            if b == kind && c == 93 then put [b, c] (splitAtMark mark pattern .inside rest)
            else put [b] (splitAtMark mark pattern bracket (c :: rest))
        | bracket =>
            if bracket == .start && b == 94 then
              put [b] (splitAtMark mark pattern .first (c :: rest))
            else if b == 93 && bracket == .inside then
              put [b] (splitAtMark mark pattern .outside (c :: rest))
            else if b == 91 && (c == 58 || c == 46 || c == 61) then
              put [b, c] (splitAtMark mark pattern (.name c) rest)
            else put [b] (splitAtMark mark pattern .inside (c :: rest))
where
  put (bytes : List UInt8) (found : Option (List UInt8) × List UInt8)
      : Option (List UInt8) × List UInt8 := (found.1.map (bytes ++ ·), found.2)

/-- Reads the content up to a mark. -/
def readMarked (mark : UInt8) (pattern : Bool) (complaint : String) : Reader (List UInt8) := do
  let (content, rest) := splitAtMark mark pattern .outside (← get).rest
  moveTo rest
  match content with
  | some content => return content
  | none => fault complaint

/-! ## Escapes -/

/-- The value of a digit to a base. -/
def digitOf? (base : Nat) (b : UInt8) : Option Nat :=
  let value :=
    if isDigit b then b.toNat - 48
    else if 97 ≤ b && b ≤ 102 then b.toNat - 87
    else if 65 ≤ b && b ≤ 70 then b.toNat - 55
    else base
  if value < base then some value else none

/-- The byte that digits to a base spell, so many at most, and what follows. -/
def byteOf? (base most : Nat) (text : List UInt8) : Option (UInt8 × List UInt8) :=
  let digits := (text.take most).takeWhile fun b => (digitOf? base b).isSome
  if digits.isEmpty then none
  else
    some (UInt8.ofNat (digits.foldl (fun n b => base * n + (digitOf? base b).getD 0) 0),
      text.drop digits.length)

/-- Bytes with the ones that escapes spell; other escapes are left. Those that would have a meaning
in a replacement lose it there. `fuel` bounds the bytes. -/
def unescape (replacement : Bool) (fuel : Nat) (text : List UInt8)
    : Except String (List UInt8) :=
  match fuel with
  | 0 => .ok []
  | fuel + 1 =>
      let put (b : UInt8) (rest : List UInt8) : Except String (List UInt8) := do
        let rest ← unescape replacement fuel rest
        return if replacement && (b == 38 || b == 92) then 92 :: b :: rest else b :: rest
      let leave (bytes rest : List UInt8) : Except String (List UInt8) := do
        return bytes ++ (← unescape replacement fuel rest)
      match text with
      | [] => .ok []
      | 92 :: b :: rest =>
          match Char.ofNat b.toNat with
          | 'a' => put 7 rest
          | 'f' => put 12 rest
          | 'n' => put 10 rest
          | 'r' => put 13 rest
          | 't' => put 9 rest
          | 'v' => put 11 rest
          | 'c' =>
              match rest with
              | 92 :: 92 :: rest => put 28 rest
              | 92 :: _ => .error "recursive escaping after \\c not allowed"
              | c :: rest =>
                  let upper := if 97 ≤ c && c ≤ 122 then c - 32 else c
                  put (if 64 ≤ upper then upper - 64 else upper + 64) rest
              | [] => leave [92, 92] []
          | 'd' =>
              match byteOf? 10 3 rest with
              | some (c, rest) => put c rest
              | none => leave [92, b] rest
          | 'o' =>
              match byteOf? 8 3 rest with
              | some (c, rest) => put c rest
              | none => leave [92, b] rest
          | 'x' =>
              match byteOf? 16 2 rest with
              | some (c, rest) => put c rest
              | none => leave [92, b] rest
          | _ => leave [92, b] rest
      | b :: rest => leave [b] rest

/-- Bytes with the ones that escapes spell. -/
def readEscapes (replacement : Bool) (text : List UInt8) : Reader (List UInt8) := do
  match unescape replacement (text.length + 1) text with
  | .ok text => return text
  | .error message => fault message

/-- Bytes without the backslashes before others. -/
def dropBackslashes : List UInt8 → List UInt8
  | [] => []
  | 92 :: b :: rest => b :: dropBackslashes rest
  | b :: rest => b :: dropBackslashes rest

/-! ## Patterns and replacements -/

/-- The pattern that bytes spell; none if there are no bytes. -/
def readPattern (extended : Bool) (mode : Expression.Mode) (text : List UInt8)
    : Reader (Option Pattern) := do
  if text.isEmpty then
    if mode.fold || mode.multiline then fault "cannot specify modifiers on empty regexp"
    else return none
  else
    match Expression.parse { extended } (← readEscapes false text) with
    | .ok spelled =>
        return some { expression := spelled.pattern, mode, groups := spelled.groups }
    | .error .classSyntax => throw (4, Expression.Fault.classSyntax.message)
    | .error wrong => fault wrong.message

/-- Adds a byte to the text at the start of pieces. -/
def addByte (b : UInt8) : List Piece → List Piece
  | .text bytes :: rest => .text (b :: bytes) :: rest
  | pieces => .text [b] :: pieces

/-- The pieces of a replacement. -/
def piecesOfReplacement : List UInt8 → List Piece
  | [] => []
  | [b] => if b == 38 then [.part 0] else [.text [b]]
  | b :: c :: rest =>
      if b == 38 then .part 0 :: piecesOfReplacement (c :: rest)
      else if b == 92 then
        let rest := piecesOfReplacement rest
        match Char.ofNat c.toNat with
        | 'L' => .letters .lower :: rest
        | 'U' => .letters .upper :: rest
        | 'E' => .letters .kept :: rest
        | 'l' => .nextLetter .lower :: rest
        | 'u' => .nextLetter .upper :: rest
        | _ => if isDigit c then .part (c.toNat - 48) :: rest else addByte c rest
      else addByte b (piecesOfReplacement (c :: rest))

/-- The options after a substitution. -/
structure Flags where
  fold : Bool := false
  multiline : Bool := false
  number : Option Nat := none
  all : Bool := false
  printed : Bool := false
  executed : Bool := false
  file : Option String := none

/-- Reads the name of a file up to the end of the line. -/
def readFileName : Reader String := do
  let _ ← takeAll isBlank
  let name ← takeAll (· != 10)
  let _ ← next
  if name.isEmpty then fault "missing filename in r/R/w/W commands"
  else return bytesText name

/-- Reads the options after a substitution; `fuel` bounds their number. -/
def readFlags (fuel : Nat) (flags : Flags) : Reader Flags :=
  match fuel with
  | 0 => return flags
  | fuel + 1 => do
      let found ← next
      match found.map fun b => Char.ofNat b.toNat with
      | none | some '\n' | some ';' => return flags
      | some ' ' | some '\t' => readFlags fuel flags
      | some '\x7d' | some '#' =>
          giveBack found
          return flags
      | some 'i' | some 'I' => readFlags fuel { flags with fold := true }
      | some 'm' | some 'M' => readFlags fuel { flags with multiline := true }
      | some 'e' => readFlags fuel { flags with executed := true }
      | some 'p' =>
          if flags.printed then fault "multiple \x60p' options to \x60s' command"
          else readFlags fuel { flags with printed := true }
      | some 'g' =>
          if flags.all then fault "multiple \x60g' options to \x60s' command"
          else readFlags fuel { flags with all := true }
      | some 'w' => return { flags with file := some (← readFileName) }
      | some c =>
          if c.isDigit then
            if flags.number.isSome then fault "multiple number options to \x60s' command"
            else
              giveBack found
              let number ← readNumber
              if number == 0 then fault "number option to \x60s' command may not be zero"
              else readFlags fuel { flags with number := some number }
          else fault "unknown option to \x60s'"

/-- Reads a substitution after its letter. -/
def readSubstitution (extended : Bool) : Reader Substitution := do
  let complaint := "unterminated \x60s' command"
  match ← next with
  | none => fault complaint
  | some mark =>
      let pattern ← readMarked mark true complaint
      let replacement ← readMarked mark false complaint
      let pieces := piecesOfReplacement (← readEscapes true replacement)
      let flags ← readFlags ((← get).rest.length + 1) {}
      let pattern ←
        readPattern extended { fold := flags.fold, multiline := flags.multiline } pattern
      let highest := (pieces.filterMap fun
        | .part index => some index
        | _ => none).foldl max 0
      if pattern.any (·.groups < highest) then
        fault s!"invalid reference \\{highest} on \x60s' command's RHS"
      else
        return {
          pattern, pieces
          number := flags.number.getD 1
          all := flags.all
          printed := flags.printed
          executed := flags.executed
          file := flags.file }

/-- Reads what is translated to what. -/
def readTranslation : Reader (List (UInt8 × UInt8)) := do
  let complaint := "unterminated \x60y' command"
  match ← next with
  | none => fault complaint
  | some mark =>
      let source := dropBackslashes (← readEscapes true (← readMarked mark false complaint))
      let target := dropBackslashes (← readEscapes true (← readMarked mark false complaint))
      if source.length != target.length then
        fault "strings for \x60y' command are different lengths"
      else return source.zip target

/-! ## Addresses -/

/-- Reads the letters after the pattern of an address. -/
def readModifiers (fuel : Nat) (mode : Expression.Mode) : Reader Expression.Mode :=
  match fuel with
  | 0 => return mode
  | fuel + 1 => do
      match ← nextVisible with
      | some 73 => readModifiers fuel { mode with fold := true }
      | some 77 => readModifiers fuel { mode with multiline := true }
      | other =>
          giveBack other
          return mode

/-- Reads the pattern of an address up to a mark. -/
def readLinePattern (extended : Bool) (mark : Option UInt8) : Reader Address := do
  let complaint := "unterminated address regex"
  match mark with
  | none => fault complaint
  | some mark =>
      let text ← readMarked mark true complaint
      let mode ← readModifiers ((← get).rest.length + 1) {}
      return .pattern (← readPattern extended mode text)

/-- Reads an address from its first byte on, if it is one. -/
def readAddress (extended : Bool) (first : Option UInt8) : Reader (Option Address) := do
  match first with
  | some 47 => return some (← readLinePattern extended (some 47))
  | some 92 => return some (← readLinePattern extended (← next))
  | some 36 => return some .last
  | some 43 =>
      let _ ← takeAll isBlank
      return some (.after (← readNumber))
  | some 126 =>
      let _ ← takeAll isBlank
      return some (.multiple (← readNumber))
  | some b =>
      if isDigit b then
        giveBack first
        let number ← readNumber
        match ← nextVisible with
        | some 126 =>
            let _ ← takeAll isBlank
            let width ← readNumber
            return some (if width == 0 then .line number else .every number width)
        | other =>
            giveBack other
            return some (.line number)
      else return none
  | none => return none

/-- Reads the addresses of a command, and gives them with its first byte. -/
def readGuard (extended : Bool) (start : Option UInt8) : Reader (Guard × Option UInt8) := do
  let first ← readAddress extended start
  let (guard, start) ←
    match first with
    | none => pure (({} : Guard), start)
    | some (.after _) | some (.multiple _) =>
        fault "invalid usage of +N or ~N as first address"
    | some first =>
        let following ← nextVisible
        let (second, following) ←
          if following == some 44 then
            match ← readAddress extended (← nextVisible) with
            | none => fault "unexpected \x60,'"
            | some second => pure (some second, ← nextVisible)
          else pure (none, following)
        match first, second with
        | .line 0, some (.pattern _) => pure ()
        | .line 0, _ => fault "invalid usage of line address 0"
        | _, _ => pure ()
        pure ({ first := some first, second : Guard }, following)
  if start == some 33 then
    let following ← nextVisible
    if following == some 33 then fault "multiple \x60!'s"
    else return ({ guard with negated := true }, following)
  else return (guard, start)

/-! ## Commands -/

/-- Adds a step. -/
def addStep (guard : Guard) (command : Command) : Reader Unit :=
  modify fun state =>
    { state with
      script := { state.script with steps := state.script.steps.push ⟨guard, command⟩ } }

/-- Sees to it that nothing follows a command but the next one. -/
def endCommand : Reader Unit := do
  let found ← nextVisible
  match found with
  | none | some 10 | some 59 => pure ()
  | some 125 | some 35 => giveBack found
  | _ => fault "extra characters after command"

/-- The text of a command up to the end of its last line, the bytes after it, and whether it goes on
in the next script. -/
def splitText : List UInt8 → List UInt8 × List UInt8 × Bool
  | [] => ([10], [], false)
  | [92] => ([10], [], true)
  | 92 :: b :: rest =>
      let (text, rest, open?) := splitText rest
      (92 :: b :: text, rest, open?)
  | b :: rest =>
      if b == 10 then ([10], rest, false)
      else
        let (text, rest, open?) := splitText rest
        (b :: text, rest, open?)

/-- Reads lines of text. -/
def readLines : Reader (List UInt8) := do
  let (text, rest, unfinished) := splitText (← get).rest
  moveTo rest
  modify ({ · with unfinished })
  return dropBackslashes (← readEscapes true text)

/-- Reads the text of a command after its letter. -/
def readText : Reader (List UInt8) := do
  let start ← nextVisible
  match start with
  | none => fault "expected \\ after \x60a', \x60c' or \x60i'"
  | some 92 =>
      match ← next with
      | none =>
          modify ({ · with unfinished := true })
          return []
      | some 10 => readLines
      | other =>
          giveBack other
          readLines
  | _ =>
      giveBack start
      readLines

/-- Reads a label. -/
def readLabel : Reader String := do
  let _ ← takeAll isBlank
  return bytesText (← takeAll fun b => !isSpace b && b != 59 && b != 125)

/-- Reads a label that can be left out. -/
def readLabel? : Reader (Option String) := do
  let label ← readLabel
  endCommand
  return if label.isEmpty then none else some label

/-- Reads the number after a command, which can be left out. -/
def readArgument? : Reader (Option Nat) := do
  let _ ← takeAll isBlank
  let digits ← takeAll isDigit
  endCommand
  return if digits.isEmpty then none else some (numberOf digits)

/-- The command of a letter that stands alone. -/
def plainCommand? (letter : Char) : Option Command :=
  match letter with
  | '=' => some .number
  | 'd' => some .delete
  | 'D' => some .deleteFirst
  | 'F' => some .fileName
  | 'g' => some .recall
  | 'G' => some .recallMore
  | 'h' => some .hold
  | 'H' => some .holdMore
  | 'n' => some .next
  | 'N' => some .join
  | 'p' => some .print
  | 'P' => some .printFirst
  | 'x' => some .exchange
  | 'z' => some .clear
  | _ => none

/-- Whether a version is one that is asked for, or a later one. -/
def reaches (wanted : String) : Bool :=
  let parts := (Text.splitOn '.' wanted.toList).map fun part =>
    numberOf (((String.ofList part).toUTF8.data.toList).takeWhile isDigit)
  match parts with
  | major :: minor :: _ => major < 4 || (major == 4 && minor ≤ 9)
  | [major] => major ≤ 4
  | [] => true

/-- Closes the innermost block. -/
def closeBlock (guard : Guard) : Reader Unit := do
  match (← get).blocks with
  | [] => fault "unexpected \x60\x7d'"
  | (start, _, _) :: blocks =>
      if guard.first.isSome then fault "\x60\x7d' doesn't want any addresses"
      else
        endCommand
        modify fun state =>
          let steps := state.script.steps
          { state with
            blocks
            script := { state.script with
              steps := steps.modify start fun step =>
                { step with command := .block steps.size } } }

/-- Reads a command from its letter on. -/
def readCommand (extended : Bool) (guard : Guard) (letter : Option UInt8) : Reader Unit := do
  match letter.map fun b => Char.ofNat b.toNat with
  | none => fault "missing command"
  | some '#' =>
      if guard.first.isSome then fault "comments don't accept any addresses"
      else
        let _ ← takeAll (· != 10)
        let _ ← next
  | some 'v' =>
      let version ← readLabel
      if reaches version then pure () else fault "expected newer version of sed"
  | some '\x7b' =>
      modify fun state =>
        { state with
          blocks := (state.script.steps.size, state.origin, state.line) :: state.blocks }
      addStep guard (.block 0)
  | some '\x7d' => closeBlock guard
  | some ':' =>
      if guard.first.isSome then fault ": doesn't want any addresses"
      else
        let label ← readLabel
        if label.isEmpty then fault "\":\" lacks a label"
        else
          modify fun state =>
            { state with
              script := { state.script with
                labels := state.script.labels ++ [(label, state.script.steps.size)] } }
  | some 'a' => addStep guard (.append (← readText))
  | some 'i' => addStep guard (.insert (← readText))
  | some 'c' => addStep guard (.change (← readText))
  | some 'e' =>
      let found ← nextVisible
      match found with
      | none | some 10 => addStep guard (.run none)
      | _ =>
          giveBack found
          addStep guard (.run (some (← readText)))
  | some 'b' => addStep guard (.jump (← readLabel?))
  | some 't' => addStep guard (.jumpIf true (← readLabel?))
  | some 'T' => addStep guard (.jumpIf false (← readLabel?))
  | some 'l' => addStep guard (.list (← readArgument?))
  | some 'r' => addStep guard (.readFile (← readFileName))
  | some 'R' => addStep guard (.readLine (← readFileName))
  | some 'w' => addStep guard (.writeFile (← readFileName))
  | some 'W' => addStep guard (.writeFirst (← readFileName))
  | some 's' => addStep guard (.substitute (← readSubstitution extended))
  | some 'y' =>
      let pairs ← readTranslation
      endCommand
      addStep guard (.translate pairs)
  | some c =>
      if c == 'q' || c == 'Q' then
        if guard.second.isSome then fault "command only uses one address"
        else addStep guard (.quit (c == 'Q') ((← readArgument?).getD 0))
      else
        match plainCommand? c with
        | some command =>
            endCommand
            addStep guard command
        | none => fault ("unknown command: \x60" ++ String.singleton c ++ "'")

/-- Reads commands; `fuel` bounds their number. -/
def readCommands (extended : Bool) (fuel : Nat) : Reader Unit :=
  match fuel with
  | 0 => pure ()
  | fuel + 1 => do
      let _ ← takeAll fun b => isSpace b || b == 59
      match ← next with
      | none => pure ()
      | start =>
          let (guard, letter) ← readGuard extended start
          readCommand extended guard letter
          readCommands extended fuel

/-- Adds text to that of the last step. -/
def addText (more : List UInt8) (step : Step) : Step :=
  { step with
    command :=
      match step.command with
      | .append text => .append (text ++ more)
      | .insert text => .insert (text ++ more)
      | .change text => .change (text ++ more)
      | .run (some text) => .run (some (text ++ more))
      | other => other }

/-- Reads one of the parts of a script. -/
def readPart (extended first : Bool) : Reader Unit := do
  let state ← get
  if state.unfinished then
    let text ← readLines
    modify fun state =>
      let steps := state.script.steps
      { state with
        script := { state.script with steps := steps.modify (steps.size - 1) (addText text) } }
  else if first && state.rest.take 2 == [35, 110] then
    modify fun state => { state with script := { state.script with quiet := true } }
  readCommands extended (state.rest.length + 1)

/-- Reads a script of several parts. -/
def readScript (extended : Bool) (parts : List (Origin × List UInt8))
    : Except (Nat × String) Script := do
  let start : Reading := { rest := [], origin := .argument 1 }
  let reading ← parts.zipIdx.foldlM (fun (reading : Reading) ((origin, text), i) => do
    let (_, reading) ←
      (readPart extended (i == 0)).run { reading with rest := text, origin, taken := 0, line := 1 }
    return reading) start
  match reading.blocks with
  | (_, origin, line) :: _ => .error (1, s!"{origin.place 0 line}: unmatched \x60\x7b'")
  | [] => return reading.script

/-- A label that a script goes to and that is not there. -/
def Script.missingLabel? (script : Script) : Option String :=
  let jumps := script.steps.toList.filterMap fun step =>
    match step.command with
    | .jump label | .jumpIf _ label => label
    | _ => none
  jumps.find? fun label => !(script.labels.any (·.1 == label))

end Groundwork.Shell.Program.Sed
