import Groundwork.Dictionary
import Groundwork.Shell.Syntax

/-!
The text of a command line while it is read: its lines, the aliases in it, and the words and
operators that it begins with.
-/

namespace Groundwork.Shell

/-- A piece of a command line. -/
inductive Token where
  | word (word : Word)
  | reserved (name : String)
  | operator (text : String)
  | redirect (channel : Nat) (kind : RedirectKind) (stripped : Bool)
  | newline
  | ending
deriving Inhabited

namespace Token

/-- A token as messages name it. -/
def name : Token → String
  | .word _ => "word"
  | .reserved name => s!"\"{name}\""
  | .operator text => s!"\"{text}\""
  | .redirect .. => "redirection"
  | .newline => "newline"
  | .ending => "end of file"

/-- Whether a token ends a sequence of commands. -/
def endsSequence : Token → Bool
  | .reserved name =>
      ["do", "done", "elif", "else", "esac", "fi", "then", "\x7d"].contains name
  | .operator text => text == ")" || text == ";;"
  | .ending => true
  | _ => false

def isReserved (name : String) : Token → Bool
  | .reserved other => other == name
  | _ => false

def isOperator (text : String) : Token → Bool
  | .operator other => other == text
  | _ => false

end Token

/-- What is wrong with a command line. -/
inductive SyntaxFault where
  | openQuote
  | openBrace
  | openArithmetic
  | openBackquote
  | badLoopName
  | badFunctionName
  | badChannel
  /-- A token where another is expected, or none in particular. -/
  | unexpected (token : String) (expected : Option String)
deriving Repr, DecidableEq

def SyntaxFault.message (fault : SyntaxFault) : String :=
  "Syntax error: " ++
    match fault with
    | .openQuote => "Unterminated quoted string"
    | .openBrace => "Missing '\x7d'"
    | .openArithmetic => "Missing '))'"
    | .openBackquote => "EOF in backquote substitution"
    | .badLoopName => "Bad for loop variable"
    | .badFunctionName => "Bad function name"
    | .badChannel => "Bad fd number"
    | .unexpected token none => s!"{token} unexpected"
    | .unexpected token (some expected) => s!"{token} unexpected (expecting {expected})"

/-- A fault and the number of its line. -/
abbrev PlacedFault := SyntaxFault × Nat

/-- A text that is read. -/
structure Source where
  text : List Char
  line : Nat := 1
  /-- How many lines after this one were taken out before their turn. -/
  skipped : Nat := 0
  /-- A token that is to be read again. -/
  putBack : Option Token := none
  aliases : Dictionary String String := []
  /-- The aliases in whose values the text begins, with how much text there is after them. -/
  active : List (String × Nat) := []

/-- The reading of a text. -/
abbrev Reading := StateT Source (Except PlacedFault)

namespace Reading

/-- Ends the reading with a fault in this line. -/
def fail {α : Type} (fault : SyntaxFault) : Reading α := fun source => .error (fault, source.line)

/-- Ends the reading at a token that is not expected here. -/
def refuse {α : Type} (token : Token) (expected : Option String) : Reading α :=
  fail (.unexpected token.name expected)

/-- Takes away backslashes that join lines. -/
def join (line : Nat) : List Char → List Char × Nat
  | '\\' :: '\n' :: rest => join (line + 1) rest
  | text => (text, line)

/-- The next character, after backslashes that join lines. -/
def peek : Reading (Option Char) := do
  let source ← get
  let (text, line) := join source.line source.text
  set { source with text, line }
  return text.head?

/-- Leaves a character behind. -/
def advance : Reading Unit := do
  let source ← get
  match source.text with
  | [] => return ()
  | '\n' :: text => set { source with text, line := source.line + 1 + source.skipped, skipped := 0 }
  | _ :: text => set { source with text }

/-- Leaves the next character behind if it is a certain one. -/
def follows (c : Char) : Reading Bool := do
  if (← peek) == some c then
    advance
    return true
  else return false

/-- The characters up to one that does not fulfil a condition. -/
def span (p : Char → Bool) : Reading (List Char) := do
  let source ← get
  let run := source.text.takeWhile p
  set { source with text := source.text.drop run.length }
  return run

/-- The characters up to one that does not fulfil a condition, over joined lines; `fuel` bounds
their number. -/
def spanJoined (fuel : Nat) (p : Char → Bool) : Reading (List Char) :=
  match fuel with
  | 0 => return []
  | fuel + 1 => do
      let _ ← peek
      let run ← span p
      if run.isEmpty then return []
      else return run ++ (← spanJoined fuel p)

/-- Leaves blanks and comments behind. -/
def skipBlanks (fuel : Nat) : Reading Unit :=
  match fuel with
  | 0 => return ()
  | fuel + 1 => do
      match ← peek with
      | some ' ' | some '\t' =>
          advance
          skipBlanks fuel
      | some '#' =>
          let _ ← span (· != '\n')
          skipBlanks fuel
      | _ => return ()

/-- Gives up the aliases whose values are over. Tells whether one of them ends in a blank, after
which the next word may be an alias. -/
def leaveAliases : Reading Bool := do
  let source ← get
  if source.active.isEmpty then return false
  else
    let rest := source.text.length
    let (past, active) := source.active.partition fun entry => rest ≤ entry.2
    set { source with active }
    return past.any fun entry =>
      ((source.aliases.get? entry.1).getD "").toList.getLast?.any fun c => c == ' ' || c == '\t'

/-- The value of an alias that is not yet in use. -/
def alias? (name : String) : Reading (Option String) := do
  let source ← get
  if source.active.any (·.1 == name) then return none else return source.aliases.get? name

/-- Puts the value of an alias before the text. -/
def insertAlias (name value : String) : Reading Unit :=
  modify fun source =>
    { source with
      text := value.toList ++ source.text
      active := (name, source.text.length) :: source.active }

/-- Reads with another text, whose lines are counted on their own. -/
def within {α : Type} (text : List Char) (reading : Reading α) : Reading α := do
  let source ← get
  let (result, _) ← (reading.run { text, aliases := source.aliases } : Except PlacedFault _)
  return result

/-- Puts a token back, to be read again. -/
def putBack (token : Token) : Reading Unit :=
  modify fun source => { source with putBack := some token }

/-- A token that was put back. -/
def takeBack : Reading (Option Token) := do
  let source ← get
  set { source with putBack := none }
  return source.putBack

/-- Takes out the lines after this one, up to one that is a mark. With `stripped` tabs at the start
of lines do not count. -/
def content (mark : List Char) (stripped : Bool) : Reading (List Char) := do
  let source ← get
  let line := source.text.takeWhile (· != '\n')
  let rest := (source.text.drop line.length).drop 1
  let (lines, after, count) := collect (rest.length + 1) [] 0 rest
  if source.text.length == line.length then return []
  else
    set { source with text := line ++ '\n' :: after, skipped := source.skipped + count }
    return lines
where
  /-- The lines before the mark, the text after it, and how many lines these are. -/
  collect (fuel : Nat) (taken : List (List Char)) (count : Nat) (text : List Char)
      : List Char × List Char × Nat :=
    match fuel with
    | 0 => (taken.reverse.flatten, text, count)
    | fuel + 1 =>
        if text.isEmpty then (taken.reverse.flatten, [], count)
        else
          let whole := text.takeWhile (· != '\n')
          let rest := text.drop whole.length
          let line := if stripped then whole.dropWhile (· == '\t') else whole
          if line == mark then (taken.reverse.flatten, rest.drop 1, count + 1)
          else collect fuel ((line ++ rest.take 1) :: taken) (count + 1) (rest.drop 1)

end Reading

end Groundwork.Shell
