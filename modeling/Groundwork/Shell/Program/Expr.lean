import Groundwork.Shell.Program.Basic
import Groundwork.Text.Expression

/-!
The program `expr`, which evaluates an expression that is spelled in arguments.
-/

namespace Groundwork.Shell.Program.Expr

/-- The arguments that are left, and the one before them. -/
structure Reading where
  rest : List String
  last : String := "expr"

abbrev Evaluator := StateT Reading (Except String)

/-- Whether a value counts as no: nothing, or zero. -/
def isNull (value : String) : Bool :=
  match value.toList with
  | [] => true
  | ['-'] => false
  | '-' :: digits => digits.all (· == '0')
  | digits => digits.all (· == '0')

/-- The number that a value is. -/
def integer? (value : String) : Option Int :=
  let number (digits : List Char) : Option Nat :=
    if !digits.isEmpty && digits.all Char.isDigit then (String.ofList digits).toNat? else none
  match value.toList with
  | '-' :: digits => (number digits).map fun n => -(n : Int)
  | digits => (number digits).map fun n => (n : Int)

/-- The number that a value has to be. -/
def asInteger (value : String) : Evaluator Int :=
  match integer? value with
  | some n => return n
  | none => throw "non-integer argument"

def next? : Evaluator (Option String) := return (← get).rest.head?

/-- Goes on to the next argument. -/
def skip : Evaluator Unit :=
  modify fun reading => { rest := reading.rest.tail, last := reading.rest.headD reading.last }

/-- Passes over an argument if it is the next one. -/
def take (argument : String) : Evaluator Bool := do
  if (← next?) == some argument then
    skip
    return true
  else return false

/-- Passes over one of some arguments if it is the next one. -/
def takeOne (arguments : List String) : Evaluator (Option String) := do
  match ← next? with
  | some argument =>
      if arguments.contains argument then
        skip
        return some argument
      else return none
  | none => return none

/-- The next argument, whatever it is. -/
def nextValue : Evaluator String := do
  match ← next? with
  | some value =>
      skip
      return value
  | none => throw s!"syntax error: missing argument after {quote (← get).last}"

/-- What a pattern matches at the start of a text: its first part, or how much. -/
def matchValue (text pattern : String) : Evaluator String :=
  let bytes := text.toUTF8
  match Expression.parse { extended := false } pattern.toUTF8.data.toList with
  | .error fault => throw fault.message
  | .ok spelled =>
      match spelled.pattern.matchAt? {} bytes 0 with
      | none => return if spelled.groups == 0 then "0" else ""
      | some found =>
          if spelled.groups == 0 then return toString found.stop
          else
            match found.part? 1 with
            | some (start, stop) => return bytesText (bytes.extract start stop).data.toList
            | none => return ""

/-- What a comparison says of two values. -/
def comparison (operator left right : String) : Bool :=
  let order := match integer? left, integer? right with
    | some m, some n => compare m n
    | _, _ => compare left right
  match operator with
  | "<" => order == .lt
  | "<=" => order != .gt
  | ">" => order == .gt
  | ">=" => order != .lt
  | "!=" => order != .eq
  | _ => order == .eq

/-- The place of the first character of a text that is one of some. -/
def indexValue (text characters : String) : Nat :=
  let bytes := text.toUTF8.data.toList
  let place := bytes.findIdx characters.toUTF8.data.toList.contains
  if place < bytes.length then place + 1 else 0

/-- A part of a text, by its place and its length. -/
def partValue (text place size : String) : String :=
  match integer? place, integer? size with
  | some place, some size =>
      if place ≤ 0 || size ≤ 0 then ""
      else bytesText ((text.toUTF8.data.toList.drop (place.toNat - 1)).take size.toNat)
  | _, _ => ""

/-- How tightly operators bind, the loosest first. -/
def levels : List (List String) :=
  [["|"], ["&"], ["<", "<=", "=", "==", "!=", ">=", ">"], ["+", "-"], ["*", "/", "%"], [":"]]

/-- The value of two operands; what is not evaluated is nothing in particular. -/
def apply (evaluated : Bool) (operator left right : String) : Evaluator String := do
  match operator with
  | "|" => return if isNull left then (if isNull right then "0" else right) else left
  | "&" => return if isNull left || isNull right then "0" else left
  | ":" => if evaluated then matchValue left right else return left
  | "+" | "-" | "*" | "/" | "%" =>
      if !evaluated then return left
      else
        let m ← asInteger left
        let n ← asInteger right
        match operator with
        | "+" => return toString (m + n)
        | "-" => return toString (m - n)
        | "*" => return toString (m * n)
        | operator =>
            if n == 0 then throw "division by zero"
            else return toString (if operator == "/" then m.tdiv n else m.tmod n)
  | operator => return if comparison operator left right then "1" else "0"

mutual

/-- Evaluates operands with the operators of some levels between them; `fuel` bounds the depth. -/
def evaluate (fuel : Nat) (evaluated : Bool) (levels : List (List String)) : Evaluator String :=
  match fuel with
  | 0 => throw "syntax error"
  | fuel + 1 =>
      match levels with
      | [] => evaluateWord fuel evaluated
      | operators :: levels => do
          let left ← evaluate fuel evaluated levels
          evaluateRest fuel evaluated operators levels left

/-- Goes on after an operand. -/
def evaluateRest (fuel : Nat) (evaluated : Bool) (operators : List String)
    (levels : List (List String)) (left : String) : Evaluator String :=
  match fuel with
  | 0 => throw "syntax error"
  | fuel + 1 => do
      match ← takeOne operators with
      | none => return left
      | some operator =>
          let needed := match operator with
            | "|" => evaluated && isNull left
            | "&" => evaluated && !isNull left
            | _ => evaluated
          let right ← evaluate fuel needed levels
          let value ← apply evaluated operator left right
          evaluateRest fuel evaluated operators levels value

/-- Evaluates a function of operands, or one operand. -/
def evaluateWord (fuel : Nat) (evaluated : Bool) : Evaluator String :=
  match fuel with
  | 0 => throw "syntax error"
  | fuel + 1 => do
      if ← take "+" then nextValue
      else if ← take "length" then
        return toString (← evaluateWord fuel evaluated).utf8ByteSize
      else if ← take "match" then
        let text ← evaluateWord fuel evaluated
        let pattern ← evaluateWord fuel evaluated
        if evaluated then matchValue text pattern else return text
      else if ← take "index" then
        let text ← evaluateWord fuel evaluated
        return toString (indexValue text (← evaluateWord fuel evaluated))
      else if ← take "substr" then
        let text ← evaluateWord fuel evaluated
        let place ← evaluateWord fuel evaluated
        return partValue text place (← evaluateWord fuel evaluated)
      else if ← take "(" then
        let value ← evaluate fuel evaluated Expr.levels
        match ← next? with
        | none => throw s!"syntax error: expecting ')' after {quote (← get).last}"
        | some ")" =>
            skip
            return value
        | some other => throw s!"syntax error: expecting ')' instead of {quote other}"
      else if (← next?) == some ")" then throw "syntax error: unexpected ')'"
      else nextValue

end

/-- Evaluates all arguments. -/
def evaluateAll (arguments : List String) : Except String String := do
  let (value, reading) ← (evaluate (16 * arguments.length + 16) true levels).run
    { rest := arguments }
  match reading.rest with
  | [] => return value
  | other :: _ => throw s!"syntax error: unexpected argument {quote other}"

end Expr

/-- Evaluates an expression. -/
def expr : Program := fun _ arguments => do
  let arguments := if arguments.head? == some "--" then arguments.tail else arguments
  if arguments.isEmpty then misuse 2 "missing operand"
  else
    match Expr.evaluateAll arguments with
    | .ok value =>
        say 1 (value ++ "\n")
        return if Expr.isNull value then 1 else 0
    | .error message =>
        report message
        return 2

end Groundwork.Shell.Program
