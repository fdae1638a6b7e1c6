import Groundwork.Bits
import Groundwork.Dictionary
import Groundwork.Shell.Syntax

/-!
Arithmetic of command lines: whole numbers of 64 bits, variables, and the operators of C with their
precedence.
-/

namespace Groundwork.Shell

/-- An arithmetic expression. -/
inductive Arithmetic where
  | number (value : Int)
  | parameter (name : String)
  | unary (operator : Char) (operand : Arithmetic)
  | binary (operator : String) (left right : Arithmetic)
  | choice (test yes no : Arithmetic)
  /-- Sets a variable, to an operation on its value if there is an operator. -/
  | assign (name operator : String) (value : Arithmetic)

/-- What is wrong with an expression. -/
inductive ArithmeticFault where
  | noOperand
  | noColon
  | noParenthesis
  | trailing
  | divisionByZero
  | notNumber (text : String)
deriving Repr, DecidableEq

/-- The message about a fault of an expression. -/
def ArithmeticFault.message (expression : String) : ArithmeticFault → String
  | .noOperand => s!"arithmetic expression: expecting primary: \"{expression}\""
  | .noColon => s!"arithmetic expression: expecting ':': \"{expression}\""
  | .noParenthesis => s!"arithmetic expression: expecting ')': \"{expression}\""
  | .trailing => s!"arithmetic expression: expecting EOF: \"{expression}\""
  | .divisionByZero => s!"arithmetic expression: division by zero: \"{expression}\""
  | .notNumber text => s!"Illegal number: {text}"

namespace Arithmetic

/-- Binary operators, those that bind loosest first. -/
def levels : List (List String) :=
  [["||"], ["&&"], ["|"], ["^"], ["&"], ["==", "!="], ["<=", ">=", "<", ">"], ["<<", ">>"],
    ["+", "-"], ["*", "/", "%"]]

/-- Operators that set a variable to an operation on its value. -/
def compound : List String := ["+", "-", "*", "/", "%", "<<", ">>", "&", "|", "^"]

def skip (text : List Char) : List Char :=
  text.dropWhile fun c => c == ' ' || c == '\t' || c == '\n'

/-- The operators that are the start of longer ones. -/
def longer : List String := ["||", "&&", "<<", ">>", "<=", ">=", "==", "!="]

/-- The operator of a level at the start of a text. A longer operator, or one that sets a variable,
is not taken for it. -/
def operatorAt (level : List String) (text : List Char) : Option (String × List Char) :=
  level.findSome? fun operator =>
    if operator.toList.isPrefixOf text &&
        !longer.any fun other => other.length > operator.length && other.toList.isPrefixOf text
    then
      let rest := text.drop operator.length
      if compound.contains operator && rest.head? == some '=' then none
      else some (operator, rest)
    else none

/-- The operator of an assignment after the name, and the text of the value. -/
def assignmentAt (text : List Char) : Option (String × List Char) :=
  match text with
  | '=' :: '=' :: _ => none
  | '=' :: rest => some ("", rest)
  | text => compound.findSome? fun operator =>
      if (operator ++ "=").toList.isPrefixOf text then
        some (operator, text.drop (operator.length + 1))
      else none

/-- The greatest number there is. -/
def greatest : Int := 9223372036854775807

def digitValue (c : Char) : Nat :=
  if c.isDigit then c.toNat - '0'.toNat else c.toLower.toNat - 'a'.toNat + 10

/-- The value of digits to some base. -/
def ofDigits (base : Nat) (digits : List Char) : Int :=
  digits.foldl (fun value c => value * base + digitValue c) 0

def isHexDigit (c : Char) : Bool :=
  c.isDigit || ('a' ≤ c && c ≤ 'f') || ('A' ≤ c && c ≤ 'F')

/-- The number at the start of a text that begins with a digit: with another base after a zero. -/
def readNumber (text : List Char) : Int × List Char :=
  let take (base : Nat) (isPart : Char → Bool) (text : List Char) : Int × List Char :=
    let digits := text.takeWhile isPart
    (ofDigits base digits, text.drop digits.length)
  match text with
  | '0' :: x :: c :: rest =>
      if (x == 'x' || x == 'X') && isHexDigit c then take 16 isHexDigit (c :: rest)
      else take 8 (fun c => '0' ≤ c && c ≤ '7') text
  | '0' :: _ => take 8 (fun c => '0' ≤ c && c ≤ '7') text
  | text => take 10 Char.isDigit text

mutual

/-- Reads an expression with its assignments; `fuel` bounds the nesting. -/
def readAssignment (fuel : Nat) (text : List Char)
    : Except ArithmeticFault (Arithmetic × List Char) :=
  match fuel with
  | 0 => .error .noOperand
  | fuel + 1 =>
      let text := skip text
      let name := text.takeWhile isNameChar
      match if isName name then assignmentAt (skip (text.drop name.length)) else none with
      | some (operator, rest) => do
          let (value, rest) ← readAssignment fuel rest
          return (.assign (String.ofList name) operator value, rest)
      | none => readExpression fuel text

/-- Reads an expression with its choices. -/
def readExpression (fuel : Nat) (text : List Char)
    : Except ArithmeticFault (Arithmetic × List Char) :=
  match fuel with
  | 0 => .error .noOperand
  | fuel + 1 => do
      let (test, rest) ← readLevel fuel levels (skip text)
      match skip rest with
      | '?' :: rest =>
          let (yes, rest) ← readAssignment fuel rest
          match skip rest with
          | ':' :: rest =>
              let (no, rest) ← readExpression fuel rest
              return (.choice test yes no, rest)
          | _ => .error .noColon
      | rest => return (test, rest)

/-- Reads operands joined by the operators of some levels. -/
def readLevel (fuel : Nat) (levels : List (List String)) (text : List Char)
    : Except ArithmeticFault (Arithmetic × List Char) :=
  match fuel with
  | 0 => .error .noOperand
  | fuel + 1 =>
      match levels with
      | [] => readOperand fuel (skip text)
      | level :: tighter => do
          let (left, rest) ← readLevel fuel tighter text
          readRest fuel level tighter left (skip rest)

/-- Reads what operators of one level join to an operand. -/
def readRest (fuel : Nat) (level : List String) (tighter : List (List String)) (left : Arithmetic)
    (text : List Char) : Except ArithmeticFault (Arithmetic × List Char) :=
  match fuel with
  | 0 => .error .noOperand
  | fuel + 1 =>
      match operatorAt level text with
      | none => .ok (left, text)
      | some (operator, rest) => do
          let (right, rest) ← readLevel fuel tighter rest
          readRest fuel level tighter (.binary operator left right) (skip rest)

/-- Reads an operand. -/
def readOperand (fuel : Nat) (text : List Char)
    : Except ArithmeticFault (Arithmetic × List Char) :=
  match fuel with
  | 0 => .error .noOperand
  | fuel + 1 =>
      match text with
      | [] => .error .noOperand
      | '(' :: rest => do
          let (inner, rest) ← readAssignment fuel rest
          match skip rest with
          | ')' :: rest => return (inner, rest)
          | _ => .error .noParenthesis
      | c :: rest =>
          if "+-!~".toList.contains c then do
            let (operand, rest) ← readOperand fuel (skip rest)
            return (.unary c operand, rest)
          else if c.isDigit then
            let (value, rest) := readNumber text
            .ok (.number (min value greatest), rest)
          else if isNameStart c then
            .ok (.parameter (String.ofList (text.takeWhile isNameChar)),
              skip (text.dropWhile isNameChar))
          else .error .noOperand

end

/-- Reads an expression. -/
def read (text : List Char) : Except ArithmeticFault Arithmetic := do
  let (expression, rest) ← readAssignment (16 * (text.length + 2)) text
  if (skip rest).isEmpty then return expression else .error .trailing

/-- A number brought into the range of 64 bits. -/
def wrap (value : Int) : Int := Bits.wrap 64 value

def ofBool (b : Bool) : Int := if b then 1 else 0

/-- Bits of two numbers combined. -/
def bitwise (operation : UInt64 → UInt64 → UInt64) (a b : Int) : Int :=
  wrap (operation (UInt64.ofInt a) (UInt64.ofInt b)).toNat

/-- The value of a binary operation; those on truth values have been decided before. -/
def combine (operator : String) (a b : Int) : Except ArithmeticFault Int :=
  match operator with
  | "+" => .ok (wrap (a + b))
  | "-" => .ok (wrap (a - b))
  | "*" => .ok (wrap (a * b))
  | "/" => if b == 0 then .error .divisionByZero else .ok (wrap (a.tdiv b))
  | "%" => if b == 0 then .error .divisionByZero else .ok (wrap (a.tmod b))
  | "<<" => .ok (wrap (a * Nat.pow 2 (b % 64).toNat))
  | ">>" => .ok (wrap (Int.fdiv a (Nat.pow 2 (b % 64).toNat)))
  | "&" => .ok (bitwise (· &&& ·) a b)
  | "|" => .ok (bitwise (· ||| ·) a b)
  | "^" => .ok (bitwise (· ^^^ ·) a b)
  | "==" => .ok (ofBool (a == b))
  | "!=" => .ok (ofBool (a != b))
  | "<" => .ok (ofBool (a < b))
  | ">" => .ok (ofBool (b < a))
  | "<=" => .ok (ofBool (a ≤ b))
  | _ => .ok (ofBool (b ≤ a))

/-- The number that a text spells, with blanks around it. With `base` it may have another base than
ten, and an empty text is zero. -/
def integer? (base : Bool) (text : String) : Option Int :=
  let isBlank (c : Char) : Bool := c == ' ' || ('\t' ≤ c && c ≤ '\r')
  let start := text.toList.dropWhile isBlank
  let (negative, digits) :=
    match start with
    | '-' :: rest => (true, rest)
    | '+' :: rest => (false, rest)
    | rest => (false, rest)
  if start.isEmpty then if base then some 0 else none
  else if !digits.head?.any Char.isDigit then none
  else
    let (value, rest) :=
      if base then readNumber digits
      else (ofDigits 10 (digits.takeWhile Char.isDigit), digits.dropWhile Char.isDigit)
    let value := if negative then -value else value
    if rest.all isBlank && -greatest - 1 ≤ value && value ≤ greatest then some value else none

/-- The variables that an expression has set. -/
abbrev Changes := Dictionary String Int

/-- The number that a variable holds; one that is unset or empty is zero. -/
def lookup (value? : String → Option String) (changes : Changes) (name : String)
    : Except ArithmeticFault Int :=
  match changes.get? name with
  | some value => .ok value
  | none =>
      let text := (value? name).getD ""
      match integer? true text with
      | some value => .ok value
      | none => .error (.notNumber text)

/-- The value of an expression, and the variables that are set after it. -/
def evaluate (value? : String → Option String) (changes : Changes)
    : Arithmetic → Except ArithmeticFault (Int × Changes)
  | .number value => .ok (wrap value, changes)
  | .parameter name => do return (← lookup value? changes name, changes)
  | .unary operator operand => do
      let (value, changes) ← evaluate value? changes operand
      let result :=
        if operator == '-' then wrap (-value)
        else if operator == '!' then ofBool (value == 0)
        else if operator == '~' then wrap (-value - 1)
        else value
      return (result, changes)
  | .binary operator left right => do
      let (a, changes) ← evaluate value? changes left
      if operator == "&&" && a == 0 then return (0, changes)
      else if operator == "||" && a != 0 then return (1, changes)
      else
        let (b, changes) ← evaluate value? changes right
        if operator == "&&" || operator == "||" then return (ofBool (b != 0), changes)
        else return (← combine operator a b, changes)
  | .choice test yes no => do
      let (value, changes) ← evaluate value? changes test
      if value != 0 then evaluate value? changes yes else evaluate value? changes no
  | .assign name operator value => do
      let (value, changes) ← evaluate value? changes value
      let result ←
        if operator.isEmpty then pure value
        else combine operator (← lookup value? changes name) value
      return (result, changes.insert name result)

end Arithmetic

end Groundwork.Shell
