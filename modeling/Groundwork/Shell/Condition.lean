import Groundwork.Shell.Arithmetic
import Groundwork.Shell.Machine

/-!
Conditions on texts, numbers and files, as the shell reads them and as the program `test` does.
-/

namespace Groundwork.Shell.Condition

/-! ## Files -/

/-- Whether a path leads to a device. -/
def isDevice (path : String) : Bool := ["/dev/null", "/dev/zero", "/dev/full"].contains path

/-- Whether a file fulfils the condition of a letter. -/
def holdsOfFile (machine : Machine) (letter : Char) (operand : String) : Bool :=
  let path := machine.path operand
  let files := machine.world.files
  match letter with
  | 'e' | 'r' | 'w' | 'O' | 'G' => isDevice operand || files.exists? path
  | 'f' => (files.read path).toBool
  | 'd' => files.isDirectory path
  | 'x' => files.isDirectory path || files.isExecutable path
  | 's' => files.isDirectory path || (files.read path).toOption.any (0 < ·.size)
  | 'h' | 'L' => (machine.link? operand).isSome
  | 'c' => isDevice operand
  | _ => false

/-- Whether two paths lead to one node. -/
def isSameFile (machine : Machine) (left right : String) : Bool :=
  match machine.place left,
      machine.place right with
  | .ok (.taken a _), .ok (.taken b _) => a == b
  | _, _ => false

/-! ## Operators -/

/-- A comparison of numbers by its name. -/
def comparison? : String → Option (Int → Int → Bool)
  | "-eq" => some (· == ·)
  | "-ne" => some (· != ·)
  | "-lt" => some (fun a b => a < b)
  | "-le" => some (fun a b => a ≤ b)
  | "-gt" => some (fun a b => b < a)
  | "-ge" => some (fun a b => b ≤ a)
  | _ => none

/-- The operators with two operands that are no comparisons of numbers. -/
def textOperators : List String := ["=", "!=", "<", ">", "-nt", "-ot", "-ef"]

/-- The letters of the operators with one operand. -/
def unaryLetters : List Char := "rwxefdcbpugkstznhOGLS".toList

/-- The outcome of an operator with one operand. -/
def unary (machine : Machine) (letter : Char) (operand : String) : Bool :=
  match letter with
  | 'n' => !operand.isEmpty
  | 'z' => operand.isEmpty
  | letter => holdsOfFile machine letter operand

/-- What is wrong with a condition, in words. -/
abbrev Fault := String

/-- The outcome of an operator with two operands; `number` reads numbers. -/
def binary (machine : Machine) (number : String → Except Fault Int) (left operator right : String)
    : Except Fault Bool :=
  match comparison? operator with
  | some compare => do
      let a ← number left
      let b ← number right
      return compare a b
  | none =>
      .ok (match operator with
        | "=" | "==" => left == right
        | "!=" => left != right
        | "<" => left < right
        | ">" => right < left
        | "-ef" => isSameFile machine left right
        | _ => false)

/-! ## Conditions of the shell -/

/-- A word of a condition. -/
inductive Term where
  | ending
  | operand
  | unary (letter : Char)
  | binary (name : String)
  | not
  | and
  | or
  | opening
  | closing
deriving DecidableEq

/-- The operator of a word. -/
def operator? (text : String) : Option Term :=
  if textOperators.contains text || (comparison? text).isSome then some (.binary text)
  else
    match text.toList with
    | ['!'] => some .not
    | ['('] => some .opening
    | [')'] => some .closing
    | ['-', 'a'] => some .and
    | ['-', 'o'] => some .or
    | ['-', letter] => if unaryLetters.contains letter then some (.unary letter) else none
    | _ => none

/-- The meaning of the first of some words. What could be an operator with one operand is a text if
nothing follows it, or an operator with two. -/
def term : List String → Term
  | [] => .ending
  | text :: rest =>
      match operator? text, rest with
      | some (.unary _), [] => .operand
      | some (.unary letter), next :: _ :: _ =>
          match operator? next with
          | some (.binary _) => .operand
          | _ => .unary letter
      | some .opening, [] => .operand
      | some found, _ => found
      | none, _ => .operand

/-- A number in the words of the shell. -/
def shellNumber (text : String) : Except Fault Int :=
  match Arithmetic.integer? false text with
  | some number => .ok number
  | none => .error s!"Illegal number: {text}"

/-- An outcome, with the words from the last one that was used. -/
abbrev Outcome := Except Fault (Bool × List String)

mutual

/-- Evaluates conditions joined by `-o`; `fuel` bounds the nesting. -/
def eitherOf (fuel : Nat) (machine : Machine) (words : List String) : Outcome :=
  match fuel with
  | 0 => .ok (false, [])
  | fuel + 1 => do
      let (left, here) ← bothOf fuel machine words
      if term (here.drop 1) == .or then
        let (right, here) ← eitherOf fuel machine (here.drop 2)
        return (left || right, here)
      else return (left, here)

/-- Evaluates conditions joined by `-a`. -/
def bothOf (fuel : Nat) (machine : Machine) (words : List String) : Outcome :=
  match fuel with
  | 0 => .ok (false, [])
  | fuel + 1 => do
      let (left, here) ← oneOf fuel machine (term words) words
      if term (here.drop 1) == .and then
        let (right, here) ← bothOf fuel machine (here.drop 2)
        return (left && right, here)
      else return (left, here)

/-- Evaluates one condition, which begins with a term. -/
def oneOf (fuel : Nat) (machine : Machine) (first : Term) (words : List String) : Outcome :=
  match fuel with
  | 0 => .ok (false, [])
  | fuel + 1 =>
      match first with
      | .not => do
          let next := term (words.drop 1)
          let (outcome, here) ←
            oneOf fuel machine next (if next == .ending then words else words.drop 1)
          return (!outcome, here)
      | .ending => .ok (false, words)
      | .opening =>
          if term (words.drop 1) == .closing then .ok (false, words.drop 1)
          else do
            let (outcome, here) ← eitherOf fuel machine (words.drop 1)
            if term (here.drop 1) == .closing then return (outcome, here.drop 1)
            else .error "closing paren expected"
      | .unary letter =>
          match words.drop 1 with
          | [] => .error s!"-{letter}: argument expected"
          | operand :: rest => .ok (unary machine letter operand, operand :: rest)
      | _ =>
          match words, term (words.drop 1) with
          | left :: _ :: rest, .binary operator =>
              match rest with
              | [] => .error s!"{operator}: argument expected"
              | right :: rest => do
                  return (← binary machine shellNumber left operator right, right :: rest)
          | left :: rest, _ => .ok (!left.isEmpty, left :: rest)
          | [], _ => .ok (false, [])

end

/-- Evaluates a whole condition; `fuel` bounds the leading negations. -/
def evaluateFrom (fuel : Nat) (machine : Machine) (words : List String) : Except Fault Bool :=
  match fuel with
  | 0 => .ok false
  | fuel + 1 =>
      let finish (outcome : Outcome) : Except Fault Bool := do
        match ← outcome with
        | (_, used :: _ :: _) =>
            .error (if used.isEmpty then "unexpected operator" else s!"{used}: unexpected operator")
        | (result, _) => return result
      let depth := 8 * (words.length + 1)
      let others : Except Fault Bool :=
        if (words.length == 3 || words.length == 4) && words.head? == some "(" &&
            words.getLast? == some ")" then
          finish (eitherOf depth machine (words.drop 1).dropLast)
        else if (words.length == 3 || words.length == 4) && words.head? == some "!" then do
          return !(← evaluateFrom fuel machine (words.drop 1))
        else finish (eitherOf depth machine words)
      match words with
      | [] => .ok false
      | [left, operator, right] =>
          match operator? operator with
          | some (.binary _) => do return ← binary machine shellNumber left operator right
          | _ => others
      | _ => others

/-- Evaluates a condition as the shell does; without words it fails. -/
def evaluate (machine : Machine) (words : List String) : Except Fault Bool :=
  evaluateFrom (words.length + 1) machine words

/-! ## Conditions of the program -/

/-- A number in the words of the program. -/
def programNumber (text : String) : Except Fault Int :=
  let (_, digits) := match text.toList.dropWhile fun c => c == ' ' || c == '\t' with
    | '-' :: rest => (true, rest)
    | '+' :: rest => (false, rest)
    | rest => (false, rest)
  let digits := (digits.reverse.dropWhile fun c => c == ' ' || c == '\t').reverse
  if !digits.isEmpty && digits.all Char.isDigit then
    let value := Arithmetic.ofDigits 10 digits
    .ok (if text.toList.contains '-' then -value else value)
  else .error s!"invalid integer '{text}'"

/-- Whether a word is an operator with two operands. -/
def joinsTwo (text : String) : Bool :=
  text == "==" || textOperators.contains text || (comparison? text).isSome

/-- Whether a word is a dash and one more character. -/
def isSwitch (text : String) : Bool :=
  match text.toList with
  | ['-', _] => true
  | _ => false

/-- Says that a word should be followed by another. -/
def beyond {α : Type} (words : List String) : Except Fault α :=
  .error ("missing argument after '" ++ words.getLast?.getD "" ++ "'")

/-- An outcome, with the words after those that were used. -/
abbrev Rest := Except Fault (Bool × List String)

/-- The outcome of an operator with one operand before other words. -/
def programUnary (machine : Machine) (all : List String) : List String → Rest
  | operator :: rest =>
      match operator.toList with
      | ['-', letter] =>
          if unaryLetters.contains letter || letter == 'N' then
            match rest with
            | operand :: rest => .ok (unary machine letter operand, rest)
            | [] => beyond all
          else .error s!"'{operator}': unary operator expected"
      | _ => .error s!"'{operator}': unary operator expected"
  | [] => beyond all

mutual

/-- Evaluates so many words; `fuel` bounds the nesting. -/
def posix (fuel : Nat) (machine : Machine) (all : List String) (count : Nat) (words : List String)
    : Rest :=
  match fuel with
  | 0 => .ok (false, [])
  | fuel + 1 =>
      match count, words with
      | 1, only :: rest => .ok (!only.isEmpty, rest)
      | 2, _ => pair fuel machine all words
      | 3, _ => triple fuel machine all words
      | 4, first :: second :: third :: fourth :: rest =>
          if first == "!" then do
            let (outcome, rest) ← triple fuel machine all (second :: third :: fourth :: rest)
            return (!outcome, rest)
          else if first == "(" && fourth == ")" then do
            let (outcome, _) ← pair fuel machine all [second, third]
            return (outcome, rest)
          else alternatives fuel machine all words
      | _, _ => alternatives fuel machine all words

/-- Evaluates two words. -/
def pair (fuel : Nat) (machine : Machine) (all : List String) (words : List String) : Rest :=
  match fuel with
  | 0 => .ok (false, [])
  | _ + 1 =>
      match words with
      | first :: second :: rest =>
          if first == "!" then .ok (second.isEmpty, rest)
          else if isSwitch first then programUnary machine all words
          else beyond all
      | _ => beyond all

/-- Evaluates three words. -/
def triple (fuel : Nat) (machine : Machine) (all : List String) (words : List String) : Rest :=
  match fuel with
  | 0 => .ok (false, [])
  | fuel + 1 =>
      match words with
      | first :: second :: third :: rest =>
          if joinsTwo second then do
            return (← binary machine programNumber first second third, rest)
          else if first == "!" then do
            let (outcome, rest) ← pair fuel machine all (second :: third :: rest)
            return (!outcome, rest)
          else if first == "(" && third == ")" then .ok (!second.isEmpty, rest)
          else if second == "-a" || second == "-o" then alternatives fuel machine all words
          else .error s!"'{second}': binary operator expected"
      | _ => beyond all

/-- Evaluates conditions joined by `-o`. -/
def alternatives (fuel : Nat) (machine : Machine) (all : List String) (words : List String)
    : Rest :=
  match fuel with
  | 0 => .ok (false, [])
  | fuel + 1 => do
      let (left, rest) ← conjunction fuel machine all words
      match rest with
      | "-o" :: rest =>
          let (right, rest) ← alternatives fuel machine all rest
          return (left || right, rest)
      | rest => return (left, rest)

/-- Evaluates conditions joined by `-a`. -/
def conjunction (fuel : Nat) (machine : Machine) (all : List String) (words : List String) : Rest :=
  match fuel with
  | 0 => .ok (false, [])
  | fuel + 1 => do
      let (left, rest) ← simple fuel machine all words
      match rest with
      | "-a" :: rest =>
          let (right, rest) ← conjunction fuel machine all rest
          return (left && right, rest)
      | rest => return (left, rest)

/-- Evaluates one condition. -/
def simple (fuel : Nat) (machine : Machine) (all : List String) (words : List String) : Rest :=
  match fuel with
  | 0 => .ok (false, [])
  | fuel + 1 =>
      match words with
      | [] => beyond all
      | "!" :: rest => do
          let (outcome, rest) ← simple fuel machine all rest
          return (!outcome, rest)
      | "(" :: rest => do
          let inner := (rest.drop 1).takeWhile (· != ")")
          let count := if 3 < inner.length then rest.length else inner.length + 1
          let (outcome, rest) ← posix fuel machine all count rest
          match rest with
          | [] => .error "')' expected"
          | ")" :: rest => return (outcome, rest)
          | other :: _ => .error s!"')' expected, found '{other}'"
      | first :: second :: third :: rest =>
          if joinsTwo second then do
            return (← binary machine programNumber first second third, rest)
          else if isSwitch first then programUnary machine all words
          else .ok (!first.isEmpty, second :: third :: rest)
      | first :: rest =>
          if isSwitch first then programUnary machine all words
          else .ok (!first.isEmpty, rest)

end

/-- Evaluates a condition as the program does. -/
def evaluateProgram (machine : Machine) (words : List String) : Except Fault Bool :=
  if words.isEmpty then .ok false
  else do
    match ← posix (16 * (words.length + 1)) machine words words.length words with
    | (outcome, []) => return outcome
    | (_, extra :: _) => .error s!"extra argument '{extra}'"

end Groundwork.Shell.Condition
