import Groundwork.Shell.Program.Awk.Token
import Groundwork.Text.Search

/-!
Reads scripts of `awk` from their tokens.
-/

namespace Groundwork.Shell.Program.Awk

/-- The state of reading. -/
structure Reading where
  rest : List Lexeme
  /-- The line of the last token. -/
  line : Nat := 1
  loops : Nat := 0
  /-- Whether an action reads records, and the parameters of the function that is read. -/
  reads : Bool := false
  parameters : Option (List String) := none
  /-- Names of variables, and whether each one is a table. -/
  kinds : List (String × Bool) := []
  /-- Functions that are called, with the number of arguments and the line. -/
  calls : List (String × Nat × Nat) := []
  functions : List (String × Function) := []
  /-- The functions whose names have been read, and how many parentheses are open. -/
  named : List String := []
  depth : Nat := 0

/-- Reading stops with messages. -/
abbrev Reader := StateT Reading (Except (List String))

namespace Reader

/-- Stops with a message about a line. -/
def fail {α : Type} (line : Nat) (message : String) : Reader α :=
  throw [s!"line {line}: {message}"]

/-- The next token. -/
def peek : Reader (Option Lexeme) := do
  match (← get).rest.head? with
  | some ⟨.fault message, _, _⟩ => throw [message]
  | next => return next

/-- Passes over the next token. -/
def skip : Reader Unit :=
  modify fun reading =>
    { reading with
      rest := reading.rest.drop 1
      line := (reading.rest.head?.map (·.line)).getD reading.line
      depth := match reading.rest with
        | ⟨.sign "(", _, _⟩ :: _ => reading.depth + 1
        | ⟨.sign ")", _, _⟩ :: _ => reading.depth - 1
        | _ => reading.depth }

/-- Stops at the next token. -/
def reject {α : Type} : Reader α := do
  match ← peek with
  | some lexeme =>
      let closes := match lexeme.token with
        | .sign ")" => true
        | _ => false
      let what := if closes || (← get).depth == 0 then "syntax error at or" else "missing )"
      fail lexeme.line s!"{what} near {lexeme.spelled}"
  | none => fail ((← get).line + 1) "missing \x7d near end of file"

/-- Whether a sign comes next. -/
def atSign (text : String) : Reader Bool := do
  match ← peek with
  | some ⟨.sign other, _, _⟩ => return other == text
  | _ => return false

def atWord (text : String) : Reader Bool := do
  match ← peek with
  | some ⟨.word other, _, _⟩ => return other == text
  | _ => return false

/-- Passes over a sign if it comes next. -/
def take? (text : String) : Reader Bool := do
  let found ← atSign text
  if found then skip
  return found

/-- Passes over a sign that has to come next. -/
def expect (text : String) : Reader Unit := do
  let found ← take? text
  if !found then reject

/-- Passes over the ends of lines. -/
def skipLines : Reader Unit :=
  modify fun reading =>
    { reading with
      rest := reading.rest.dropWhile fun lexeme =>
        match lexeme.token with
        | .newline => true
        | _ => false }

/-- The name that has to come next. -/
def expectName : Reader String := do
  match ← peek with
  | some ⟨.name name, _, _⟩ =>
      skip
      return name
  | _ => reject

/-- Notes that a variable is a table or is none. -/
def mark (name : String) (isTable : Bool) : Reader Unit := do
  let reading ← get
  if !(reading.parameters.getD []).contains name then
    match reading.kinds.lookup name with
    | some kind =>
        if kind != isTable then
          fail reading.line
            (if kind then s!"illegal reference to array {name}"
            else s!"illegal reference to variable {name}")
    | none => set { reading with kinds := (name, isTable) :: reading.kinds }

/-- Whether a statement ends here. -/
def atEnd : Reader Bool := do
  match ← peek with
  | some ⟨.newline, _, _⟩ | some ⟨.semicolon, _, _⟩ | none => return true
  | some ⟨.sign text, _, _⟩ => return text == "\x7d"
  | _ => return false

/-- Passes over the end of a statement. -/
def endStatement : Reader Unit := do
  match ← peek with
  | some ⟨.newline, _, _⟩ | some ⟨.semicolon, _, _⟩ => skip
  | _ => if !(← atSign "\x7d") then reject

/-- Whether something can be assigned. -/
def isTarget : Expr → Bool
  | .name _ | .element .. | .field _ => true
  | _ => false

/-- The operator of an assignment. -/
def assignment? (sign : String) : Option (Option Operator) :=
  match sign with
  | "=" => some none
  | "+=" => some (some .add)
  | "-=" => some (some .subtract)
  | "*=" => some (some .multiply)
  | "/=" => some (some .divide)
  | "%=" => some (some .remainder)
  | "^=" => some (some .power)
  | _ => none

def relation? (sign : String) : Option Relation :=
  match sign with
  | "==" => some .equal
  | "!=" => some .unequal
  | "<" => some .less
  | "<=" => some .atMost
  | ">" => some .greater
  | ">=" => some .atLeast
  | _ => none

/-- The sign that comes next. -/
def nextSign : Reader String := do
  match ← peek with
  | some ⟨.sign text, _, _⟩ => return text
  | _ => return ""

/-- Whether a part of a joined text can begin here. -/
def atPart : Reader Bool := do
  match ← peek with
  | some lexeme =>
      match lexeme.token with
      | .number _ | .text _ | .pattern _ | .name _ | .callee _ | .builtin _ => return true
      | .word word => return word == "getline"
      | .sign text => return ["$", "!", "(", "++", "--"].contains text
      | _ => return false
  | none => return false

/-- How many arguments a function of the language has at least and at most. -/
def arity (name : String) : Nat × Nat :=
  match name with
  | "length" | "srand" | "fflush" => (0, 1)
  | "rand" => (0, 0)
  | "substr" | "split" | "sub" | "gsub" => (2, 3)
  | "index" | "match" | "atan2" => (2, 2)
  | "sprintf" => (1, 1000)
  | _ => (1, 1)

mutual

/-- An expression. -/
def expression (fuel : Nat) : Reader Expr :=
  match fuel with
  | 0 => reject
  | fuel + 1 => do
      let condition ← eitherOf fuel
      if ← take? "?" then
        skipLines
        let yes ← expression fuel
        expect ":"
        skipLines
        return .choose condition yes (← expression fuel)
      else return condition

def eitherOf (fuel : Nat) : Reader Expr :=
  match fuel with
  | 0 => reject
  | fuel + 1 => do
      let mut left ← bothOf fuel
      for _ in [0:fuel] do
        if ← take? "||" then
          skipLines
          left := .either left (← bothOf fuel)
        else break
      return left

def bothOf (fuel : Nat) : Reader Expr :=
  match fuel with
  | 0 => reject
  | fuel + 1 => do
      let mut left ← withinOf fuel
      for _ in [0:fuel] do
        if ← take? "&&" then
          skipLines
          left := .both left (← withinOf fuel)
        else break
      return left

def withinOf (fuel : Nat) : Reader Expr :=
  match fuel with
  | 0 => reject
  | fuel + 1 => do
      let mut left ← matchOf fuel
      for _ in [0:fuel] do
        if ← atWord "in" then
          skip
          let table ← expectName
          mark table true
          left := .within (match left with
            | .several parts => parts
            | single => [single]) table
        else break
      return left

def matchOf (fuel : Nat) : Reader Expr :=
  match fuel with
  | 0 => reject
  | fuel + 1 => do
      let mut left ← relationOf fuel
      for _ in [0:fuel] do
        if ← take? "~" then left := .matching true left (← relationOf fuel)
        else if ← take? "!~" then left := .matching false left (← relationOf fuel)
        else break
      return left

def relationOf (fuel : Nat) : Reader Expr :=
  match fuel with
  | 0 => reject
  | fuel + 1 => do
      let mut left ← operandOf fuel
      for _ in [0:fuel] do
        match relation? (← nextSign) with
        | some relation =>
            skip
            left := .relate relation left (← operandOf fuel)
        | none => break
      return left

/-- Joined texts, or an assignment. -/
def operandOf (fuel : Nat) : Reader Expr :=
  match fuel with
  | 0 => reject
  | fuel + 1 => do
      let left ← joined fuel
      match assignment? (← nextSign) with
      | some operator =>
          if isTarget left then
            skip
            skipLines
            return .assign operator left (← expression fuel)
          else return left
      | none => return left

def joined (fuel : Nat) : Reader Expr :=
  match fuel with
  | 0 => reject
  | fuel + 1 => do
      let mut left ← sumOf fuel
      if let .several _ := left then return left
      for _ in [0:fuel] do
        if ← atPart then left := .join left (← sumOf fuel) else break
      return left

def sumOf (fuel : Nat) : Reader Expr :=
  match fuel with
  | 0 => reject
  | fuel + 1 => do
      let mut left ← productOf fuel
      for _ in [0:fuel] do
        if ← take? "+" then left := .arithmetic .add left (← productOf fuel)
        else if ← take? "-" then left := .arithmetic .subtract left (← productOf fuel)
        else break
      return left

def productOf (fuel : Nat) : Reader Expr :=
  match fuel with
  | 0 => reject
  | fuel + 1 => do
      let mut left ← signed fuel
      for _ in [0:fuel] do
        if ← take? "*" then left := .arithmetic .multiply left (← signed fuel)
        else if ← take? "/" then left := .arithmetic .divide left (← signed fuel)
        else if ← take? "%" then left := .arithmetic .remainder left (← signed fuel)
        else break
      return left

def signed (fuel : Nat) : Reader Expr :=
  match fuel with
  | 0 => reject
  | fuel + 1 => do
      if ← take? "!" then return .deny (← signed fuel)
      else if ← take? "-" then return .negate (← signed fuel)
      else if ← take? "+" then return .plus (← signed fuel)
      else piped fuel

/-- A power, whose text may be a command that is read from. -/
def piped (fuel : Nat) : Reader Expr :=
  match fuel with
  | 0 => reject
  | fuel + 1 => do
      let mut left ← powerOf fuel
      for _ in [0:fuel] do
        if ← atSign "|" then
          skip
          if ← atWord "getline" then
            skip
            left := .read (.command left) (← target? fuel)
          else reject
        else break
      return left

def powerOf (fuel : Nat) : Reader Expr :=
  match fuel with
  | 0 => reject
  | fuel + 1 => do
      let left ← counted fuel
      if ← take? "^" then
        let sign ← nextSign
        let right ← if ["-", "+", "!"].contains sign then signed fuel else powerOf fuel
        return .arithmetic .power left right
      else return left

/-- A value that may be counted up or down afterwards. -/
def counted (fuel : Nat) : Reader Expr :=
  match fuel with
  | 0 => reject
  | fuel + 1 => do
      let left ← primary fuel
      if isTarget left then
        if ← take? "++" then return .count true true left
        else if ← take? "--" then return .count false true left
        else return left
      else return left

/-- What a line is read into, if that is said. -/
def target? (fuel : Nat) : Reader (Option Expr) :=
  match fuel with
  | 0 => reject
  | fuel + 1 => do
      match ← peek with
      | some ⟨.name _, _, _⟩ => return some (← primary fuel)
      | some ⟨.sign "$", _, _⟩ => return some (← primary fuel)
      | _ => return none

def primary (fuel : Nat) : Reader Expr :=
  match fuel with
  | 0 => reject
  | fuel + 1 => do
      match ← peek with
      | some ⟨.number x, _, _⟩ =>
          skip
          return .number x
      | some ⟨.text bytes, _, _⟩ =>
          skip
          return .text bytes
      | some ⟨.pattern pattern, _, _⟩ =>
          skip
          return .pattern pattern
      | some ⟨.name name, _, line⟩ =>
          skip
          if ← take? "[" then
            mark name true
            let keys ← list fuel
            expect "]"
            return .element name keys
          else if (← get).named.contains name then
            expect "("
            let arguments ← argumentsOf fuel
            modify fun reading =>
              { reading with calls := (name, arguments.length, line) :: reading.calls }
            return .call name arguments
          else
            let sign ← nextSign
            if !([",", ")"].contains sign) then mark name false
            return .name name
      | some ⟨.callee name, _, line⟩ =>
          skip
          skip
          let arguments ← argumentsOf fuel
          modify fun reading =>
            { reading with calls := (name, arguments.length, line) :: reading.calls }
          return .call name arguments
      | some ⟨.builtin name, _, line⟩ =>
          skip
          if ← take? "(" then
            let arguments ← argumentsOf fuel
            let (least, most) := arity name
            if arguments.length < least || most < arguments.length then
              fail line s!"wrong number of arguments in call to {name}"
            return .builtin name arguments
          else if name == "length" then return .builtin name []
          else reject
      | some ⟨.word "getline", _, _⟩ =>
          skip
          let target ← target? fuel
          if ← take? "<" then return .read (.file (← counted fuel)) target
          else return .read .input target
      | some ⟨.sign "$", _, _⟩ =>
          skip
          if ← take? "-" then return .field (.negate (← primary fuel))
          else return .field (← primary fuel)
      | some ⟨.sign "++", _, _⟩ =>
          skip
          return .count true false (← primary fuel)
      | some ⟨.sign "--", _, _⟩ =>
          skip
          return .count false false (← primary fuel)
      | some ⟨.sign "-", _, _⟩ =>
          skip
          return .negate (← primary fuel)
      | some ⟨.sign "(", _, _⟩ =>
          skip
          match ← list fuel with
          | [single] =>
              expect ")"
              match single with
              | .name _ | .element .. | .field _ => return .plainly single
              | single => return single
          | parts =>
              expect ")"
              return .several parts
      | _ => reject

/-- Expressions with commas between them. -/
def list (fuel : Nat) : Reader (List Expr) :=
  match fuel with
  | 0 => reject
  | fuel + 1 => do
      let first ← expression fuel
      if ← take? "," then
        skipLines
        return first :: (← list fuel)
      else return [first]

/-- The arguments of a call up to its closing parenthesis. -/
def argumentsOf (fuel : Nat) : Reader (List Expr) :=
  match fuel with
  | 0 => reject
  | fuel + 1 => do
      if ← take? ")" then return []
      else
        let arguments ← list fuel
        expect ")"
        return arguments

end

/-- The arguments of an output statement. -/
def printed (fuel : Nat) : Reader (List Expr) := do
  let ended ← atEnd
  let sends := match ← peek with
    | some ⟨.send _, _, _⟩ => true
    | _ => false
  if ended || sends then return []
  else
    match ← list fuel with
    | [.several parts] => return parts
    | parts => return parts

/-- Where output goes, if that is said. -/
def sentTo (fuel : Nat) : Reader (Option (TargetKind × Expr)) := do
  match ← peek with
  | some ⟨.send kind, _, _⟩ =>
      skip
      return some (kind, ← expression fuel)
  | _ => return none

/-- An expression that is left away at the end of a statement. -/
def optional (fuel : Nat) : Reader (Option Expr) := do
  let ended ← atEnd
  if ended then return none else return some (← expression fuel)

mutual

/-- Statements up to a closing brace. -/
def statements (fuel : Nat) : Reader (List Statement) :=
  match fuel with
  | 0 => reject
  | fuel + 1 => do
      skipLines
      if ← take? "\x7d" then return []
      else
        let first ← statement fuel
        return first :: (← statements fuel)

/-- The body of a loop or a condition. -/
def body (fuel : Nat) (loops : Bool) : Reader Statement :=
  match fuel with
  | 0 => reject
  | fuel + 1 => do
      skipLines
      if loops then
        modify fun reading => { reading with loops := reading.loops + 1 }
        let inside ← statement fuel
        modify fun reading => { reading with loops := reading.loops - 1 }
        return inside
      else statement fuel

def statement (fuel : Nat) : Reader Statement :=
  match fuel with
  | 0 => reject
  | fuel + 1 => do
      match ← peek with
      | some ⟨.semicolon, _, _⟩ =>
          skip
          return .block []
      | some ⟨.sign "\x7b", _, _⟩ =>
          skip
          return .block (← statements fuel)
      | some ⟨.sign "\x7d", _, _⟩ => return .block []
      | some ⟨.word word, _, line⟩ =>
          match word with
          | "if" =>
              skip
              expect "("
              let condition ← expression fuel
              expect ")"
              let yes ← body fuel false
              let before ← get
              skipLines
              if let some ⟨.semicolon, _, _⟩ ← peek then skip
              skipLines
              if ← atWord "else" then
                skip
                return .choose condition yes (← body fuel false)
              else
                set before
                return .choose condition yes (.block [])
          | "while" =>
              skip
              expect "("
              let condition ← expression fuel
              expect ")"
              return .whilst condition (← body fuel true)
          | "do" =>
              skip
              let inside ← body fuel true
              skipLines
              if let some ⟨.semicolon, _, _⟩ ← peek then skip
              skipLines
              if ← atWord "while" then
                skip
                expect "("
                let condition ← expression fuel
                expect ")"
                endStatement
                return .doWhile inside condition
              else reject
          | "for" =>
              skip
              expect "("
              loop fuel
          | "print" =>
              skip
              let arguments ← printed fuel
              let target ← sentTo fuel
              endStatement
              return .print arguments target
          | "printf" =>
              skip
              let arguments ← printed fuel
              let target ← sentTo fuel
              if arguments.isEmpty then
                fail line "no arguments in call to printf"
              endStatement
              return .printf arguments target
          | "next" | "nextfile" =>
              skip
              if !(← get).reads then fail line s!"improper use of {word}"
              endStatement
              return if word == "next" then .next else .nextFile
          | "break" | "continue" =>
              skip
              if (← get).loops == 0 then fail line s!"{word} statement outside of loop"
              endStatement
              return if word == "break" then .leave else .again
          | "exit" =>
              skip
              let status ← optional fuel
              endStatement
              return .exit status
          | "return" =>
              skip
              if (← get).parameters.isNone then fail line "return outside function body"
              let value ← optional fuel
              endStatement
              return .give value
          | "delete" =>
              skip
              let name ← expectName
              mark name true
              let keys ← if ← take? "[" then
                  let keys ← list fuel
                  expect "]"
                  pure (some keys)
                else pure none
              endStatement
              return .delete name keys
          | "getline" =>
              let e ← expression fuel
              endStatement
              return .expression e
          | _ => reject
      | _ =>
          let e ← expression fuel
          endStatement
          return .expression e

/-- A loop after its opening parenthesis. -/
def loop (fuel : Nat) : Reader Statement :=
  match fuel with
  | 0 => reject
  | fuel + 1 => do
      let start ← if ← atSemicolon then pure none else some <$> expression fuel
      match start with
      | some (.within [key] table) =>
          let name? := match key with
            | .name name => some name
            | .plainly (.name name) => some name
            | _ => none
          match name?, ← atSign ")" with
          | some name, true =>
              skip
              return .each name table (← body fuel true)
          | _, _ => counting fuel start
      | start => counting fuel start
where
  atSemicolon : Reader Bool := do
    match ← peek with
    | some ⟨.semicolon, _, _⟩ => return true
    | _ => return false
  pass : Reader Unit := do
    if ← atSemicolon then skip else reject
    skipLines
  counting (fuel : Nat) (start : Option Expr) : Reader Statement := do
    pass
    let condition ← if ← atSemicolon then pure none else some <$> expression fuel
    pass
    let step ← if ← atSign ")" then pure none else some <$> expression fuel
    expect ")"
    return .loop start condition step (← body fuel true)

end

/-- The action of a rule. -/
def action (fuel : Nat) (reads : Bool) : Reader Statement := do
  expect "\x7b"
  modify fun reading => { reading with reads }
  let inside ← statements fuel
  modify fun reading => { reading with reads := false }
  if let some ⟨.semicolon, _, _⟩ ← peek then skip
  return .block inside

/-- Names with commas between them up to a closing parenthesis. -/
def names (fuel : Nat) : Reader (List String) :=
  match fuel with
  | 0 => reject
  | fuel + 1 => do
      let first ← expectName
      if ← take? "," then
        skipLines
        return first :: (← names fuel)
      else
        expect ")"
        return [first]

/-- A function after its first word. -/
def function (fuel : Nat) : Reader Unit := do
  match ← peek with
  | some ⟨.name name, _, line⟩ | some ⟨.callee name, _, line⟩ =>
      skip
      if ((← get).functions.lookup name).isSome then fail line s!"redefinition of {name}"
      modify fun reading => { reading with named := name :: reading.named }
      expect "("
      let parameters ← if ← take? ")" then pure [] else names fuel
      skipLines
      expect "\x7b"
      modify fun reading => { reading with parameters := some parameters }
      let inside ← statements fuel
      modify fun reading =>
        { reading with
          parameters := none
          functions := (name, ⟨parameters, .block inside⟩) :: reading.functions }
      if let some ⟨.semicolon, _, _⟩ ← peek then skip
  | _ => reject

/-- Rules and functions up to the end of the script. -/
def rules (fuel : Nat) : Reader (List Rule) :=
  match fuel with
  | 0 => return []
  | fuel + 1 => do
      skipLines
      match ← peek with
      | none => return []
      | some ⟨.word "function", _, _⟩ =>
          skip
          function fuel
          rules fuel
      | some ⟨.word "BEGIN", _, _⟩ =>
          skip
          let action ← action fuel false
          return ⟨.begin, some action⟩ :: (← rules fuel)
      | some ⟨.word "END", _, _⟩ =>
          skip
          let action ← action fuel false
          return ⟨.finish, some action⟩ :: (← rules fuel)
      | some ⟨.sign "\x7b", _, _⟩ =>
          let action ← action fuel true
          return ⟨.always, some action⟩ :: (← rules fuel)
      | some ⟨.sign "\x7d", _, line⟩ =>
          throw [s!"line {line}: extra '\x7d'",
            s!"line {line}: syntax error at or near end of line"]
      | _ =>
          let first ← expression fuel
          let guard ← if ← take? "," then
              skipLines
              pure (Guard.range first (← expression fuel))
            else pure (.one first)
          if ← atSign "\x7b" then
            let action ← action fuel true
            return ⟨guard, some action⟩ :: (← rules fuel)
          else
            match ← peek with
            | some ⟨.newline, _, _⟩ | some ⟨.semicolon, _, _⟩ => skip
            | none => pure ()
            | _ => reject
            return ⟨guard, none⟩ :: (← rules fuel)

end Reader

/-- Reads a script, or tells what is wrong with it. -/
def readScript (source : ByteArray) : Except (List String) Script := do
  let lexemes := lexemesOf source
  let fuel := 24 * lexemes.length + 64
  let last := (lexemes.getLast?.map (·.line)).getD 1
  let unclosed := s!"line {last + 1}: missing \x7d near end of file"
  let (rules, reading) ← match (Reader.rules fuel).run { rest := lexemes } with
    | .ok found => pure found
    | .error messages =>
        let opened := (lexemes.filter (·.spelled == "\x7b")).length
        let closed := (lexemes.filter (·.spelled == "\x7d")).length
        let syntactic := messages.any fun message =>
          (Text.find? "syntax error".toList message.toList).isSome
        throw (if syntactic && closed < opened then messages ++ [unclosed] else messages)
  for (name, count, line) in reading.calls.reverse do
    match reading.functions.lookup name with
    | none => throw [s!"line {last + 1}: function {name} never defined"]
    | some function =>
        if function.parameters.length < count then
          throw [s!"line {line}: too many arguments in call to {name}"]
  return ⟨rules, reading.functions⟩

end Groundwork.Shell.Program.Awk
