import Groundwork.Template.Node
import Groundwork.Template.Token

/-!
Reading templates. Operators bind in the order: choice, `or`, `and`, `not`, comparisons, sums, `~`,
products, powers, signs; filters and tests apply to what a sign applies to.
-/

namespace Groundwork.Template.Reader

/-- The state of reading: the tokens left, how deep the reader is in nested parts, the names of the
blocks so far, and whether a routine is being read. -/
structure State where
  tokens : List Token
  depth : Nat
  blocks : List String
  inRoutine : Bool

abbrev Read := StateT State (Except TemplateFault)

/-- How deep expressions and statements may be nested. -/
def depthLimit : Nat := 150

def fail {α : Type} (detail : String) : Read α := throw ⟨.malformed, detail⟩

/-- The next token, which stays. -/
def peek : Read (Option Token) := do
  match (← get).tokens with
  | [] => return none
  | .broken fault :: _ => throw fault
  | token :: _ => return some token

def drop : Read Unit := modify fun s => { s with tokens := s.tokens.drop 1 }

/-- Takes the next token, if there is one. -/
def next? : Read (Option Token) := do
  let token ← peek
  drop
  return token

def next : Read Token := do
  match ← next? with
  | some token => return token
  | none => fail "unexpected end of input"

def isSign (sign : Sign) : Option Token → Bool
  | some (.sign s) => s == sign
  | _ => false

def isWord (names : List String) : Option Token → Bool
  | some (.word w) => names.contains w
  | _ => false

def isBlockEnd : Option Token → Bool
  | some .closeBlock => true
  | _ => false

def atSign (sign : Sign) : Read Bool := do return isSign sign (← peek)

def atWord (names : List String) : Read Bool := do return isWord names (← peek)

def atBlockEnd : Read Bool := do return isBlockEnd (← peek)

def skipSign (sign : Sign) : Read Bool := do
  let found ← atSign sign
  if found then drop
  return found

def skipWord (names : List String) : Read Bool := do
  let found ← atWord names
  if found then drop
  return found

def expectSign (sign : Sign) : Read Unit := do
  if !isSign sign (some (← next)) then fail "unexpected token"

def expectWord (name : String) : Read Unit := do
  if !isWord [name] (some (← next)) then fail ("unexpected token, expected " ++ name)

def expectBlockEnd : Read Unit := do
  if !isBlockEnd (some (← next)) then fail "unexpected token, expected end of block"

def word : Read String := do
  match ← next with
  | .word name => return name
  | _ => fail "unexpected token, expected identifier"

/-- Reads a nested part. -/
def nested {α : Type} (part : Read α) : Read α := do
  modify fun s => { s with depth := s.depth + 1 }
  if depthLimit < (← get).depth then fail "template exceeds maximum recursion limits"
  let result ← part
  modify fun s => { s with depth := s.depth - 1 }
  return result

/-! ## Expressions -/

/-- The tiers of left-associative operators, loosest first. -/
inductive Tier where
  | either
  | both
  | sum
  | join
  | product
  | power
deriving Repr, DecidableEq

def Tier.operator? (tier : Tier) (token : Option Token) : Option (Expr → Expr → Expr) :=
  match tier, token with
  | .either, some (.word "or") => some .either
  | .both, some (.word "and") => some .both
  | .sum, some (.sign .plus) => some (.binary .add)
  | .sum, some (.sign .minus) => some (.binary .subtract)
  | .join, some (.sign .tilde) => some (.binary .join)
  | .product, some (.sign .times) => some (.binary .multiply)
  | .product, some (.sign .divide) => some (.binary .divide)
  | .product, some (.sign .divideWhole) => some (.binary .divideWhole)
  | .product, some (.sign .modulo) => some (.binary .modulo)
  | .power, some (.sign .power) => some (.binary .power)
  | _, _ => none

def comparison? : Option Token → Option Operator
  | some (.sign .equal) => some .equal
  | some (.sign .notEqual) => some .notEqual
  | some (.sign .less) => some .less
  | some (.sign .lessEqual) => some .lessEqual
  | some (.sign .greater) => some .greater
  | some (.sign .greaterEqual) => some .greaterEqual
  | some (.word "in") => some .member
  | _ => none

/-- Whether a token begins the argument of a test that is written without parentheses. -/
def beginsArgument : Option Token → Bool
  | some (.word w) => !(["and", "or", "else", "is"].contains w)
  | some (.string _) | some (.int _) | some (.float _) => true
  | some (.sign s) => [Sign.plus, .minus, .openBracket, .openBrace].contains s
  | _ => false

/-- Joins the strings that follow one another. -/
def joinStrings (first : String) : List Token → String × List Token
  | .string more :: rest => joinStrings (first ++ more) rest
  | tokens => (first, tokens)

/-- How many arguments a call may have. -/
def argumentLimit : Nat := 2000

mutual

/-- An expression in a nested part. -/
def expr : Nat → Read Expr
  | 0 => fail "template is too deep"
  | fuel + 1 => nested (choice fuel)

def choice : Nat → Read Expr
  | 0 => fail "template is too deep"
  | fuel + 1 => do choiceRest fuel (← tier fuel .either)

def choiceRest : Nat → Expr → Read Expr
  | 0, _ => fail "template is too deep"
  | fuel + 1, yes => do
      if ← skipWord ["if"] then
        let test ← tier fuel .either
        let no ← if ← skipWord ["else"] then some <$> choice fuel else pure none
        choiceRest fuel (.choose test yes no)
      else return yes

/-- An expression of operators of a tier and tighter ones. -/
def tier : Nat → Tier → Read Expr
  | 0, _ => fail "template is too deep"
  | fuel + 1, t => do tierRest fuel t (← operand fuel t)

/-- What the operators of a tier combine. -/
def operand : Nat → Tier → Read Expr
  | 0, _ => fail "template is too deep"
  | fuel + 1, .either => tier fuel .both
  | fuel + 1, .both => negation fuel
  | fuel + 1, .sum => tier fuel .join
  | fuel + 1, .join => tier fuel .product
  | fuel + 1, .product => tier fuel .power
  | fuel + 1, .power => unary fuel

def tierRest : Nat → Tier → Expr → Read Expr
  | 0, _, _ => fail "template is too deep"
  | fuel + 1, t, left => do
      match t.operator? (← peek) with
      | some combine =>
          drop
          let right ← operand fuel t
          tierRest fuel t (combine left right)
      | none => return left

def negation : Nat → Read Expr
  | 0 => fail "template is too deep"
  | fuel + 1 => do
      if ← skipWord ["not"] then return .not (← negation fuel)
      else comparisonRest fuel (← tier fuel .sum)

def comparisonRest : Nat → Expr → Read Expr
  | 0, _ => fail "template is too deep"
  | fuel + 1, left => do
      match comparison? (← peek) with
      | some operator =>
          drop
          let right ← tier fuel .sum
          comparisonRest fuel (.binary operator left right)
      | none =>
          if ← skipWord ["not"] then
            expectWord "in"
            let right ← tier fuel .sum
            comparisonRest fuel (.not (.binary .member left right))
          else return left

/-- A signed operand with its members, filters and tests. -/
def unary : Nat → Read Expr
  | 0 => fail "template is too deep"
  | fuel + 1 => do
      let operand ← signed fuel
      let reached ← members fuel operand
      filters fuel reached

def signed : Nat → Read Expr
  | 0 => fail "template is too deep"
  | fuel + 1 => do
      if ← skipSign .minus then return .negate (← signed fuel)
      else nested (primary fuel)

/-- Attributes, items and calls after an expression. -/
def members : Nat → Expr → Read Expr
  | 0, _ => fail "template is too deep"
  | fuel + 1, e => do
      match ← peek with
      | some (.sign .dot) =>
          drop
          members fuel (.attribute e (← word))
      | some (.sign .openBracket) =>
          drop
          members fuel (← subscript fuel e)
      | some (.sign .openParen) =>
          members fuel (.call e (← arguments fuel))
      | _ => return e

/-- What stands between brackets after an expression: a key, or the bounds of a slice. -/
def subscript : Nat → Expr → Read Expr
  | 0, _ => fail "template is too deep"
  | fuel + 1, e => do
      let start ← if ← atSign .colon then pure none else some <$> expr fuel
      if ← skipSign .colon then
        let stop ←
          if (← atSign .closeBracket) || (← atSign .colon) then pure none else some <$> expr fuel
        let mut step : Option Expr := none
        if ← skipSign .colon then
          if !(← atSign .closeBracket) then step ← some <$> expr fuel
        expectSign .closeBracket
        return .slice e start stop step
      else
        expectSign .closeBracket
        match start with
        | some key => return .item e key
        | none => fail "empty subscript"

/-- Filters and tests after an expression. -/
def filters : Nat → Expr → Read Expr
  | 0, _ => fail "template is too deep"
  | fuel + 1, e => do
      if ← skipSign .pipe then
        let name ← word
        let args ← optionalArguments fuel
        filters fuel (.filtered name (some e) args)
      else if ← skipWord ["is"] then
        let negated ← skipWord ["not"]
        let name ← word
        let args ←
          if ← atSign .openParen then arguments fuel
          else if beginsArgument (← peek) then do
            let argument ← members fuel (← signed fuel)
            pure [(Passing.placed, argument)]
          else pure []
        let test := Expr.tested name e args
        filters fuel (if negated then .not test else test)
      else return e

def optionalArguments : Nat → Read (List (Passing × Expr))
  | 0 => fail "template is too deep"
  | fuel + 1 => do if ← atSign .openParen then arguments fuel else return []

def arguments : Nat → Read (List (Passing × Expr))
  | 0 => fail "template is too deep"
  | fuel + 1 => do
      expectSign .openParen
      if ← skipSign .closeParen then return []
      else argumentsRest fuel [] false

/-- Reads arguments; `named` tells whether one was passed by name. -/
def argumentsRest : Nat → List (Passing × Expr) → Bool → Read (List (Passing × Expr))
  | 0, _, _ => fail "template is too deep"
  | fuel + 1, before, named => do
      let passing ←
        if ← skipSign .power then pure Passing.spreadNamed
        else if ← skipSign .times then pure Passing.spread
        else pure Passing.placed
      let e ← expr fuel
      let (argument, named) ←
        match passing, e with
        | .placed, .var name =>
            if ← skipSign .assign then
              let value ← tier fuel .either
              pure ((Passing.named name, value), true)
            else if named then fail "non-keyword arg after keyword arg"
            else pure ((passing, e), false)
        | .placed, _ =>
            if named then fail "non-keyword arg after keyword arg" else pure ((passing, e), false)
        | .spreadNamed, _ => pure ((passing, e), true)
        | _, _ => pure ((passing, e), named)
      let arguments := before ++ [argument]
      if argumentLimit < arguments.length then fail "Too many arguments in function call"
      if ← skipSign .closeParen then return arguments
      expectSign .comma
      if ← skipSign .closeParen then return arguments
      argumentsRest fuel arguments named

def primary : Nat → Read Expr
  | 0 => fail "template is too deep"
  | fuel + 1 => do
      match ← next with
      | .word name =>
          match name with
          | "true" | "True" => return .const (.bool true)
          | "false" | "False" => return .const (.bool false)
          | "none" | "None" => return .const .null
          | _ => return .var name
      | .string s =>
          let (joined, rest) := joinStrings s (← get).tokens
          modify fun state => { state with tokens := rest }
          return .const (.ofText joined)
      | .int n => return .const (.int n)
      | .float x => return .const (.float x)
      | .sign .openParen =>
          if ← skipSign .closeParen then return .list []
          let first ← expr fuel
          if ← atSign .comma then return .list (← itemsRest fuel .closeParen [first])
          else
            expectSign .closeParen
            return first
      | .sign .openBracket =>
          if ← skipSign .closeBracket then return .list []
          let first ← expr fuel
          return .list (← itemsRest fuel .closeBracket [first])
      | .sign .openBrace =>
          if ← skipSign .closeBrace then return .map []
          else return .map (← entriesRest fuel [])
      | _ => fail "unexpected token"

/-- The items after the first ones of a list, up to the sign that closes it. -/
def itemsRest : Nat → Sign → List Expr → Read (List Expr)
  | 0, _, _ => fail "template is too deep"
  | fuel + 1, closing, items => do
      if ← skipSign closing then return items
      expectSign .comma
      if ← skipSign closing then return items
      itemsRest fuel closing (items ++ [← expr fuel])

def entriesRest : Nat → List (Expr × Expr) → Read (List (Expr × Expr))
  | 0, _ => fail "template is too deep"
  | fuel + 1, entries => do
      let key ← expr fuel
      expectSign .colon
      let value ← expr fuel
      let entries := entries ++ [(key, value)]
      if ← skipSign .closeBrace then return entries
      expectSign .comma
      if ← skipSign .closeBrace then return entries
      entriesRest fuel entries

end

/-! ## Targets -/

/-- Names that cannot be assigned. -/
def reserved : List String :=
  ["true", "True", "false", "False", "none", "None", "loop", "self"]

def targetName : Read String := do
  let name ← word
  if reserved.contains name then fail ("cannot assign to reserved variable name " ++ name)
  return name

/-- Attributes after the name of a target. -/
def targetAttributes : Nat → String → Option Expr → Read Target
  | 0, _, _ => fail "template is too deep"
  | fuel + 1, name, object => do
      let target : Target :=
        match object with
        | none => .name name
        | some e => .attribute e name
      if ← skipSign .dot then
        let inner : Expr :=
          match object with
          | none => .var name
          | some e => .attribute e name
        targetAttributes fuel (← word) (some inner)
      else return target

/-- A name, or several names and groups of names with commas; there may be none. With `dotted` a
name may have attributes. -/
def targets (dotted : Bool) : Nat → List Target → Bool → Read Target
  | 0, _, _ => fail "template is too deep"
  | fuel + 1, before, several => do
      let finish (all : List Target) (several : Bool) : Target :=
        match all, several with
        | [single], false => single
        | _, _ => .parts all
      if !before.isEmpty then expectSign .comma
      let token ← peek
      let ended :=
        match token with
        | some .closeValue => true
        | _ => isSign .closeParen token || isBlockEnd token || isWord ["in"] token
      if ended then return finish before several
      let target ←
        if ← skipSign .openParen then do
          let inner ← targets dotted fuel [] false
          expectSign .closeParen
          pure inner
        else if dotted then targetAttributes fuel (← targetName) none
        else Target.name <$> targetName
      let all := before ++ [target]
      if ← atSign .comma then targets dotted fuel all true else return finish all several

mutual

/-- The target that an expression is, if it is one. -/
def targetOf? : Expr → Option Target
  | .var name => some (.name name)
  | .attribute of name => some (.attribute of name)
  | .list items => (targetsOf? items).map .parts
  | _ => none

def targetsOf? : List Expr → Option (List Target)
  | [] => some []
  | e :: rest => do return (← targetOf? e) :: (← targetsOf? rest)

end

/-! ## Statements -/

/-- The parameters of a routine after the opening parenthesis. After one with a default all have
one. -/
def parameters : Nat → List String → List Expr → Read (List String × List Expr)
  | 0, _, _ => fail "template is too deep"
  | fuel + 1, names, defaults => do
      if ← skipSign .closeParen then return (names, defaults)
      if !names.isEmpty then expectSign .comma
      if !names.isEmpty && (← skipSign .closeParen) then return (names, defaults)
      let name ← targetName
      if ← skipSign .assign then
        let value ← expr fuel
        parameters fuel (names ++ [name]) (defaults ++ [value])
      else if !defaults.isEmpty then fail "unexpected token, expected `=`"
      else parameters fuel (names ++ [name]) defaults

/-- The chain of filters of a block. -/
def filterChain : Nat → Option Expr → Read Expr
  | 0, _ => fail "template is too deep"
  | fuel + 1, before => do
      if ← atBlockEnd then
        match before with
        | some chain => return chain
        | none => fail "expected a filter"
      else
        if before.isSome then expectSign .pipe
        let name ← word
        let args ← optionalArguments fuel
        filterChain fuel (some (.filtered name before args))

/-- The assignments of a scope. -/
def assignments : Nat → List (Target × Expr) → Read (List (Target × Expr))
  | 0, _ => fail "template is too deep"
  | fuel + 1, before => do
      if ← atBlockEnd then return before
      if !before.isEmpty then expectSign .comma
      let target ←
        if ← skipSign .openParen then do
          let inner ← targets false fuel [] false
          expectSign .closeParen
          pure inner
        else Target.name <$> targetName
      expectSign .assign
      let value ← expr fuel
      assignments fuel (before ++ [(target, value)])

/-- Reads the words that a template may give after the name of another, which change nothing, and
tells whether they were there. -/
def contextWords : Read Bool := do
  if ← skipWord ["with", "without"] then
    expectWord "context"
    return true
  else return false

/-- The names that an import takes, each with the name it gets. -/
def importedNames : Nat → List (String × Target) → Read (List (String × Target))
  | 0, _ => fail "template is too deep"
  | fuel + 1, before => do
      let ended : Read Bool := do if ← contextWords then return true else atBlockEnd
      if ← ended then return before
      if !before.isEmpty then
        expectSign .comma
        if ← ended then return before
      let name ← targetName
      let taken ← if ← skipWord ["as"] then targetName else pure name
      importedNames fuel (before ++ [(name, .name taken)])

mutual

/-- Statements up to a block that begins with one of the given words, which is left to read. -/
def body : Nat → List String → Read (List Stmt)
  | 0, _ => fail "template is too deep"
  | fuel + 1, ends => do
      match ← next? with
      | none => return []
      | some (.data text) => return .data text :: (← body fuel ends)
      | some .openValue =>
          let value ← expr fuel
          match ← next with
          | .closeValue => return .emit value :: (← body fuel ends)
          | _ => fail "unexpected token, expected end of variable block"
      | some .openBlock =>
          match ← peek with
          | none => fail "unexpected end of input, expected keyword"
          | token =>
              if isWord ends token then return []
              let stmt ← nested (statement fuel)
              expectBlockEnd
              return stmt :: (← body fuel ends)
      | some _ => fail "unexpected token"

/-- Statements up to a block with the given word, which is taken. -/
def bodyTo : Nat → String → Read (List Stmt)
  | 0, _ => fail "template is too deep"
  | fuel + 1, ending => do
      let stmts ← body fuel [ending]
      let _ ← next?
      return stmts

def statement : Nat → Read Stmt
  | 0 => fail "template is too deep"
  | fuel + 1 => do
      match ← next with
      | .word "for" =>
          let target ← targets false fuel [] false
          expectWord "in"
          let subject ← tier fuel .either
          let condition ← if ← skipWord ["if"] then some <$> expr fuel else pure none
          let recursive ← skipWord ["recursive"]
          expectBlockEnd
          let stmts ← body fuel ["endfor", "else"]
          let otherwise ←
            if ← skipWord ["else"] then do
              expectBlockEnd
              body fuel ["endfor"]
            else pure []
          let _ ← next?
          return .loop target subject condition recursive stmts otherwise
      | .word "if" => branches fuel
      | .word "with" =>
          let all ← assignments fuel []
          expectBlockEnd
          return .scope all (← bodyTo fuel "endwith")
      | .word "set" => assignment fuel
      | .word "autoescape" =>
          let enabled ← expr fuel
          expectBlockEnd
          return .escaping enabled (← bodyTo fuel "endautoescape")
      | .word "filter" =>
          let chain ← filterChain fuel none
          expectBlockEnd
          return .filtered chain (← bodyTo fuel "endfilter")
      | .word "block" => blockStatement fuel
      | .word "extends" => return .parent (← expr fuel)
      | .word "include" =>
          let name ← expr fuel
          let _ ← contextWords
          let optional ← skipWord ["ignore"]
          if optional then
            expectWord "missing"
            let _ ← contextWords
          return .inclusion name optional
      | .word "import" =>
          let name ← expr fuel
          expectWord "as"
          let target ← expr fuel
          let _ ← contextWords
          match targetOf? target with
          | some target => return .imported name target
          | none => fail "bad assignment target"
      | .word "from" =>
          let name ← expr fuel
          expectWord "import"
          return .names name (← importedNames fuel [])
      | .word "macro" =>
          let name ← word
          expectSign .openParen
          let (names, defaults) ← parameters fuel [] []
          return .routine name names defaults (← routineBody fuel "endmacro")
      | .word "call" =>
          let (names, defaults) ←
            if ← skipSign .openParen then parameters fuel [] [] else pure ([], [])
          match ← expr fuel with
          | .call callee args =>
              return .callWith callee args names defaults (← routineBody fuel "endcall")
          | _ => fail "expected call expression in call block"
      | .word "do" =>
          match ← expr fuel with
          | .call callee args => return .perform callee args
          | _ => fail "expected call expression in do block"
      | .word name => fail ("unknown statement " ++ name)
      | _ => fail "unknown token, expected statement"

/-- The test of a branch and all that follows. -/
def branches : Nat → Read Stmt
  | 0 => fail "template is too deep"
  | fuel + 1 => do
      let test ← tier fuel .either
      expectBlockEnd
      let yes ← body fuel ["endif", "else", "elif"]
      match ← next? with
      | some (.word "else") =>
          expectBlockEnd
          return .branch test yes (← bodyTo fuel "endif")
      | some (.word "elif") => return .branch test yes [← branches fuel]
      | _ => return .branch test yes []

/-- An assignment of a value, or of the text of the statements up to its end. -/
def assignment : Nat → Read Stmt
  | 0 => fail "template is too deep"
  | fuel + 1 => do
      let target ← targets true fuel [] false
      if ← atBlockEnd then
        expectBlockEnd
        return .capture target none (← bodyTo fuel "endset")
      else if ← skipSign .pipe then
        let chain ← filterChain fuel none
        expectBlockEnd
        return .capture target (some chain) (← bodyTo fuel "endset")
      else
        expectSign .assign
        return .assign target (← assigned fuel)

/-- An expression, or a list of several with commas. -/
def assigned : Nat → Read Expr
  | 0 => fail "template is too deep"
  | fuel + 1 => do
      let first ← expr fuel
      if ← atSign .comma then return .list (← assignedRest fuel [first]) else return first

def assignedRest : Nat → List Expr → Read (List Expr)
  | 0, _ => fail "template is too deep"
  | fuel + 1, items => do
      if ← skipSign .comma then
        if ← atBlockEnd then return items
        assignedRest fuel (items ++ [← expr fuel])
      else return items

def blockStatement : Nat → Read Stmt
  | 0 => fail "template is too deep"
  | fuel + 1 => do
      if (← get).inRoutine then fail "block tags in macros are not allowed"
      let name ← word
      if (← get).blocks.contains name then fail ("block '" ++ name ++ "' defined twice")
      modify fun s => { s with blocks := name :: s.blocks }
      expectBlockEnd
      let stmts ← bodyTo fuel "endblock"
      match ← peek with
      | some (.word trailing) =>
          if trailing != name then fail "mismatching name on block"
          drop
      | _ => pure ()
      return .block name stmts

def routineBody : Nat → String → Read (List Stmt)
  | 0, _ => fail "template is too deep"
  | fuel + 1, ending => do
      expectBlockEnd
      let outside := (← get).inRoutine
      modify fun s => { s with inRoutine := true }
      let stmts ← body fuel [ending]
      modify fun s => { s with inRoutine := outside }
      let _ ← next?
      return stmts

end

/-- The statements of a template. -/
def readTemplate (text : List Char) : Except TemplateFault (List Stmt) :=
  let tokens := Token.scan text
  ((body (20 * (tokens.length + 20)) []).run ⟨tokens, 0, [], false⟩).map (·.1)

end Groundwork.Template.Reader
