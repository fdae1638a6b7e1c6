import Groundwork.Shell.Program.Awk.Script

/-!
The tokens of scripts of `awk`. Whether a slash begins a pattern and whether a greater-than sign
sends output to a file depends on what comes before it.
-/

namespace Groundwork.Shell.Program.Awk

inductive Token where
  | newline
  | semicolon
  | sign (text : String)
  | number (x : Float)
  | text (bytes : ByteArray)
  | pattern (pattern : Pattern)
  | name (name : String)
  /-- A name with a parenthesis right behind it. -/
  | callee (name : String)
  | word (word : String)
  | builtin (name : String)
  /-- Sends output somewhere. -/
  | send (kind : TargetKind)
  /-- Something that cannot be read, with a message. -/
  | fault (message : String)

/-- A token, how it is spelled, and its line. -/
structure Lexeme where
  token : Token
  spelled : String
  line : Nat

instance : Inhabited Lexeme := ⟨⟨.newline, "", 0⟩⟩

namespace Lexing

def words : List String :=
  ["BEGIN", "END", "if", "else", "while", "do", "for", "break", "continue", "function", "func",
    "return", "print", "printf", "getline", "next", "nextfile", "exit", "delete", "in"]

def builtins : List String :=
  ["length", "substr", "index", "split", "sub", "gsub", "match", "sprintf", "sin", "cos", "atan2",
    "exp", "log", "sqrt", "int", "rand", "srand", "tolower", "toupper", "system", "close",
    "fflush"]

/-- Signs, those of more letters first. -/
def signs : List String :=
  ["&&", "||", "++", "--", "+=", "-=", "*=", "/=", "%=", "^=", "==", "<=", ">=", "!=", "!~", "\x7b",
    "\x7d", "(", ")", "[", "]", ",", "+", "-", "*", "/", "%", "^", "!", ">", "<", "|", "?", ":",
    "~", "$", "="]

def isNameStart (b : UInt8) : Bool :=
  (65 ≤ b && b ≤ 90) || (97 ≤ b && b ≤ 122) || b == 95

def isNameByte (b : UInt8) : Bool := isNameStart b || isDigit b

/-- Whether a value can end with a token, so that a slash after it divides. -/
def endsValue : Option Token → Bool
  | some (.number _) | some (.text _) | some (.pattern _) | some (.name _) => true
  | some (.builtin name) => name == "length"
  | some (.word word) => word == "getline"
  | some (.sign text) => [")", "]", "++", "--", "$"].contains text
  | _ => false

/-- An escape after a backslash: its bytes and what follows. -/
def readEscape (text : List UInt8) : List UInt8 × List UInt8 :=
  match text with
  | [] => ([92], [])
  | 10 :: rest => ([], rest)
  | b :: rest =>
      let letter? : Option UInt8 := match b.toNat with
        | 34 => some 34
        | 92 => some 92
        | 97 => some 7
        | 98 => some 8
        | 102 => some 12
        | 110 => some 10
        | 114 => some 13
        | 116 => some 9
        | 118 => some 11
        | _ => none
      let isOctal (b : UInt8) : Bool := 48 ≤ b && b ≤ 55
      match letter? with
      | some letter => ([letter], rest)
      | none =>
          if isOctal b then
            let digits := (text.take 3).takeWhile isOctal
            ([UInt8.ofNat (digits.foldl (fun n d => 8 * n + (d.toNat - 48)) 0)],
              text.drop digits.length)
          else if b == 120 then
            let digits := (rest.take 2).takeWhile fun d => (hexValue? d).isSome
            if digits.isEmpty then ([92, 120], rest)
            else
              ([UInt8.ofNat (digits.foldl (fun n d => 16 * n + (hexValue? d).getD 0) 0)],
                rest.drop digits.length)
          else ([92, b], rest)

/-- The bytes of a text with escapes, the last one first; `fuel` bounds them. -/
def unescape (fuel : Nat) (before : List UInt8) (text : List UInt8) : List UInt8 :=
  match fuel with
  | 0 => before
  | fuel + 1 =>
      match text with
      | [] => before
      | 92 :: rest =>
          let (bytes, rest) := readEscape rest
          unescape fuel (bytes.reverse ++ before) rest
      | b :: rest => unescape fuel (b :: before) rest

/-- The text that bytes with escapes stand for. -/
def textOf (bytes : List UInt8) : ByteArray :=
  ⟨(unescape (bytes.length + 1) [] bytes).reverse.toArray⟩

/-- The bytes up to a mark that no backslash stands before, the last one first, and the bytes after
the mark. Marks in brackets do not count in patterns. -/
def readUntil (mark : UInt8) (brackets : Bool) (inside : Bool) (before : List UInt8)
    : List UInt8 → Option (List UInt8 × List UInt8)
  | [] => none
  | [b] => if b == mark && !inside then some (before, []) else none
  | b :: c :: rest =>
      if b == mark && !inside then some (before, c :: rest)
      else if b == 10 then none
      else if b == 92 then readUntil mark brackets inside (c :: b :: before) rest
      else
        let inside := if !brackets then false
          else if b == 91 && !inside then true
          else if b == 93 && inside && before.head? != some 91 then false
          else inside
        readUntil mark brackets inside (b :: before) (c :: rest)

/-- The pattern that bytes between slashes spell. -/
def withoutSlashes : List UInt8 → List UInt8
  | 92 :: 47 :: rest => 47 :: withoutSlashes rest
  | 92 :: b :: rest => 92 :: b :: withoutSlashes rest
  | b :: rest => b :: withoutSlashes rest
  | [] => []

/-- The state of reading. -/
structure State where
  rest : List UInt8
  line : Nat := 1
  /-- What came last, the last one first. -/
  lexemes : List Lexeme := []
  /-- Whether something is printed, and how many parentheses are open. -/
  printing : Bool := false
  depth : Nat := 0

/-- Adds a token. -/
def State.add (state : State) (token : Token) (spelled : String) (rest : List UInt8) : State :=
  { state with rest, lexemes := ⟨token, spelled, state.line⟩ :: state.lexemes }

def asText (bytes : List UInt8) : String := Text.decodeLossy ⟨bytes.toArray⟩

/-- Stops reading with a message. -/
def State.stop (state : State) (message : String) : State :=
  state.add (.fault message) "" []

/-- Reads a number. -/
def State.readNumber (state : State) : State :=
  let digits (text : List UInt8) : List UInt8 := text.takeWhile isDigit
  let whole := digits state.rest
  let rest := state.rest.drop whole.length
  let fraction := match rest with
    | 46 :: rest => 46 :: digits rest
    | _ => []
  let rest := rest.drop fraction.length
  let exponent := match rest with
    | e :: rest =>
        if e == 101 || e == 69 then
          let sign := rest.takeWhile fun b => b == 43 || b == 45
          let sign := sign.take 1
          let number := digits (rest.drop sign.length)
          if number.isEmpty then [] else e :: sign ++ number
        else []
    | [] => []
  let spelled := whole ++ fraction ++ exponent
  state.add (.number (numberOf ⟨spelled.toArray⟩)) (asText spelled) (rest.drop exponent.length)

/-- Reads a name or a word. -/
def State.readName (state : State) : State :=
  let letters := state.rest.takeWhile isNameByte
  let rest := state.rest.drop letters.length
  let name := asText letters
  let token : Token :=
    if words.contains name then .word (if name == "func" then "function" else name)
    else if builtins.contains name then .builtin name
    else if rest.head? == some 40 then .callee name
    else .name name
  let state := state.add token name rest
  if name == "print" || name == "printf" then { state with printing := true } else state

/-- Reads a sign. -/
def State.readSign (state : State) : State :=
  let rest := state.rest
  match signs.find? fun sign => sign.toUTF8.data.toList.isPrefixOf rest with
  | none =>
      let b := rest.headD 0
      let shown := if 32 ≤ b && b ≤ 126 then "'" ++ String.singleton (Char.ofNat b.toNat) ++ "'"
        else "0x" ++ String.ofList (Nat.toDigits 16 b.toNat)
      state.stop s!"{state.line}: unexpected character {shown}"
  | some sign =>
      let after := rest.drop sign.utf8ByteSize
      let sends := state.printing && state.depth == 0
      match sign with
      | ">" | ">=" =>
          if sends then
            let state := { state with printing := false }
            if rest.drop 1 |>.head? |> (· == some 62) then
              state.add (.send .fileEnd) ">>" (rest.drop 2)
            else state.add (.send .file) ">" (rest.drop 1)
          else state.add (.sign sign) sign after
      | "|" =>
          if sends then { state with printing := false }.add (.send .command) "|" after
          else state.add (.sign sign) sign after
      | "(" => { state with depth := state.depth + 1 }.add (.sign sign) sign after
      | ")" =>
          if state.depth == 0 then state.stop s!"line {state.line}: extra ')'"
          else { state with depth := state.depth - 1 }.add (.sign sign) sign after
      | "\x7d" => { state with printing := false }.add (.sign sign) sign after
      | sign => state.add (.sign sign) sign after

/-- Reads a pattern after its first slash. -/
def State.readPattern (state : State) (rest : List UInt8) : State :=
  match readUntil 47 true false [] rest with
  | none =>
      state.stop s!"line {state.line}: runaway regular expression /{asText (rest.take 10)} ..."
  | some (bytes, after) =>
      let source : ByteArray := ⟨(withoutSlashes bytes.reverse).toArray⟩
      match Awk.readPattern source with
      | .ok pattern => state.add (.pattern pattern) s!"/{asText bytes.reverse}/" after
      | .error message =>
          state.stop (s!"line {state.line}: regular expression compile failed ({message})\n" ++
            asText source.data.toList)

/-- Reads a token. -/
def State.step (state : State) : State :=
  match state.rest with
  | [] => state
  | 10 :: rest =>
      let state := { state with printing := false }.add .newline "end of line" rest
      { state with line := state.line + 1 }
  | 92 :: 10 :: rest => { state with rest, line := state.line + 1 }
  | 92 :: 13 :: 10 :: rest => { state with rest, line := state.line + 1 }
  | 35 :: rest => { state with rest := rest.dropWhile (· != 10) }
  | 59 :: rest => { state with printing := false }.add .semicolon ";" rest
  | 34 :: rest =>
      match readUntil 34 false false [] rest with
      | none =>
          state.stop s!"line {state.line}: runaway string constant \x22{asText (rest.take 10)} ..."
      | some (bytes, after) =>
          let lines := (bytes.filter (· == 10)).length
          let spelled := "\x22" ++ asText bytes.reverse ++ "\x22"
          let state := state.add (.text (textOf bytes.reverse)) spelled after
          { state with line := state.line + lines }
  | b :: rest =>
      if isSpace b then { state with rest }
      else if isNameStart b then state.readName
      else if isDigit b || (b == 46 && rest.head?.any isDigit) then state.readNumber
      else if b == 47 && !endsValue (state.lexemes.head?.map (·.token)) then state.readPattern rest
      else state.readSign

/-- Reads tokens as long as there are bytes; `fuel` bounds their number. -/
def State.run (fuel : Nat) (state : State) : State :=
  match fuel with
  | 0 => state
  | fuel + 1 => if state.rest.isEmpty then state else state.step.run fuel

end Lexing

/-- The tokens of a script, with the end of a line after the last one. -/
def lexemesOf (source : ByteArray) : List Lexeme :=
  let bytes := source.data.toList
  let state := ({ rest := bytes } : Lexing.State).run (bytes.length + 1)
  (⟨.newline, "end of line", state.line⟩ :: state.lexemes).reverse

end Groundwork.Shell.Program.Awk
