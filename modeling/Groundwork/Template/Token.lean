import Groundwork.Bits
import Groundwork.Decimal.Fraction
import Groundwork.Json.Lexeme
import Groundwork.Template.Fault
import Groundwork.Text.Blank
import Groundwork.Text.Search

/-!
The tokens of a template. Text stands for itself up to the next `\x7b\x7b`, `\x7b%` or `\x7b#`;
inside of the first two the words and signs of the language are read, up to the closing mark that
no bracket encloses.
-/

namespace Groundwork.Template

/-- The signs of the language. -/
inductive Sign where
  | plus
  | minus
  | times
  | divide
  | divideWhole
  | modulo
  | power
  | dot
  | comma
  | colon
  | tilde
  | pipe
  | assign
  | equal
  | notEqual
  | less
  | lessEqual
  | greater
  | greaterEqual
  | openParen
  | closeParen
  | openBracket
  | closeBracket
  | openBrace
  | closeBrace
deriving Repr, DecidableEq

/-- A token. `broken` ends the tokens of a text that cannot be read on. -/
inductive Token where
  | data (text : String)
  | openValue
  | closeValue
  | openBlock
  | closeBlock
  | word (name : String)
  | string (value : String)
  | int (value : Nat)
  | float (value : Float)
  | sign (sign : Sign)
  | broken (fault : TemplateFault)

namespace Token

/-- What is being read: text, a value to print, or a block. -/
inductive Mode where
  | data
  | value
  | block
deriving Repr, DecidableEq

/-- What opens in a text. -/
inductive Opening where
  | value
  | block
  | comment
deriving Repr, DecidableEq

/-- What a mark does with the blanks next to it. -/
inductive Trimming where
  | leave
  | keep
  | remove
deriving Repr, DecidableEq

def trimming : List Char → Trimming × List Char
  | '-' :: rest => (.remove, rest)
  | '+' :: rest => (.keep, rest)
  | rest => (.leave, rest)

def opening? : List Char → Option Opening
  | '\x7b' :: '\x7b' :: _ => some .value
  | '\x7b' :: '%' :: _ => some .block
  | '\x7b' :: '#' :: _ => some .comment
  | _ => none

/-- The text before the first opening mark, the mark, and the text after it. -/
def splitOpening : List Char → List Char × Option (Opening × List Char)
  | [] => ([], none)
  | c :: rest =>
      match opening? (c :: rest) with
      | some opening => ([], some (opening, rest.drop 1))
      | none =>
          let (lead, found) := splitOpening rest
          (c :: lead, found)

/-- The blanks between tokens. -/
def isSpace (c : Char) : Bool :=
  c == ' ' || c == '\t' || c == '\n' || c == '\r' || c == '\x0c'

def isLetter (c : Char) : Bool := c.isAlpha || c == '_'

def isWordChar (c : Char) : Bool := c.isAlphanum || c == '_'

/-- The text after a word, if it stands there alone in a block, and how the block ends. -/
def afterBlock? (name : String) (text : List Char) : Option (Trimming × List Char) :=
  let text := text.dropWhile isSpace
  if name.toList.isPrefixOf text then
    let (trim, text) := trimming ((text.drop name.length).dropWhile isSpace)
    match text with
    | '%' :: '\x7d' :: rest => some (trim, rest)
    | _ => none
  else none

/-- Reads verbatim text up to the block that ends it: the text, what that block trims before and
after it, and the rest. -/
def readVerbatim : List Char → Option (List Char × Trimming × Trimming × List Char)
  | [] => none
  | c :: rest =>
      match c, rest with
      | '\x7b', '%' :: after =>
          let (before, inner) := trimming after
          match afterBlock? "endraw" inner with
          | some (trim, left) => some ([], before, trim, left)
          | none => (readVerbatim rest).map fun (text, others) => (c :: text, others)
      | _, _ => (readVerbatim rest).map fun (text, others) => (c :: text, others)

def trimBefore (trim : Trimming) (text : List Char) : List Char :=
  if trim == .remove then Text.trimEnd text else text

def trimAfter (trim : Trimming) (text : List Char) : List Char :=
  if trim == .remove then Text.trimStart text else text

/-! ## Numbers and strings -/

/-- What has been read of a number. -/
inductive NumberState where
  | whole
  | based (radix : Nat)
  | decimals
  | exponent
  | exponentDigits
deriving Repr, DecidableEq

def NumberState.next? (state : NumberState) (c : Char) : Option NumberState :=
  match state, c with
  | .whole, '.' => some .decimals
  | .whole, 'e' | .whole, 'E' | .decimals, 'e' | .decimals, 'E' => some .exponent
  | .exponent, '+' | .exponent, '-' => some .exponentDigits
  | .exponent, c =>
      if c.isDigit then some .exponentDigits else if c == '_' then some .exponent else none
  | .based 16, c =>
      if (Json.hexValue? c).isSome || c == '_' then some state else none
  | _, c => if c.isDigit || c == '_' then some state else none

/-- The characters of a number, how it ended, and the rest. -/
def takeNumber (state : NumberState) : List Char → List Char × NumberState × List Char
  | [] => ([], state, [])
  | c :: rest =>
      match state.next? c with
      | none => ([], state, c :: rest)
      | some next =>
          let (digits, last, left) := takeNumber next rest
          (if c == '_' then digits else c :: digits, last, left)

def digitsValue? (radix : Nat) (digits : List Char) : Option Nat :=
  if digits.isEmpty then none
  else digits.foldlM (fun n c => do
    let d ← Json.hexValue? c
    if d < radix then some (n * radix + d) else none) 0

/-- A decimal with digits, a point and an exponent, at least one digit before the exponent. -/
def decimal? (text : List Char) : Option Float :=
  let isExponent (c : Char) : Bool := c == 'e' || c == 'E'
  let main := text.takeWhile (fun c => !isExponent c)
  let tail := text.drop main.length
  let whole := main.takeWhile Char.isDigit
  let places := (main.drop whole.length).drop 1
  let pointed := match main.drop whole.length with
    | [] => true
    | '.' :: rest => rest.all Char.isDigit
    | _ => false
  let digits := whole ++ places
  if !pointed || digits.isEmpty then none
  else
    let exponent? : Option Int :=
      match tail with
      | [] => some 0
      | _ :: '-' :: rest => (digitsValue? 10 rest).map fun n => -(n : Int)
      | _ :: '+' :: rest => (digitsValue? 10 rest).map fun n => (n : Int)
      | _ :: rest => (digitsValue? 10 rest).map fun n => (n : Int)
    match exponent?, digitsValue? 10 digits with
    | some e, some n => some (Decimal.scaled n (e - places.length))
    | _, _ => none

def malformed (detail : String) : Token := .broken ⟨.malformed, detail⟩

/-- Reads a number from its first digit on. -/
def readNumber (text : List Char) : Token × List Char :=
  let (state, text) : NumberState × List Char :=
    match text with
    | '0' :: 'b' :: rest | '0' :: 'B' :: rest => (.based 2, rest)
    | '0' :: 'o' :: rest | '0' :: 'O' :: rest => (.based 8, rest)
    | '0' :: 'x' :: rest | '0' :: 'X' :: rest => (.based 16, rest)
    | _ => (.whole, text)
  let (digits, state, rest) := takeNumber state text
  let whole (radix : Nat) : Token :=
    match digitsValue? radix digits with
    | some n => if n < Bits.count 128 then .int n else malformed "invalid integer (too large)"
    | none => malformed "invalid integer"
  let consumed := text.take (text.length - rest.length)
  if consumed.getLast? == some '_' then (malformed "'_' may not occur at end of number", rest)
  else match state with
  | .whole => (whole 10, rest)
  | .based radix => (whole radix, rest)
  | _ =>
      match decimal? digits with
      | some x => (.float x, rest)
      | none => (malformed "invalid float", rest)

/-- The characters of a string up to its closing quote, with their escapes, and the rest. -/
def splitString (quote : Char) (escaped : Bool) : List Char → Option (List Char × List Char)
  | [] => none
  | c :: rest =>
      if !escaped && c == quote then some ([], rest)
      else
        (splitString quote (!escaped && c == '\\') rest).map fun (text, left) => (c :: text, left)

/-- The number of so many hexadecimal digits at the front of a text; a plus sign may stand for the
first. -/
def hexValue? (count : Nat) (text : List Char) : Option Nat :=
  let digits := text.take count
  if digits.length < count then none
  else
    match digits with
    | '+' :: rest => digitsValue? 16 rest
    | _ => digitsValue? 16 digits

def isSurrogate (unit : Nat) : Bool := 0xD800 ≤ unit && unit ≤ 0xDFFF

/-- The character of two surrogates. -/
def joinSurrogates? (high low : Nat) : Option Char :=
  if high < 0xDC00 && 0xDC00 ≤ low then
    some (Char.ofNat (0x10000 + (high - 0xD800) * 0x400 + (low - 0xDC00)))
  else none

/-- What is escaped by a single character. -/
def shortEscape? : Char → Option Char
  | '"' => some '"'
  | '\\' => some '\\'
  | '/' => some '/'
  | '\'' => some '\''
  | 'b' => some '\x08'
  | 'f' => some '\x0c'
  | 'n' => some '\n'
  | 'r' => some '\r'
  | 't' => some '\t'
  | _ => none

/-- The character of an octal escape at the front of a text, and the text after it. -/
def octal? (text : List Char) : Option (Char × List Char) := do
  let digits := (text.take 3).takeWhile fun c => '0' ≤ c && c ≤ '7'
  let value ← digitsValue? 8 digits
  if value < 256 then some (Char.ofNat value, text.drop digits.length) else none

/-- Resolves the escapes of a string. A high surrogate waits for the low one right after it. -/
def unescape (fuel : Nat) (pending : Option Nat) (text : List Char) : Option (List Char) :=
  match fuel, text with
  | 0, _ => none
  | _, [] => if pending.isNone then some [] else none
  | fuel + 1, '\\' :: 'u' :: rest => do
      let unit ← hexValue? 4 rest
      let left := rest.drop 4
      match pending, isSurrogate unit with
      | none, false => (unescape fuel none left).map (Char.ofNat unit :: ·)
      | none, true => unescape fuel (some unit) left
      | some _, false => none
      | some high, true =>
          let c ← joinSurrogates? high unit
          (unescape fuel none left).map (c :: ·)
  | fuel + 1, '\\' :: 'x' :: rest => do
      let value ← hexValue? 2 rest
      if pending.isSome then none
      else (unescape fuel none (rest.drop 2)).map (Char.ofNat value :: ·)
  | fuel + 1, '\\' :: c :: rest =>
      match pending, shortEscape? c, octal? (c :: rest) with
      | none, some d, _ => (unescape fuel none rest).map (d :: ·)
      | none, none, some (d, left) => (unescape fuel none left).map (d :: ·)
      | _, _, _ => none
  | fuel + 1, c :: rest =>
      if c == '\\' || pending.isSome then none
      else (unescape fuel none rest).map (c :: ·)

/-- Reads a string after its opening quote. -/
def readString (quote : Char) (text : List Char) : Token × List Char :=
  match splitString quote false text with
  | none => (malformed "unexpected end of string", [])
  | some (body, rest) =>
      match unescape (body.length + 1) none body with
      | some chars => (.string (String.ofList chars), rest)
      | none => (.broken ⟨.badEscape, ""⟩, rest)

/-! ## Tokens -/

/-- The sign at the front of a text, and the text after it. -/
def sign? : List Char → Option (Sign × List Char)
  | '/' :: '/' :: rest => some (.divideWhole, rest)
  | '*' :: '*' :: rest => some (.power, rest)
  | '=' :: '=' :: rest => some (.equal, rest)
  | '!' :: '=' :: rest => some (.notEqual, rest)
  | '>' :: '=' :: rest => some (.greaterEqual, rest)
  | '<' :: '=' :: rest => some (.lessEqual, rest)
  | '+' :: rest => some (.plus, rest)
  | '-' :: rest => some (.minus, rest)
  | '*' :: rest => some (.times, rest)
  | '/' :: rest => some (.divide, rest)
  | '%' :: rest => some (.modulo, rest)
  | '.' :: rest => some (.dot, rest)
  | ',' :: rest => some (.comma, rest)
  | ':' :: rest => some (.colon, rest)
  | '~' :: rest => some (.tilde, rest)
  | '|' :: rest => some (.pipe, rest)
  | '=' :: rest => some (.assign, rest)
  | '>' :: rest => some (.greater, rest)
  | '<' :: rest => some (.less, rest)
  | '(' :: rest => some (.openParen, rest)
  | ')' :: rest => some (.closeParen, rest)
  | '[' :: rest => some (.openBracket, rest)
  | ']' :: rest => some (.closeBracket, rest)
  | '\x7b' :: rest => some (.openBrace, rest)
  | '\x7d' :: rest => some (.closeBrace, rest)
  | _ => none

/-- How many brackets a sign leaves open. -/
def balanceOf : Sign → Int
  | .openParen | .openBracket | .openBrace => 1
  | .closeParen | .closeBracket | .closeBrace => -1
  | _ => 0

/-- The end of a value or block at the front of a text: whether it trims, and the text after it. -/
def closing? (mode : Mode) (text : List Char) : Option (Bool × List Char) :=
  let (trim, rest) := trimming text
  match mode, rest with
  | .value, '\x7d' :: '\x7d' :: left => some (trim == .remove, left)
  | .block, '%' :: '\x7d' :: left => some (trim == .remove, left)
  | _, _ => none

/-- Reads one token between the marks, from a text that starts with no blank. -/
def readInner (text : List Char) : Token × Int × List Char :=
  match text with
  | '\'' :: rest => let (token, left) := readString '\'' rest; (token, 0, left)
  | '"' :: rest => let (token, left) := readString '"' rest; (token, 0, left)
  | _ =>
      match sign? text with
      | some (s, rest) => (.sign s, balanceOf s, rest)
      | none =>
          match text with
          | [] => (malformed "unexpected end of input", 0, [])
          | c :: _ =>
              if c.isDigit then
                let (token, left) := readNumber text
                (token, 0, left)
              else if isLetter c then
                (.word (String.ofList (text.takeWhile isWordChar)), 0, text.dropWhile isWordChar)
              else (malformed "unexpected character", 0, [])

def isBroken : Token → Bool
  | .broken _ => true
  | _ => false

/-- The text as a token, unless it is empty. -/
def dataTokens (text : List Char) : List Token :=
  if text.isEmpty then [] else [.data (String.ofList text)]

/-- The tokens of a text from a mode on; `balance` counts the open brackets and `trim` tells whether
blanks at the front of text are dropped. -/
def scanFrom : Nat → Mode → Int → Bool → List Char → List Token
  | 0, _, _, _, _ => []
  | fuel + 1, .data, balance, trim, text =>
      if text.isEmpty then []
      else
        let text := if trim then Text.trimStart text else text
        match splitOpening text with
        | (lead, none) => dataTokens lead
        | (lead, some (opening, after)) =>
            let (before, after) := trimming after
            dataTokens (trimBefore before lead) ++
              match opening with
              | .value => .openValue :: scanFrom fuel .value balance false after
              | .comment =>
                  match Text.find? "#\x7d".toList after with
                  | none => [malformed "unexpected end of comment"]
                  | some i =>
                      let trims := (after.take i).getLast? == some '-'
                      scanFrom fuel .data balance trims (after.drop (i + 2))
              | .block =>
                  match afterBlock? "raw" after with
                  | none => .openBlock :: scanFrom fuel .block balance false after
                  | some (trim, rest) =>
                      match readVerbatim rest with
                      | none => [malformed "unexpected end of raw block"]
                      | some (body, last, next, left) =>
                          .data (String.ofList (trimBefore last (trimAfter trim body))) ::
                            scanFrom fuel .data balance (next == .remove) left
  | fuel + 1, mode, balance, _, text =>
      match text.dropWhile isSpace with
      | [] => []
      | c :: rest =>
          let text := c :: rest
          match (if balance == 0 then closing? mode text else none) with
          | some (trims, left) =>
              (if mode == .value then .closeValue else .closeBlock) ::
                scanFrom fuel .data balance trims left
          | none =>
              let (token, change, left) := readInner text
              if token.isBroken then [token]
              else token :: scanFrom fuel mode (balance + change) false left

/-- The tokens of a template. -/
def scan (text : List Char) : List Token := scanFrom (2 * text.length + 2) .data 0 false text

end Token

end Groundwork.Template
