import Groundwork.Text.Lines

/-!
The pieces of JSON text: blanks, strings, numbers and words. A reader returns what it read together
with the rest of the text, or the fault it met first.
-/

namespace Groundwork.Json

/-- What is wrong with a text: it ends too early, it is not JSON, or it is JSON of another shape
than was asked for. -/
inductive FaultKind where
  | ended
  | malformed
  | mismatch
deriving Repr, DecidableEq

structure Fault where
  kind : FaultKind
  detail : String
deriving Repr, DecidableEq

/-- A value read, and the rest of the text. -/
abbrev Parsed (α : Type) := α × List Char

def ended {α : Type} (detail : String) : Except Fault α := .error ⟨.ended, detail⟩

def malformed {α : Type} (detail : String) : Except Fault α := .error ⟨.malformed, detail⟩

def mismatch {α : Type} (detail : String) : Except Fault α := .error ⟨.mismatch, detail⟩

def isBlank (c : Char) : Bool := c == ' ' || c == '\n' || c == '\t' || c == '\r'

def skipBlanks (text : List Char) : List Char := text.dropWhile isBlank

/-- Reads the rest of a word such as `null` after its first letter. -/
def readWord (letters : List Char) (text : List Char) : Except Fault (List Char) :=
  match letters, text with
  | [], rest => .ok rest
  | _ :: _, [] => ended "EOF while parsing a value"
  | l :: letters, c :: rest =>
      if l == c then readWord letters rest else malformed "expected ident"

/-! ## Strings -/

def hexValue? (c : Char) : Option Nat :=
  if '0' ≤ c && c ≤ '9' then some (c.toNat - '0'.toNat)
  else if 'a' ≤ c && c ≤ 'f' then some (c.toNat - 'a'.toNat + 10)
  else if 'A' ≤ c && c ≤ 'F' then some (c.toNat - 'A'.toNat + 10)
  else none

/-- Four hexadecimal digits; texts of fewer than four bytes end too early. -/
def readHex (text : List Char) : Except Fault Nat :=
  match (text.take 4).mapM hexValue? with
  | some [a, b, c, d] => .ok (((a * 16 + b) * 16 + c) * 16 + d)
  | _ =>
      if Text.byteLength (text.take 4) < 4 then ended "EOF while parsing a string"
      else malformed "invalid escape"

def isHighSurrogate (n : Nat) : Bool := 0xD800 ≤ n && n ≤ 0xDBFF

def isLowSurrogate (n : Nat) : Bool := 0xDC00 ≤ n && n ≤ 0xDFFF

/-- The character of an escape, given what follows the backslash, and the length of that. -/
def readEscape (text : List Char) : Except Fault (Char × Nat) :=
  match text with
  | [] => ended "EOF while parsing a string"
  | 'u' :: rest => do
      let first ← readHex rest
      if isLowSurrogate first then malformed "lone leading surrogate in hex escape"
      else if isHighSurrogate first then
        match rest.drop 4 with
        | [] => ended "EOF while parsing a string"
        | '\\' :: [] => ended "EOF while parsing a string"
        | '\\' :: 'u' :: rest => do
            let second ← readHex rest
            if isLowSurrogate second then
              .ok (Char.ofNat ((first - 0xD800) * 0x400 + (second - 0xDC00) + 0x10000), 11)
            else malformed "lone leading surrogate in hex escape"
        | _ => malformed "unexpected end of hex escape"
      else .ok (Char.ofNat first, 5)
  | c :: _ =>
      match c with
      | '"' => .ok ('"', 1)
      | '\\' => .ok ('\\', 1)
      | '/' => .ok ('/', 1)
      | 'b' => .ok ('\x08', 1)
      | 'f' => .ok ('\x0c', 1)
      | 'n' => .ok ('\n', 1)
      | 'r' => .ok ('\r', 1)
      | 't' => .ok ('\t', 1)
      | _ => malformed "invalid escape"

/-- Reads a string up to its closing quote; `skip` characters belong to an escape read before. -/
def readStringFrom (skip : Nat) : List Char → Except Fault (Parsed (List Char))
  | [] => ended "EOF while parsing a string"
  | c :: rest =>
      match skip with
      | skip + 1 => readStringFrom skip rest
      | 0 =>
          if c == '"' then .ok ([], rest)
          else if c == '\\' then do
            let (d, length) ← readEscape rest
            let (text, rest) ← readStringFrom length rest
            .ok (d :: text, rest)
          else if c.toNat < 0x20 then malformed "control character found while parsing a string"
          else do
            let (text, rest) ← readStringFrom 0 rest
            .ok (c :: text, rest)

/-- Reads a string after its opening quote. -/
def readString (text : List Char) : Except Fault (Parsed String) := do
  let (text, rest) ← readStringFrom 0 text
  .ok (String.ofList text, rest)

end Groundwork.Json
