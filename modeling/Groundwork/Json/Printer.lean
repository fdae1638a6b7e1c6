import Groundwork.Datum

/-!
Writing JSON documents on one line. Quotes, backslashes and control characters are escaped, and
nothing else is.
-/

namespace Groundwork.Json

def hexDigit (n : Nat) : Char :=
  if n < 10 then Char.ofNat ('0'.toNat + n) else Char.ofNat ('a'.toNat + (n - 10))

/-- A character within a string. -/
def escapeChar (c : Char) : List Char :=
  if c == '"' then ['\\', '"']
  else if c == '\\' then ['\\', '\\']
  else if c == '\x08' then ['\\', 'b']
  else if c == '\x0c' then ['\\', 'f']
  else if c == '\n' then ['\\', 'n']
  else if c == '\r' then ['\\', 'r']
  else if c == '\t' then ['\\', 't']
  else if c.toNat < 0x20 then
    ['\\', 'u', '0', '0', hexDigit (c.toNat / 16), hexDigit (c.toNat % 16)]
  else [c]

/-- The characters of a text within a string. -/
def escape (text : List Char) : List Char := text.flatMap escapeChar

/-- A text as a string with its quotes. -/
def writeString (text : String) : String :=
  String.ofList ('"' :: escape text.toList ++ ['"'])

/-- Numbers that JSON cannot spell are written as null. -/
def numberWords : Decimal.NumberWords := ⟨"null", "null"⟩

def writeFloat (x : Float) : String :=
  if x.isFinite then Decimal.positionalWithPoint numberWords x else "null"

mutual

/-- A value as one line of JSON. -/
def write : Datum → String
  | .null => "null"
  | .bool b => if b then "true" else "false"
  | .int n => toString n
  | .float x => writeFloat x
  | .text s => writeString s
  | .list items => "[" ++ ",".intercalate (writeItems items) ++ "]"
  | .object fields => "\x7b" ++ ",".intercalate (writeFields fields) ++ "\x7d"
  | .moment written =>
      "\x7b" ++ writeString Datum.momentField ++ ":" ++ writeString written ++ "\x7d"

def writeItems : List Datum → List String
  | [] => []
  | item :: items => write item :: writeItems items

def writeFields : List (String × Datum) → List String
  | [] => []
  | (key, value) :: fields => (writeString key ++ ":" ++ write value) :: writeFields fields

end

end Groundwork.Json
