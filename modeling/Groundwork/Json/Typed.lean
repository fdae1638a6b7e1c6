import Groundwork.Json.Number

/-!
Reading JSON documents of a known shape. The first fault counts, whether the text is broken there or
has another shape; values that are not asked for are passed over.
-/

namespace Groundwork.Json

/-- The fault of a value that is not of the shape asked for. Lists and objects are not looked into,
other values must be sound themselves. -/
def refuse {α : Type} (text : List Char) : Except Fault α :=
  let shape : Except Fault α := mismatch "invalid type"
  match skipBlanks text with
  | [] => ended "EOF while parsing a value"
  | '"' :: rest => do
      let _ ← readString rest
      shape
  | 'n' :: rest => do
      let _ ← readWord "ull".toList rest
      shape
  | 't' :: rest => do
      let _ ← readWord "rue".toList rest
      shape
  | 'f' :: rest => do
      let _ ← readWord "alse".toList rest
      shape
  | '[' :: _ => shape
  | '\x7b' :: _ => shape
  | c :: rest =>
      if c == '-' || isDigit c then do
        let _ ← readNumber (c :: rest)
        shape
      else malformed "expected value"

/-- Reads a string. -/
def readTypedString (text : List Char) : Except Fault (Parsed String) :=
  match skipBlanks text with
  | '"' :: rest => readString rest
  | other => refuse other

/-- The text where the next item of a list begins, or the text after the list. -/
def nextItem (first : Bool) (text : List Char) : Except Fault (Bool × List Char) :=
  match skipBlanks text with
  | [] => ended "EOF while parsing a list"
  | ']' :: rest => .ok (false, rest)
  | c :: rest =>
      if first then .ok (true, c :: rest)
      else if c != ',' then malformed "expected list comma or end"
      else
        match skipBlanks rest with
        | [] => ended "EOF while parsing a value"
        | ']' :: _ => malformed "trailing comma"
        | rest => .ok (true, rest)

/-- Reads the strings of a list after its opening bracket; `fuel` bounds their number. -/
def readStrings (fuel : Nat) (first : Bool) (text : List Char)
    : Except Fault (Parsed (List String)) :=
  match fuel with
  | 0 => ended "EOF while parsing a list"
  | fuel + 1 => do
      let (more, text) ← nextItem first text
      if more then
        let (item, rest) ← readTypedString text
        let (items, rest) ← readStrings fuel false rest
        .ok (item :: items, rest)
      else .ok ([], text)

/-- Reads a list of strings. -/
def readTypedStrings (text : List Char) : Except Fault (Parsed (List String)) :=
  match skipBlanks text with
  | '[' :: rest => readStrings (rest.length + 1) true rest
  | other => refuse other

/-- Takes the end of a list that has all its items. -/
def endList (text : List Char) : Except Fault (List Char) :=
  match skipBlanks text with
  | [] => ended "EOF while parsing a list"
  | ']' :: rest => .ok rest
  | _ => malformed "trailing characters"

/-- The text where the next key of an object begins after its quote, or the text after the
object. -/
def nextKey (first : Bool) (text : List Char) : Except Fault (Bool × List Char) :=
  match skipBlanks text with
  | [] => ended "EOF while parsing an object"
  | '\x7d' :: rest => .ok (false, rest)
  | c :: rest => do
      let text ←
        if first then .ok (c :: rest)
        else if c != ',' then malformed "expected object comma or end"
        else .ok (skipBlanks rest)
      match text with
      | [] => ended "EOF while parsing a value"
      | '"' :: rest => .ok (true, rest)
      | '\x7d' :: _ => malformed "trailing comma"
      | _ => malformed "key must be a string"

/-- Takes the colon after a key. -/
def readColon (text : List Char) : Except Fault (List Char) :=
  match skipBlanks text with
  | [] => ended "EOF while parsing an object"
  | ':' :: rest => .ok rest
  | _ => malformed "expected colon"

/-! ## Values that are passed over -/

/-- Passes over a string after its opening quote. Escapes must be sound, but need not stand for
characters. -/
def skipStringFrom (skip : Nat) : List Char → Except Fault (List Char)
  | [] => ended "EOF while parsing a string"
  | c :: rest =>
      match skip with
      | skip + 1 => skipStringFrom skip rest
      | 0 =>
          if c == '"' then .ok rest
          else if c == '\\' then
            match rest with
            | [] => ended "EOF while parsing a string"
            | 'u' :: digits => do
                let _ ← readHex digits
                skipStringFrom 5 rest
            | d :: _ =>
                if ['"', '\\', '/', 'b', 'f', 'n', 'r', 't'].contains d then skipStringFrom 1 rest
                else malformed "invalid escape"
          else if c.toNat < 0x20 then malformed "control character found while parsing a string"
          else skipStringFrom 0 rest

def skipDigits (text : List Char) : Except Fault (List Char) :=
  match text with
  | c :: _ => if isDigit c then .ok (text.dropWhile isDigit) else malformed "invalid number"
  | [] => malformed "invalid number"

def skipExponent (text : List Char) : Except Fault (List Char) :=
  match text with
  | 'e' :: '+' :: rest | 'e' :: '-' :: rest | 'E' :: '+' :: rest | 'E' :: '-' :: rest =>
      skipDigits rest
  | 'e' :: rest | 'E' :: rest => skipDigits rest
  | _ => .ok text

/-- Passes over a number after its sign. -/
def skipNumber (text : List Char) : Except Fault (List Char) := do
  let rest ←
    match text with
    | '0' :: rest =>
        match rest with
        | c :: _ => if isDigit c then malformed "invalid number" else .ok rest
        | [] => .ok rest
    | _ => skipDigits text
  match rest with
  | '.' :: rest => skipExponent (← skipDigits rest)
  | _ => skipExponent rest

/-- What encloses the values that are passed over. -/
inductive Enclosure where
  | list
  | object
deriving Repr, DecidableEq

mutual

/-- Passes over a value within some enclosures. -/
def skipValue (fuel : Nat) (within : List Enclosure) (text : List Char)
    : Except Fault (List Char) :=
  match fuel with
  | 0 => ended "EOF while parsing a value"
  | fuel + 1 =>
      match skipBlanks text with
      | [] => ended "EOF while parsing a value"
      | '"' :: rest => do skipAfter fuel true within (← skipStringFrom 0 rest)
      | 'n' :: rest => do skipAfter fuel true within (← readWord "ull".toList rest)
      | 't' :: rest => do skipAfter fuel true within (← readWord "rue".toList rest)
      | 'f' :: rest => do skipAfter fuel true within (← readWord "alse".toList rest)
      | '-' :: rest => do skipAfter fuel true within (← skipNumber rest)
      | '[' :: rest => skipAfter fuel false (.list :: within) rest
      | '\x7b' :: rest => skipAfter fuel false (.object :: within) rest
      | c :: rest =>
          if isDigit c then do skipAfter fuel true within (← skipNumber (c :: rest))
          else malformed "expected value"

/-- Goes on after a value, or after an opening bracket, up to the next value or the end. -/
def skipAfter (fuel : Nat) (comma : Bool) (within : List Enclosure) (text : List Char)
    : Except Fault (List Char) :=
  match fuel, within with
  | 0, _ => ended "EOF while parsing a value"
  | _, [] => .ok text
  | fuel + 1, enclosure :: outer => do
      match enclosure, skipBlanks text with
      | .list, [] => ended "EOF while parsing a list"
      | .object, [] => ended "EOF while parsing an object"
      | .list, ']' :: rest => skipAfter fuel true outer rest
      | .object, '\x7d' :: rest => skipAfter fuel true outer rest
      | _, c :: rest =>
          let text ←
            if !comma then .ok (c :: rest)
            else if c == ',' then .ok rest
            else malformed "expected comma or end"
          match enclosure with
          | .list => skipValue fuel within text
          | .object =>
              match skipBlanks text with
              | [] => ended "EOF while parsing an object"
              | '"' :: rest =>
                  let rest ← skipStringFrom 0 rest
                  skipValue fuel within (← readColon rest)
              | _ => malformed "key must be a string"

end

/-- Passes over one value. -/
def skipOne (text : List Char) : Except Fault (List Char) :=
  skipValue (2 * text.length + 2) [] text

/-- Refuses text after a document. -/
def endDocument (text : List Char) : Except Fault Unit :=
  match skipBlanks text with
  | [] => .ok ()
  | _ => malformed "trailing characters"

end Groundwork.Json
