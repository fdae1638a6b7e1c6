import Groundwork.Json.Number

/-!
Reading JSON documents. A document is one value with blanks around it; of fields with one name the
last counts.
-/

namespace Groundwork.Json

/-- How deep lists and objects may lie within one another. -/
def depthLimit : Nat := 127

mutual

/-- Reads a value; `fuel` bounds the number of values and `depth` how many may enclose others. -/
def readValue (fuel depth : Nat) (text : List Char) : Except Fault (Parsed Datum) :=
  match fuel with
  | 0 => malformed "recursion limit exceeded"
  | fuel + 1 =>
      match skipBlanks text with
      | [] => ended "EOF while parsing a value"
      | '"' :: rest => do
          let (s, rest) ← readString rest
          .ok (.text s, rest)
      | 'n' :: rest => do
          let rest ← readWord "ull".toList rest
          .ok (.null, rest)
      | 't' :: rest => do
          let rest ← readWord "rue".toList rest
          .ok (.bool true, rest)
      | 'f' :: rest => do
          let rest ← readWord "alse".toList rest
          .ok (.bool false, rest)
      | '[' :: rest =>
          match depth with
          | 0 => malformed "recursion limit exceeded"
          | depth + 1 => do
              let (items, rest) ← readItems fuel depth true rest
              .ok (.list items, rest)
      | '{' :: rest =>
          match depth with
          | 0 => malformed "recursion limit exceeded"
          | depth + 1 => do
              let (fields, rest) ← readFields fuel depth true rest
              .ok (.object (Dictionary.ofList fields), rest)
      | c :: rest =>
          if c == '-' || isDigit c then readNumber (c :: rest) else malformed "expected value"

/-- Reads the items of a list up to its end, the first of them or one that follows others. -/
def readItems (fuel depth : Nat) (first : Bool) (text : List Char)
    : Except Fault (Parsed (List Datum)) :=
  match fuel with
  | 0 => malformed "recursion limit exceeded"
  | fuel + 1 =>
      match skipBlanks text with
      | [] => ended "EOF while parsing a list"
      | ']' :: rest => .ok ([], rest)
      | c :: rest => do
          let text ←
            if first then .ok (c :: rest)
            else if c != ',' then malformed "expected list comma or end"
            else
              match skipBlanks rest with
              | ']' :: _ => malformed "trailing comma"
              | rest => .ok rest
          let (item, rest) ← readValue fuel depth text
          let (items, rest) ← readItems fuel depth false rest
          .ok (item :: items, rest)

/-- Reads the fields of an object up to its end, the first of them or one that follows others. -/
def readFields (fuel depth : Nat) (first : Bool) (text : List Char)
    : Except Fault (Parsed (List (String × Datum))) :=
  match fuel with
  | 0 => malformed "recursion limit exceeded"
  | fuel + 1 =>
      match skipBlanks text with
      | [] => ended "EOF while parsing an object"
      | '\x7d' :: rest => .ok ([], rest)
      | c :: rest => do
          let text ←
            if first then .ok (c :: rest)
            else if c != ',' then malformed "expected object comma or end"
            else
              match skipBlanks rest with
              | [] => ended "EOF while parsing a value"
              | '\x7d' :: _ => malformed "trailing comma"
              | rest => .ok rest
          match text with
          | '"' :: rest => do
              let (key, rest) ← readString rest
              match skipBlanks rest with
              | [] => ended "EOF while parsing an object"
              | ':' :: rest => do
                  let (value, rest) ← readValue fuel depth rest
                  let (fields, rest) ← readFields fuel depth false rest
                  .ok ((key, value) :: fields, rest)
              | _ => malformed "expected colon"
          | _ => malformed "key must be a string"

end

/-- Reads a document. -/
def parse (text : String) : Except Fault Datum := do
  let chars := text.toList
  let (value, rest) ← readValue (2 * chars.length + 1) depthLimit chars
  match skipBlanks rest with
  | [] => .ok value
  | _ => malformed "trailing characters"

end Groundwork.Json
