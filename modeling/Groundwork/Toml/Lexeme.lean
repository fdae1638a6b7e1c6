import Groundwork.Datum
import Groundwork.Decimal.Fraction

/-!
The pieces of TOML text: strings in their four forms, numbers, and dates with times.
-/

namespace Groundwork.Toml

/-- A value read, and the rest of the text. -/
abbrev Parsed (α : Type) := α × List Char

/-- Blanks within a line. -/
def isBlank (c : Char) : Bool := c == ' ' || c == '\t'

def skipBlanks (text : List Char) : List Char := text.dropWhile isBlank

/-- Characters that no string or comment may hold as they stand. -/
def isControl (c : Char) : Bool := (c.toNat < 0x20 && c != '\t') || c.toNat == 0x7F

/-- The text after a line end, if it starts with one. -/
def afterLineEnd? : List Char → Option (List Char)
  | '\n' :: rest => some rest
  | '\r' :: '\n' :: rest => some rest
  | _ => none

def startsWithLineEnd (text : List Char) : Bool := (afterLineEnd? text).isSome

/-! ## Strings -/

def hexValue? (c : Char) : Option Nat :=
  if '0' ≤ c && c ≤ '9' then some (c.toNat - '0'.toNat)
  else if 'a' ≤ c && c ≤ 'f' then some (c.toNat - 'a'.toNat + 10)
  else if 'A' ≤ c && c ≤ 'F' then some (c.toNat - 'A'.toNat + 10)
  else none

/-- The character that `count` hexadecimal digits spell. -/
def hexEscape (count : Nat) (text : List Char) : Except String Char :=
  match (text.take count).mapM hexValue? with
  | some digits =>
      let n := digits.foldl (fun n d => 16 * n + d) 0
      if digits.length != count then throw "unclosed escape"
      else if n < 0xD800 || (0xDFFF < n && n ≤ 0x10FFFF) then return Char.ofNat n
      else throw "value is out of range"
  | none => throw "invalid hex escape"

/-- The character of an escape, given what follows the backslash, and the length of that. -/
def readEscape (text : List Char) : Except String (Char × Nat) :=
  match text with
  | [] => throw "unclosed string"
  | c :: rest =>
      match c with
      | 'b' => return ('\x08', 1)
      | 't' => return ('\t', 1)
      | 'n' => return ('\n', 1)
      | 'f' => return ('\x0c', 1)
      | 'r' => return ('\r', 1)
      | 'e' => return ('\x1b', 1)
      | '"' => return ('"', 1)
      | '\\' => return ('\\', 1)
      | 'x' => return (← hexEscape 2 rest, 3)
      | 'u' => return (← hexEscape 4 rest, 5)
      | 'U' => return (← hexEscape 8 rest, 9)
      | _ => throw "invalid escape"

/-- Reads a string on one line up to its closing quote. -/
def readBasicFrom (skip : Nat) : List Char → Except String (Parsed (List Char))
  | [] => throw "unclosed string"
  | c :: rest =>
      match skip with
      | skip + 1 => readBasicFrom skip rest
      | 0 =>
          if c == '"' then return ([], rest)
          else if c == '\\' then do
            let (d, length) ← readEscape rest
            let (text, rest) ← readBasicFrom length rest
            return (d :: text, rest)
          else if isControl c then throw "invalid character in string"
          else do
            let (text, rest) ← readBasicFrom 0 rest
            return (c :: text, rest)

/-- Reads a string on one line that knows no escapes. -/
def readLiteral : List Char → Except String (Parsed (List Char))
  | [] => throw "unclosed string"
  | c :: rest =>
      if c == '\'' then return ([], rest)
      else if isControl c then throw "invalid character in string"
      else do
        let (text, rest) ← readLiteral rest
        return (c :: text, rest)

/-- The length of blanks and line ends at the start of a text. -/
def foldedLength (text : List Char) : Nat :=
  (text.takeWhile (fun c => isBlank c || c == '\n' || c == '\r')).length

/-- Whether only blanks stand before the end of the line. -/
def endsLine (text : List Char) : Bool := startsWithLineEnd (skipBlanks text)

/-- Reads a string over several lines. Up to two quotes may stand before the closing three; with
`escapes` a backslash escapes, and at the end of a line joins it to the next text. -/
def readLongFrom (quote : Char) (escapes : Bool) (skip : Nat)
    : List Char → Except String (Parsed (List Char))
  | [] => throw "unclosed string"
  | c :: rest =>
      match skip with
      | skip + 1 => readLongFrom quote escapes skip rest
      | 0 =>
          let run := ((c :: rest).takeWhile (· == quote)).length
          if 3 ≤ run then
            let extra := min (run - 3) 2
            return (List.replicate extra quote, (c :: rest).drop (extra + 3))
          else if escapes && c == '\\' then
            if endsLine rest then readLongFrom quote escapes (foldedLength rest) rest
            else do
              let (d, length) ← readEscape rest
              let (text, rest) ← readLongFrom quote escapes length rest
              return (d :: text, rest)
          else if c == '\r' && rest.head? != some '\n' then throw "carriage return without newline"
          else if isControl c && c != '\n' && c != '\r' then throw "invalid character in string"
          else do
            let (text, rest) ← readLongFrom quote escapes 0 rest
            return (c :: text, rest)

/-- Reads a string over several lines after its opening quotes; a line end right there is no part
of it. -/
def readLong (quote : Char) (escapes : Bool) (text : List Char)
    : Except String (Parsed (List Char)) :=
  readLongFrom quote escapes 0 ((afterLineEnd? text).getD text)

/-! ## Numbers -/

/-- The digits of a number in a base; single underscores may stand between digits. -/
def readDigits (base : Nat) (text : List Char) : Option (List Nat) :=
  let rec go (afterDigit : Bool) : List Char → Option (List Nat)
    | [] => if afterDigit then some [] else none
    | c :: rest =>
        if c == '_' then if afterDigit && !rest.isEmpty then go false rest else none
        else do
          let d ← hexValue? c
          if d < base then return d :: (← go true rest) else none
  go false text

def valueOf (base : Nat) (digits : List Nat) : Nat := digits.foldl (fun n d => base * n + d) 0

/-- The sign of a number and what follows it. -/
def splitSign : List Char → Bool × List Char
  | '-' :: rest => (true, rest)
  | '+' :: rest => (false, rest)
  | text => (false, text)

/-- Digits of a decimal: no zero leads unless it stands alone. -/
def decimalDigits (text : List Char) : Option (List Nat) := do
  let digits ← readDigits 10 text
  match digits with
  | 0 :: _ :: _ => none
  | _ => some digits

def wholeNumber? (text : List Char) : Option Int :=
  match text with
  | '0' :: 'x' :: rest => (readDigits 16 rest).map (fun digits => valueOf 16 digits)
  | '0' :: 'o' :: rest => (readDigits 8 rest).map (fun digits => valueOf 8 digits)
  | '0' :: 'b' :: rest => (readDigits 2 rest).map (fun digits => valueOf 2 digits)
  | _ =>
      let (negative, rest) := splitSign text
      (decimalDigits rest).map fun digits =>
        if negative then -(valueOf 10 digits : Int) else valueOf 10 digits

/-- A decimal with a point, an exponent or both. -/
def fraction? (text : List Char) : Option Float := do
  let (negative, rest) := splitSign text
  if rest == "inf".toList then return if negative then -(1.0 / 0.0) else 1.0 / 0.0
  if rest == "nan".toList then return 0.0 / 0.0
  let isExponent (c : Char) : Bool := c == 'e' || c == 'E'
  let main := rest.takeWhile (fun c => !isExponent c)
  let exponentText := (rest.dropWhile (fun c => !isExponent c)).drop 1
  let hasExponent := main.length < rest.length
  let whole := main.takeWhile (· != '.')
  let hasPoint := whole.length < main.length
  if !hasExponent && !hasPoint then none
  let wholeDigits ← decimalDigits whole
  let places ← if hasPoint then readDigits 10 (main.drop (whole.length + 1)) else some []
  let exponent : Int ←
    if hasExponent then
      let (negative, digits) := splitSign exponentText
      (readDigits 10 digits).map fun digits =>
        if negative then -(valueOf 10 digits : Int) else valueOf 10 digits
    else some 0
  let digits := wholeDigits ++ places
  let magnitude := Decimal.scaled (valueOf 10 digits) (exponent - places.length)
  if magnitude.isInf then none
  else return if negative then -magnitude else magnitude

/-! ## Dates and times -/

/-- Reads exactly `count` digits. -/
def readFixed (count : Nat) (text : List Char) : Option (Parsed Nat) :=
  let digits := text.take count
  if digits.length == count && digits.all Char.isDigit then
    some (digits.foldl (fun n c => 10 * n + (c.toNat - '0'.toNat)) 0, text.drop count)
  else none

def expectChar (c : Char) : List Char → Option (List Char)
  | d :: rest => if d == c then some rest else none
  | [] => none

def isLeapYear (year : Nat) : Bool := (year % 4 == 0 && year % 100 != 0) || year % 400 == 0

def daysOf (year month : Nat) : Nat :=
  if month == 2 then if isLeapYear year then 29 else 28
  else if [4, 6, 9, 11].contains month then 30
  else 31

/-- A number in at least `width` digits. -/
def padded (width n : Nat) : String :=
  let text := Nat.repr n
  String.ofList (List.replicate (width - text.length) '0') ++ text

/-- A date, in the form in which it is written. -/
def date? (text : List Char) : Option (Parsed String) := do
  let (year, rest) ← readFixed 4 text
  let rest ← expectChar '-' rest
  let (month, rest) ← readFixed 2 rest
  let rest ← expectChar '-' rest
  let (day, rest) ← readFixed 2 rest
  if month == 0 || 12 < month || day == 0 || daysOf year month < day then none
  return (s!"{padded 4 year}-{padded 2 month}-{padded 2 day}", rest)

/-- The decimals of a second: nine places count, and zeros at the end are left out, with the point
if nothing else is left. -/
def secondFraction (digits : List Char) : String :=
  let kept := ((digits.take 9).reverse.dropWhile (· == '0')).reverse
  if kept.isEmpty then "" else "." ++ String.ofList kept

/-- A time of day; seconds that are missing are zero. -/
def time? (text : List Char) : Option (Parsed String) := do
  let (hour, rest) ← readFixed 2 text
  let rest ← expectChar ':' rest
  let (minute, rest) ← readFixed 2 rest
  if 23 < hour || 59 < minute then none
  let start := s!"{padded 2 hour}:{padded 2 minute}"
  match rest with
  | ':' :: rest => do
      let (second, rest) ← readFixed 2 rest
      if 60 < second then none
      let start := s!"{start}:{padded 2 second}"
      match rest with
      | '.' :: rest =>
          let digits := rest.takeWhile Char.isDigit
          if digits.isEmpty then none
          else return (start ++ secondFraction digits, rest.drop digits.length)
      | _ => return (start, rest)
  | _ => return (start ++ ":00", rest)

/-- The distance of a time from the reference time. -/
def offset? (text : List Char) : Option String := do
  match text with
  | ['Z'] => return "Z"
  | ['z'] => return "Z"
  | sign :: rest =>
      if sign != '+' && sign != '-' then none
      let (hour, rest) ← readFixed 2 rest
      let rest ← expectChar ':' rest
      let (minute, rest) ← readFixed 2 rest
      if !rest.isEmpty || 23 < hour || 59 < minute then none
      let sign := if sign == '-' && (hour, minute) != (0, 0) then "-" else "+"
      return s!"{sign}{padded 2 hour}:{padded 2 minute}"
  | [] => none

/-- A date, a time, or both, with an offset only if both. -/
def moment? (text : List Char) : Option String := do
  match date? text with
  | none =>
      let (time, rest) ← time? text
      if rest.isEmpty then return time else none
  | some (date, []) => return date
  | some (date, c :: rest) =>
      if c != 'T' && c != 't' && c != ' ' then none
      let (time, rest) ← time? rest
      if rest.isEmpty then return s!"{date}T{time}"
      else return s!"{date}T{time}{← offset? rest}"

/-- The value of a word that is not in quotes. -/
def bareValue? (text : List Char) : Option Datum :=
  if text == "true".toList then some (.bool true)
  else if text == "false".toList then some (.bool false)
  else
    match moment? text with
    | some moment => some (.moment moment)
    | none =>
        match wholeNumber? text with
        | some n => some (.int n)
        | none => (fraction? text).map .float

/-- What ends a value that is not in quotes. -/
def endsBareValue (c : Char) : Bool :=
  c == ' ' || c == '\t' || c == '\n' || c == '\r' || c == ',' || c == ']' || c == '\x7d' ||
    c == '#'

/-- Reads a value that is not in quotes. A blank may stand between a date and a time. -/
def readBareValue (text : List Char) : Except String (Parsed Datum) :=
  let word := text.takeWhile (fun c => !endsBareValue c)
  let rest := text.drop word.length
  let timed :=
    match date? word, rest with
    | some (_, []), ' ' :: after =>
        (readFixed 2 after).isSome && (after.drop 2).head? == some ':'
    | _, _ => false
  let full :=
    if timed then word ++ ' ' :: (rest.drop 1).takeWhile (fun c => !endsBareValue c) else word
  match bareValue? full with
  | some value => .ok (value, text.drop full.length)
  | none => .error "invalid value"

end Groundwork.Toml
