import Groundwork.Bits
import Groundwork.Json.Lexeme
import Groundwork.Datum

/-!
JSON numbers. Whole numbers that fit sixty-four bits stay whole; every other number is read by
scaling its leading digits with a power of ten.
-/

namespace Groundwork.Json

def digitValue? (c : Char) : Option Nat :=
  if '0' ≤ c && c ≤ '9' then some (c.toNat - '0'.toNat) else none

def isDigit (c : Char) : Bool := '0' ≤ c && c ≤ '9'

/-- The largest whole number. -/
def wholeMax : Nat := Bits.count 64 - 1

/-- The largest power of ten that is a number. -/
def powerMax : Nat := 308

/-- Scales by a power of ten; small results are reached in several divisions. -/
def scaleDown (x : Float) : Nat → Nat → Float
  | 0, _ => x
  | fuel + 1, places =>
      if places ≤ powerMax then x / Float.ofScientific 1 false places
      else if x == 0.0 then x
      else scaleDown (x / Float.ofScientific 1 false powerMax) fuel (places - powerMax)

/-- The number `significand * 10 ^ exponent`, unless it is too large. -/
def ofParts (significand : Nat) (exponent : Int) : Except Fault Float :=
  let x := Float.ofNat significand
  if exponent < 0 then .ok (scaleDown x 12 (-exponent).toNat)
  else if exponent.toNat ≤ powerMax then
    let y := x * Float.ofScientific 1 false exponent.toNat
    if y.isInf then malformed "number out of range" else .ok y
  else if x == 0.0 then .ok x
  else malformed "number out of range"

/-- Takes digits while the number they spell with those before them is whole. -/
def takeDigits (significand : Nat) : List Char → Nat × List Char
  | [] => (significand, [])
  | c :: rest =>
      match digitValue? c with
      | none => (significand, c :: rest)
      | some d =>
          if significand * 10 + d ≤ wholeMax then takeDigits (significand * 10 + d) rest
          else (significand, c :: rest)

/-- The exponent that a run of digits spells, if it is one that matters. -/
def exponentOf (digits : List Char) : Option Nat :=
  let n := digits.foldl (fun n c => n * 10 + (digitValue? c).getD 0) 0
  if n < Bits.count 31 then some n else none

/-- Reads an exponent after its letter, and scales. -/
def readExponent (significand : Nat) (exponent : Int) (text : List Char)
    : Except Fault (Parsed Float) :=
  let (negative, text) :=
    match text with
    | '+' :: rest => (false, rest)
    | '-' :: rest => (true, rest)
    | _ => (false, text)
  match text with
  | [] => ended "EOF while parsing a value"
  | c :: _ =>
      if !isDigit c then malformed "invalid number"
      else
        let rest := text.dropWhile isDigit
        match exponentOf (text.takeWhile isDigit) with
        | some n => do
            let x ← ofParts significand (if negative then exponent - n else exponent + n)
            .ok (x, rest)
        | none =>
            if significand != 0 && !negative then malformed "number out of range"
            else .ok (0.0, rest)

/-- Scales, after an exponent if there is one. -/
def finishNumber (significand : Nat) (exponent : Int) (text : List Char)
    : Except Fault (Parsed Float) :=
  match text with
  | 'e' :: rest => readExponent significand exponent rest
  | 'E' :: rest => readExponent significand exponent rest
  | _ => do
      let x ← ofParts significand exponent
      .ok (x, text)

/-- Reads the digits after a point. Those that no longer fit the significand count for nothing. -/
def readDecimals (significand : Nat) (exponent : Int) (text : List Char)
    : Except Fault (Parsed Float) :=
  match text with
  | [] => ended "EOF while parsing a value"
  | c :: _ =>
      if !isDigit c then malformed "invalid number"
      else
        let (extended, rest) := takeDigits significand text
        let places := text.length - rest.length
        finishNumber extended (exponent - places) (rest.dropWhile isDigit)

/-- Reads what follows the first digits of a number without its sign. -/
def readAfterDigits (significand : Nat) (text : List Char)
    : Except Fault (Parsed (Option Float)) := do
  match text with
  | '.' :: rest => let (x, rest) ← readDecimals significand 0 rest; .ok (some x, rest)
  | 'e' :: rest => let (x, rest) ← readExponent significand 0 rest; .ok (some x, rest)
  | 'E' :: rest => let (x, rest) ← readExponent significand 0 rest; .ok (some x, rest)
  | c :: _ =>
      if isDigit c then
        let exponent := (text.takeWhile isDigit).length
        match text.dropWhile isDigit with
        | '.' :: rest => let (x, rest) ← readDecimals significand exponent rest; .ok (some x, rest)
        | rest => let (x, rest) ← finishNumber significand exponent rest; .ok (some x, rest)
      else .ok (none, text)
  | [] => .ok (none, [])

/-- A number with its sign. Zero with a minus sign is a fraction. -/
def numberOf (negative : Bool) (significand : Nat) : Option Float → Datum
  | some x => .float (if negative then -x else x)
  | none =>
      if !negative then .int significand
      else if significand == 0 || Bits.count 63 < significand then .float (-Float.ofNat significand)
      else .int (-significand)

/-- Reads a number from its first character on. -/
def readNumber (text : List Char) : Except Fault (Parsed Datum) :=
  let (negative, text) :=
    match text with
    | '-' :: rest => (true, rest)
    | _ => (false, text)
  match text with
  | [] => ended "EOF while parsing a value"
  | '0' :: rest =>
      match rest with
      | c :: _ =>
          if isDigit c then malformed "invalid number"
          else do
            let (x, rest) ← readAfterDigits 0 rest
            .ok (numberOf negative 0 x, rest)
      | [] => .ok (numberOf negative 0 none, [])
  | c :: _ =>
      if !isDigit c then malformed "invalid number"
      else
        let (significand, rest) := takeDigits 0 text
        do
          let (x, rest) ← readAfterDigits significand rest
          .ok (numberOf negative significand x, rest)

end Groundwork.Json
