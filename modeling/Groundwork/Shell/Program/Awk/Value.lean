import Groundwork.Decimal.Fraction
import Groundwork.Decimal.Places
import Groundwork.Shell.Format
import Groundwork.Text.Utf8

/-!
Values of `awk`: numbers and texts, each of which can stand for the other.
-/

namespace Groundwork.Shell.Program.Awk

/-- A value. -/
inductive Value where
  | unset
  | number (x : Float)
  | text (bytes : ByteArray)
  /-- Text that was read, which counts as a number if it looks like one. -/
  | given (bytes : ByteArray)

/-! ## Numbers of texts -/

def isSpace (b : UInt8) : Bool := b == 32 || (9 ≤ b && b ≤ 13)

def isDigit (b : UInt8) : Bool := 48 ≤ b && b ≤ 57

/-- The value of a digit to the base sixteen. -/
def hexValue? (b : UInt8) : Option Nat :=
  if isDigit b then some (b.toNat - 48)
  else if 97 ≤ b && b ≤ 102 then some (b.toNat - 87)
  else if 65 ≤ b && b ≤ 70 then some (b.toNat - 55)
  else none

/-- The digits in a row at a place: their value behind one, how many there are, and the place after
them; `fuel` bounds them. -/
def digitsFrom (bytes : ByteArray) (fuel place value count : Nat) : Nat × Nat × Nat :=
  match fuel with
  | 0 => (value, count, place)
  | fuel + 1 =>
      let b := if h : place < bytes.size then bytes[place] else 0
      if isDigit b then
        digitsFrom bytes fuel (place + 1) (10 * value + (b.toNat - 48)) (count + 1)
      else (value, count, place)

/-- The place after blanks. -/
def skipSpaces (bytes : ByteArray) (fuel place : Nat) : Nat :=
  match fuel with
  | 0 => place
  | fuel + 1 =>
      if h : place < bytes.size then
        if isSpace bytes[place] then skipSpaces bytes fuel (place + 1) else place
      else place

/-- A byte, or zero after the end. -/
def byteAt (bytes : ByteArray) (place : Nat) : UInt8 :=
  if h : place < bytes.size then bytes[place] else 0

/-- The digits to the base sixteen at a place. -/
def hexFrom (bytes : ByteArray) (fuel place value : Nat) : Nat × Nat :=
  match fuel with
  | 0 => (value, place)
  | fuel + 1 =>
      match hexValue? (byteAt bytes place) with
      | some digit =>
          if place < bytes.size then hexFrom bytes fuel (place + 1) (16 * value + digit)
          else (value, place)
      | none => (value, place)

/-- Whether some letters, whatever their case, stand at a place. -/
def wordStartsAt (bytes : ByteArray) (place : Nat) (word : String) : Bool :=
  (word.toUTF8.data.toList.zipIdx.all fun (b, i) =>
    let other := byteAt bytes (place + i)
    other == b || (65 ≤ other && other ≤ 90 && other + 32 == b))

/-- The exponent at a place and the place after it, if there is one. -/
def exponentAt (bytes : ByteArray) (place : Nat) : Int × Nat :=
  let e := byteAt bytes place
  if e == 101 || e == 69 then
    let sign := byteAt bytes (place + 1)
    let start := if sign == 43 || sign == 45 then place + 2 else place + 1
    let (value, count, stop) := digitsFrom bytes bytes.size start 0 0
    if count == 0 then (0, place)
    else
      let value := min value 100000
      (if sign == 45 then -value else value, stop)
  else (0, place)

/-- A number without a sign at a place and the place after it, if there is one. -/
def unsignedAt? (bytes : ByteArray) (place : Nat) : Option (Float × Nat) :=
  let (whole, count, afterWhole) := digitsFrom bytes bytes.size place 0 0
  let (value, places, stop) :=
    if byteAt bytes afterWhole == 46 then
      digitsFrom bytes bytes.size (afterWhole + 1) whole 0
    else (whole, 0, afterWhole)
  if count + places == 0 then none
  else
    let (exponent, stop) := exponentAt bytes stop
    some (Decimal.scaled value (exponent - places), stop)

/-- The number at the start of some bytes and the place after it, if there is one. -/
def numberAt? (bytes : ByteArray) : Option (Float × Nat) :=
  let start := skipSpaces bytes bytes.size 0
  let sign := byteAt bytes start
  let place := if sign == 43 || sign == 45 then start + 1 else start
  let second := byteAt bytes (place + 1)
  let found : Option (Float × Nat) :=
    if byteAt bytes place == 48 && (second == 120 || second == 88) &&
        (hexValue? (byteAt bytes (place + 2))).isSome then
      let (value, stop) := hexFrom bytes bytes.size (place + 2) 0
      some (Float.ofNat value, stop)
    else if wordStartsAt bytes place "infinity" then some (1.0 / 0.0, place + 8)
    else if wordStartsAt bytes place "inf" then some (1.0 / 0.0, place + 3)
    else if wordStartsAt bytes place "nan" then some (0.0 / 0.0, place + 3)
    else unsignedAt? bytes place
  found.map fun (x, stop) => (if sign == 45 then -x else x, stop)

/-- The number that some bytes stand for. -/
def numberOf (bytes : ByteArray) : Float := ((numberAt? bytes).map (·.1)).getD 0.0

/-- The number that bytes look like: nothing but blanks stands beside it. -/
def wholeNumber? (bytes : ByteArray) : Option Float :=
  let start := skipSpaces bytes bytes.size 0
  let sign := byteAt bytes start
  let place := if sign == 43 || sign == 45 then start + 1 else start
  match unsignedAt? bytes place with
  | some (x, stop) =>
      if skipSpaces bytes bytes.size stop == bytes.size then
        some (if sign == 45 then -x else x)
      else none
  | none => none

/-! ## Texts of numbers -/

/-- A whole number, if a fraction is one that can be told exactly. Beyond the range of what is
counted with, the last number of the range stands for those that are next to it. -/
def countOf? (x : Float) : Option Int :=
  let bound := 9223372036854775808.0
  if x.isNaN then none
  else if x.abs < 4503599627370496.0 then
    if x.floor == x then some x.toInt64.toInt else none
  else if x ≥ bound then
    if x > 2.0 * bound then none
    else if x == 2.0 * bound then some 18446744073709551615
    else Decimal.whole? x
  else if x ≤ -bound then if x == -bound then some (-9223372036854775807) else none
  else Decimal.whole? x

/-- A number by the conversion of a format. -/
def formatted (format : ByteArray) (x : Float) : ByteArray :=
  let text := (Text.decodeLossy format).toList
  let before := text.takeWhile (· != '%')
  match text.drop before.length with
  | _ :: rest =>
      match Format.readConversion rest with
      | (.conversion conversion _ _, after) =>
          let shown := if "diouxX".toList.contains conversion.letter then
              Format.wholeText conversion ((Decimal.wholePart? x).getD 0)
            else conversion.fractionText x
          (String.ofList (before ++ shown ++ after)).toUTF8
      | _ => format
  | [] => format

/-- The text of a number, by a format if it is not whole. -/
def numberText (format : ByteArray) (x : Float) : ByteArray :=
  match countOf? x with
  | some n => (toString n).toUTF8
  | none => if x.isNaN then "-nan".toUTF8 else formatted format x

namespace Value

/-- The number that a value stands for. -/
def toNumber : Value → Float
  | .unset => 0.0
  | .number x => x
  | .text bytes | .given bytes => numberOf bytes

/-- The text that a value stands for; numbers that are not whole follow a format. -/
def toBytes (format : ByteArray) : Value → ByteArray
  | .unset => .empty
  | .number x => numberText format x
  | .text bytes | .given bytes => bytes

/-- Whether a value counts as true. -/
def holds : Value → Bool
  | .unset => false
  | .number x => !(x == 0.0)
  | .text bytes => !bytes.isEmpty
  | .given bytes =>
      match wholeNumber? bytes with
      | some x => !(x == 0.0)
      | none => !bytes.isEmpty

/-- The number of a value that is compared as a number. -/
def plainNumber? : Value → Option Float
  | .unset => some 0.0
  | .number x => some x
  | .text _ => none
  | .given bytes => wholeNumber? bytes

end Value

/-- Compares bytes one after the other. -/
def compareFrom (a b : ByteArray) (fuel place : Nat) : Ordering :=
  match fuel with
  | 0 => .eq
  | fuel + 1 =>
      if place < a.size then
        if place < b.size then
          match compare (byteAt a place) (byteAt b place) with
          | .eq => compareFrom a b fuel (place + 1)
          | order => order
        else .gt
      else if place < b.size then .lt else .eq

def compareBytes (a b : ByteArray) : Ordering := compareFrom a b (a.size + 1) 0

/-- How two values compare: as numbers if both can, otherwise as texts. Nothing is said of what is
no number. -/
def Value.compareTo? (format : ByteArray) (a b : Value) : Option Ordering :=
  match a.plainNumber?, b.plainNumber? with
  | some x, some y =>
      if x < y then some .lt else if x > y then some .gt else if x == y then some .eq else none
  | _, _ => some (compareBytes (a.toBytes format) (b.toBytes format))

end Groundwork.Shell.Program.Awk
