import Groundwork.Decimal.Places

/-!
Conversions of formats: flags, a width and a precision that say how a number or a text is written.
-/

namespace Groundwork

/-- A conversion of an argument. -/
structure Conversion where
  leftAligned : Bool := false
  zeroPadded : Bool := false
  signed : Bool := false
  spaced : Bool := false
  alternate : Bool := false
  width : Nat := 0
  precision : Option Nat := none
  letter : Char := 's'

namespace Conversion

/-- Sets the flag of a character, if it is one. -/
def flag? (conversion : Conversion) (c : Char) : Option Conversion :=
  match c with
  | '-' => some { conversion with leftAligned := true }
  | '0' => some { conversion with zeroPadded := true }
  | '+' => some { conversion with signed := true }
  | ' ' => some { conversion with spaced := true }
  | '#' => some { conversion with alternate := true }
  | _ => none

def readFlags (conversion : Conversion) : List Char → Conversion × List Char
  | [] => (conversion, [])
  | c :: rest =>
      match conversion.flag? c with
      | some conversion => readFlags conversion rest
      | none => (conversion, c :: rest)

/-- A number at the front of a text, zero if there is none. -/
def readNumber (text : List Char) : Nat × List Char :=
  ((text.takeWhile Char.isDigit).foldl (fun n c => 10 * n + (c.toNat - '0'.toNat)) 0,
    text.dropWhile Char.isDigit)

/-- A sign and digits brought to the width of a conversion. -/
def padNumber (conversion : Conversion) (sign digits : List Char) : List Char :=
  let missing := conversion.width - (sign.length + digits.length)
  if conversion.leftAligned then sign ++ digits ++ List.replicate missing ' '
  else if conversion.zeroPadded then sign ++ List.replicate missing '0' ++ digits
  else List.replicate missing ' ' ++ sign ++ digits

def signOf (conversion : Conversion) (negative : Bool) : List Char :=
  if negative then ['-']
  else if conversion.signed then ['+']
  else if conversion.spaced then [' '] else []

/-- A whole number to a base. -/
def wholeText (conversion : Conversion) (base : Nat) (lead : List Char) (n : Int) : List Char :=
  let digits := Nat.toDigits base n.natAbs
  let digits := List.replicate (conversion.precision.getD 0 - digits.length) '0' ++ digits
  let digits := if conversion.letter == 'X' then digits.map Char.toUpper else digits
  let lead := if conversion.alternate then lead else []
  padNumber conversion (signOf conversion (n < 0) ++ lead) digits

/-- A fraction with the places of a conversion, six if it gives none. -/
def fractionText (conversion : Conversion) (x : Float) : List Char :=
  let places := conversion.precision.getD 6
  let digits :=
    match Decimal.units? x with
    | none => if x.isNaN then "nan".toList else "inf".toList
    | some (_, units) =>
        match conversion.letter.toLower with
        | 'e' => Decimal.scientificPlaces units places
        | 'g' => Decimal.generalPlaces units places conversion.alternate
        | _ => Decimal.fixedPlaces units places
  let digits := if conversion.letter.isUpper then digits.map Char.toUpper else digits
  padNumber conversion (signOf conversion (Decimal.isNegativeBits x.toBits.toNat && !x.isNaN))
    digits

end Conversion

end Groundwork
