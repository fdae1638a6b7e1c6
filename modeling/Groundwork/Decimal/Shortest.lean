import Groundwork.Bits

/-!
The shortest decimal that reads back as a given binary fraction. A value `m * 2 ^ e` owns the reals
that round to it; among the decimals of fewest digits in that interval the nearest is taken.
-/

namespace Groundwork.Decimal

/-- A finite value apart from its sign: `mantissa * 2 ^ (exponent - 1074)`. -/
structure Binary where
  mantissa : Nat
  exponent : Nat
deriving Repr, DecidableEq

/-- A decimal apart from its sign: `digits * 10 ^ exponent`. -/
structure Digits where
  digits : Nat
  exponent : Int
deriving Repr, DecidableEq

/-- What a sixty-four bit pattern stands for, apart from its sign. -/
inductive Magnitude where
  | finite (value : Binary)
  | infinite
  | notANumber
deriving Repr, DecidableEq

def magnitudeOfBits (bits : Nat) : Magnitude :=
  let fraction := bits % Bits.count 52
  let exponent := bits / Bits.count 52 % 2048
  if exponent == 2047 then if fraction == 0 then .infinite else .notANumber
  else if exponent == 0 then .finite ⟨fraction, 0⟩
  else .finite ⟨fraction + Bits.count 52, exponent - 1⟩

def isNegativeBits (bits : Nat) : Bool := Bits.count 63 ≤ bits

/-- The value and the ends of its interval as multiples of `1 / (4 * 2 ^ 1074)`. -/
def Binary.scaled (b : Binary) : Nat := 4 * b.mantissa * Nat.pow 2 b.exponent

/-- Below a power of two the values lie twice as close. -/
def Binary.low (b : Binary) : Nat :=
  if b.mantissa == Bits.count 52 && 0 < b.exponent then (4 * b.mantissa - 1) * Nat.pow 2 b.exponent
  else (4 * b.mantissa - 2) * Nat.pow 2 b.exponent

def Binary.high (b : Binary) : Nat := (4 * b.mantissa + 2) * Nat.pow 2 b.exponent

/-- The scale of `Binary.scaled`. -/
def unit : Nat := 4 * Nat.pow 2 1074

/-- Whether the decimal `d * num / den` rounds to the value; the ends belong to even mantissas. -/
def Binary.owns (b : Binary) (d num den : Nat) : Bool :=
  let x := d * num * unit
  if b.mantissa % 2 == 0 then b.low * den ≤ x && x ≤ b.high * den
  else b.low * den < x && x < b.high * den

/-- The neighbours of the value on the grid `10 ^ k`, if one of them rounds to it: the nearer, and
of two as near the even one. -/
def Binary.onGrid? (b : Binary) (k : Int) : Option Nat :=
  let num := Nat.pow 10 k.toNat
  let den := Nat.pow 10 (-k).toNat
  let below := b.scaled * den / (num * unit)
  let above := below + 1
  match b.owns below num den, b.owns above num den with
  | true, false => some below
  | false, true => some above
  | false, false => none
  | true, true =>
      let gapBelow := b.scaled * den - below * num * unit
      let gapAbove := above * num * unit - b.scaled * den
      if gapBelow < gapAbove then some below
      else if gapAbove < gapBelow then some above
      else if below % 2 == 0 then some below else some above

/-- The position of the leading decimal digit of `num / den`, searched downwards from `k`. -/
def leadingPosition (num den : Nat) : Nat → Int → Int
  | 0, k => k
  | fuel + 1, k =>
      if Nat.pow 10 k.toNat * den ≤ num * Nat.pow 10 (-k).toNat then k
      else leadingPosition num den fuel (k - 1)

/-- Divides out trailing zeros. -/
def Digits.normalize : Nat → Digits → Digits
  | 0, d => d
  | fuel + 1, d =>
      if d.digits % 10 == 0 && d.digits != 0 then
        Digits.normalize fuel ⟨d.digits / 10, d.exponent + 1⟩
      else d

/-- Tries grids of one digit, two digits, up to seventeen, from the leading position on. -/
def Binary.shortestFrom (b : Binary) (leading : Int) : Nat → Nat → Digits
  | 0, _ => ⟨0, 0⟩
  | fuel + 1, count =>
      let k := leading - count
      match b.onGrid? k with
      | some d => Digits.normalize 20 ⟨d, k⟩
      | none => b.shortestFrom leading fuel (count + 1)

/-- The shortest decimal of the value, zero for zero. -/
def Binary.shortest (b : Binary) : Digits :=
  if b.mantissa == 0 then ⟨0, 0⟩
  else b.shortestFrom (leadingPosition b.scaled unit 640 309) 20 0

/-- Digits written without an exponent. -/
def Digits.positional (d : Digits) : String :=
  let text := Nat.repr d.digits
  if 0 ≤ d.exponent then text ++ String.ofList (List.replicate d.exponent.toNat '0')
  else
    let places := (-d.exponent).toNat
    let padded := List.replicate (places + 1 - text.length) '0' ++ text.toList
    let whole := padded.length - places
    String.ofList (padded.take whole ++ '.' :: padded.drop whole)

/-- How numbers that are no decimals are written. -/
structure NumberWords where
  infinite : String
  notANumber : String

/-- The number written without an exponent and with no more digits than it needs. -/
def positional (words : NumberWords) (x : Float) : String :=
  let bits := x.toBits.toNat
  let sign := if isNegativeBits bits then "-" else ""
  match magnitudeOfBits bits with
  | .finite b => sign ++ b.shortest.positional
  | .infinite => sign ++ words.infinite
  | .notANumber => words.notANumber

/-- The same with a point in every decimal: whole numbers end in `.0`. -/
def positionalWithPoint (words : NumberWords) (x : Float) : String :=
  let text := positional words x
  match magnitudeOfBits x.toBits.toNat with
  | .finite _ => if text.contains '.' then text else text ++ ".0"
  | _ => text

/-- Where the compact form writes an exponent: the least and the greatest number of digits before
the point that it writes out; and whether the exponent has always a sign and two digits. -/
structure CompactForm where
  least : Int
  greatest : Int
  signed : Bool

/-- An exponent in digits. -/
def CompactForm.exponent (form : CompactForm) (n : Int) : String :=
  if form.signed then
    let digits := Nat.repr n.natAbs
    (if n < 0 then "-" else "+") ++ (if digits.length < 2 then "0" else "") ++ digits
  else toString n

/-- Digits with an exponent where they would be far from the point; whole numbers end in `.0`. -/
def Digits.compact (form : CompactForm) (d : Digits) : String :=
  let text := Nat.repr d.digits
  let before := text.length + d.exponent
  if form.least ≤ before && before ≤ form.greatest then
    if 0 ≤ d.exponent then d.positional ++ ".0" else d.positional
  else
    let digits := text.toList
    let rest := digits.drop 1
    String.ofList (digits.take 1) ++ (if rest.isEmpty then "" else "." ++ String.ofList rest) ++
      "e" ++ form.exponent (before - 1)

/-- The number in compact form. -/
def compact (words : NumberWords) (form : CompactForm) (x : Float) : String :=
  let bits := x.toBits.toNat
  let sign := if isNegativeBits bits then "-" else ""
  match magnitudeOfBits bits with
  | .finite b => if b.mantissa == 0 then sign ++ "0.0" else sign ++ b.shortest.compact form
  | .infinite => sign ++ words.infinite
  | .notANumber => words.notANumber

end Groundwork.Decimal
