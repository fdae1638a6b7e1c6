import Groundwork.Bits
import Groundwork.Decimal.Shortest

/-!
Binary fractions as exact numbers: the fraction nearest to a decimal, and the whole part, remainder
and order of fractions.
-/

namespace Groundwork.Decimal

/-- The number nearest to `significand * 10 ^ exponent`; far exponents give zero or infinity. -/
def scaled (significand : Nat) (exponent : Int) : Float :=
  let bits : Nat := significand.log2
  if significand == 0 || exponent + (bits * 30103 / 100000 + 1 : Nat) < -400 then 0.0
  else if 400 < exponent + (bits * 30102 / 100000 : Nat) then 1.0 / 0.0
  else if exponent < 0 then Float.ofScientific significand true exponent.natAbs
  else Float.ofScientific significand false exponent.natAbs

/-- The fraction `units / 2 ^ 1074`, for units that a fraction can hold. -/
def ofUnits (units : Nat) : Float :=
  let shift := units.log2 - 52
  Float.scaleB (Float.ofNat (units / Nat.pow 2 shift)) ((shift : Int) - 1074)

/-- A finite fraction as its sign and its multiple of `1 / 2 ^ 1074`. -/
def units? (x : Float) : Option (Bool × Nat) :=
  match magnitudeOfBits x.toBits.toNat with
  | .finite b => some (isNegativeBits x.toBits.toNat, b.mantissa * Nat.pow 2 b.exponent)
  | _ => none

/-- The fraction without its digits after the point. -/
def wholePart? (x : Float) : Option Int :=
  (units? x).map fun (negative, units) =>
    if negative then -((units / Nat.pow 2 1074 : Nat) : Int) else (units / Nat.pow 2 1074 : Nat)

/-- The whole number that a fraction is. -/
def whole? (x : Float) : Option Int :=
  match units? x, wholePart? x with
  | some (_, units), some n => if units % Nat.pow 2 1074 == 0 then some n else none
  | _, _ => none

/-- What is left of `x` after taking away multiples of `y`; it has the sign of `x`. -/
def remainder (x y : Float) : Float :=
  match units? x, units? y with
  | some (negative, a), some (_, b) =>
      if b == 0 then 0.0 / 0.0
      else
        let rest := ofUnits (a % b)
        if negative then -rest else rest
  | some _, none => if y.isInf then x else y
  | none, _ => 0.0 / 0.0

/-- The whole quotient whose remainder is not negative. -/
def euclideanQuotient (x y : Float) : Float :=
  let quotient := x / y
  let whole := if quotient < 0.0 then quotient.ceil else quotient.floor
  if remainder x y < 0.0 then if y > 0.0 then whole - 1.0 else whole + 1.0 else whole

/-- The place of a fraction in the order of all bit patterns: negative ones below positive ones,
each by its magnitude. -/
def rank (x : Float) : Int :=
  let bits := x.toBits.toNat
  if isNegativeBits bits then -((bits - Bits.count 63 : Nat) : Int) - 1 else bits

end Groundwork.Decimal
