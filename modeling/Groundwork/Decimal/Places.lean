import Groundwork.Decimal.Fraction

/-!
Fractions written with a given number of places: without an exponent, with one, or in the shorter
of the two ways. The exact value of a fraction is rounded to the nearest decimal, a half to the
even one.
-/

namespace Groundwork.Decimal

/-- The quotient rounded to the nearest whole number, halves to the even one. -/
def roundedQuotient (num den : Nat) : Nat :=
  let below := num / den
  let rest := 2 * (num % den)
  if rest < den then below
  else if den < rest then below + 1
  else if below % 2 == 0 then below else below + 1

/-- The number `units / 2 ^ 1074` in steps of `10 ^ position`. -/
def stepsOf (units : Nat) (position : Int) : Nat :=
  roundedQuotient (units * Nat.pow 10 (-position).toNat)
    (Nat.pow 2 1074 * Nat.pow 10 position.toNat)

/-- A whole number of steps `10 ^ (-places)` with its point. -/
def pointed (steps places : Nat) : List Char :=
  if places == 0 then Nat.toDigits 10 steps
  else
    let digits := Nat.toDigits 10 steps
    let padded := List.replicate (places + 1 - digits.length) '0' ++ digits
    padded.take (padded.length - places) ++ '.' :: padded.drop (padded.length - places)

/-- The number `units / 2 ^ 1074` without an exponent. -/
def fixedPlaces (units places : Nat) : List Char := pointed (stepsOf units (-(places : Int))) places

/-- The digits of the number with `places` behind the first, and the exponent of the first. -/
def leadingDigits (units places : Nat) : Nat × Int :=
  if units == 0 then (0, 0)
  else
    let lead := leadingPosition units (Nat.pow 2 1074) 640 309
    let steps := stepsOf units (lead - places)
    if steps < Nat.pow 10 (places + 1) then (steps, lead) else (steps / 10, lead + 1)

/-- An exponent with its sign and at least two digits. -/
def exponentText (exponent : Int) : List Char :=
  let digits := Nat.toDigits 10 exponent.natAbs
  'e' :: (if exponent < 0 then '-' else '+') ::
    (List.replicate (2 - digits.length) '0' ++ digits)

/-- The number with an exponent. -/
def scientificPlaces (units places : Nat) : List Char :=
  let (steps, exponent) := leadingDigits units places
  pointed steps places ++ exponentText exponent

/-- Decimals without the zeros at their end. -/
def withoutZeros (text : List Char) : List Char :=
  if text.contains '.' then
    let shortened := (text.reverse.dropWhile (· == '0')).reverse
    if shortened.getLast? == some '.' then shortened.dropLast else shortened
  else text

/-- The number with so many digits, with an exponent only if it is far from the point; zeros at the
end are kept if asked for. -/
def generalPlaces (units digits : Nat) (keepsZeros : Bool) : List Char :=
  let places := max digits 1 - 1
  let (steps, exponent) := leadingDigits units places
  let trim := if keepsZeros then id else withoutZeros
  if exponent < -4 || places < exponent then trim (pointed steps places) ++ exponentText exponent
  else trim (fixedPlaces units (places - exponent).toNat)

end Groundwork.Decimal
