/-!
Whole numbers of a fixed number of bits: how many of them there are, and which numbers lie among
them with and without a sign.
-/

namespace Groundwork.Bits

/-- How many numbers some bits can tell apart. -/
def count (bits : Nat) : Nat := Nat.pow 2 bits

/-- The least number of some bits with a sign. -/
def least (bits : Nat) : Int := -(count (bits - 1) : Int)

/-- The greatest number of some bits with a sign. -/
def greatest (bits : Nat) : Int := (count (bits - 1) : Int) - 1

/-- Whether some bits can hold a number with its sign. -/
def isSigned (bits : Nat) (n : Int) : Bool := least bits ≤ n && n ≤ greatest bits

/-- Whether some bits without a sign can hold a number. -/
def isUnsigned (bits : Nat) (n : Int) : Bool := 0 ≤ n && n < count bits

/-- The number of some bits with a sign that is nearest to a number. -/
def clamp (bits : Nat) (n : Int) : Int := max (least bits) (min n (greatest bits))

/-- The number of some bits with a sign that has the same last bits as a number. -/
def wrap (bits : Nat) (n : Int) : Int := Int.bmod n (count bits)

end Groundwork.Bits
