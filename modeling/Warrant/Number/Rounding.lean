import Warrant.Number.Double

/-!
# Rounding a fraction to the nearest double

A decimal numeral and a quotient of two whole numbers are both fractions, and
both become the double nearest to them. The fraction is first taken in units;
it keeps at most 53 significant bits of its whole part, and a tie goes to the
even neighbour. What reaches two to the power of 1024 is infinite.
-/

namespace Warrant.Number

namespace Double

/-- The most significant bits that a double has. -/
def precision : Nat := 53

/-- The first number of units that is too large for a finite double. -/
def unitsLimit : Nat := Nat.pow 2 (1024 + unitExponent)

/-- The number of binary digits. -/
def bitLength (n : Nat) : Nat :=
  if n = 0 then 0 else Nat.log2 n + 1

/-- The quotient rounded to the nearest whole number, a tie to the even one. -/
def divideToEven (num den : Nat) : Nat :=
  let quotient := num / den
  let twice := 2 * (num % den)
  if twice < den then quotient
  else if den < twice then quotient + 1
  else quotient + quotient % 2

/-- The double nearest to a fraction of units. -/
def ofUnits (negative : Bool) (num den : Nat) : Double :=
  let shift := bitLength (num / den) - precision
  let units := divideToEven num (den * Nat.pow 2 shift) * Nat.pow 2 shift
  if units < unitsLimit then .finite negative units else .infinite negative

/-- The double nearest to a fraction. -/
def ofFraction (negative : Bool) (num den : Nat) : Double :=
  ofUnits negative (num * unitsPerOne) den

/-- Beyond this power of ten either way a numeral is infinite, or is zero. -/
def exponentBound : Int := 400

/-- The double nearest to `digits * 10 ^ exponent`. The number of digits bounds the size before
anything is raised to a power, so a numeral with a huge exponent costs nothing. -/
def ofDecimal (negative : Bool) (digits : Nat) (exponent : Int) : Double :=
  if digits = 0 then .finite negative 0
  else
    let size := exponent + (Nat.toDigits 10 digits).length
    if exponentBound < size then .infinite negative
    else if size < -exponentBound then .finite negative 0
    else ofFraction negative (digits * Nat.pow 10 exponent.toNat) (Nat.pow 10 (-exponent).toNat)

/-- The quotient of two whole numbers as a double, unless the divisor is zero. -/
def quotient? (a b : Int) : Option Double :=
  if b = 0 then none
  else some (ofFraction (decide (a ≠ 0) && decide (a < 0) != decide (b < 0)) a.natAbs b.natAbs)

end Double

end Warrant.Number
