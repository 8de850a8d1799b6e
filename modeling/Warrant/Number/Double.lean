/-!
# Binary floating point values, exactly

A finite double is a whole number of units, one unit being the smallest
positive double, two to the power of minus 1074. Held that way its value is
exact, so comparing a double with a whole number of any size, or with another
double, is a comparison of whole numbers and never rounds.
-/

namespace Warrant.Number

/-- A double: a signed whole number of units of `2 ^ -1074`, an infinity, or not a number.
The sign is kept apart because there are two zeros. -/
inductive Double where
  | finite (negative : Bool) (units : Nat)
  | infinite (negative : Bool)
  | nan
  deriving DecidableEq, Repr, Inhabited

namespace Double

/-- The power of two by which a whole number is a number of units. -/
def unitExponent : Nat := 1074

/-- The number of units in one. -/
def unitsPerOne : Nat := Nat.pow 2 unitExponent

/-- The signed number of units, for a finite double. -/
def units? : Double → Option Int
  | .finite negative units => some (if negative then -(units : Int) else units)
  | .infinite _ => none
  | .nan => none

/-- Equality of values: the two zeros are equal, and what is not a number equals nothing. -/
def equal : Double → Double → Bool
  | .infinite a, .infinite b => a == b
  | a, b =>
      match a.units?, b.units? with
      | some m, some n => m == n
      | _, _ => false

/-- Whether a double has exactly the value of a whole number. -/
def equalsInt (d : Double) (n : Int) : Bool :=
  match d.units? with
  | some m => m == n * unitsPerOne
  | none => false

/-- Zero of either sign. -/
def isZero : Double → Bool
  | .finite _ units => units == 0
  | .infinite _ => false
  | .nan => false

/-- The least whole number that is not below a finite double. -/
def ceiling? : Double → Option Int
  | .finite true units => some (-((units / unitsPerOne : Nat) : Int))
  | .finite false units => some (((units + (unitsPerOne - 1)) / unitsPerOne : Nat) : Int)
  | .infinite _ => none
  | .nan => none

end Double

end Warrant.Number
