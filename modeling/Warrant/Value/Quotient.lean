import Warrant.Number.Rounding
import Warrant.Value.Equality

/-!
# Quotients of values

Two whole numbers have the double nearest to their exact quotient, however
large they are. As soon as a double takes part, both sides are doubles first,
and a whole number too large for a double has no quotient.
-/

namespace Warrant

namespace Number.Double

/-- The double nearest to a whole number, if the number is not too large. -/
def ofInt? (n : Int) : Option Double :=
  match ofFraction (decide (n < 0)) n.natAbs 1 with
  | .infinite _ => none
  | d => some d

/-- The quotient of two doubles, the second not zero. -/
def divide : Double → Double → Double
  | .finite a m, .finite b n => ofFraction (a != b) m n
  | .infinite a, .finite b _ => .infinite (a != b)
  | .finite a _, .infinite b => .finite (a != b) 0
  | _, _ => .nan

/-- The least whole number that is not below a double. -/
def roundedUp : Double → Except Fault Int
  | .nan => .error .unknownValue
  | d =>
      match d.ceiling? with
      | some n => .ok n
      | none => .error .outOfRange

end Number.Double

namespace Value

/-- The double nearest to a number. -/
def Numeric.nearest : Numeric → Except Fault Number.Double
  | .whole n =>
      match Number.Double.ofInt? n with
      | some d => .ok d
      | none => .error .outOfRange
  | .double d => .ok d

/-- The quotient of two numbers as a double, the second not zero. -/
def Numeric.quotient : Numeric → Numeric → Except Fault Number.Double
  | .whole a, .whole b =>
      match Number.Double.quotient? a b with
      | some d => .ok d
      | none => .error .outOfRange
  | a, b => do .ok ((← a.nearest).divide (← b.nearest))

/-- The quotient of two values, which only numbers have. -/
def quotient (a b : Value) : Except Fault Number.Double :=
  match a.numeric?, b.numeric? with
  | some m, some n => m.quotient n
  | _, _ => .error .wrongKind

end Value

end Warrant
