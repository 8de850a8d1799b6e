import Warrant.Fault
import Warrant.Number.Rounding
import Warrant.Time.Instant

/-!
# Spans of time

A span is a whole number of microseconds, given in seconds. Whole seconds count
exactly. The part of a second that a double has beyond them is taken in
microseconds as a double again, and then everything is rounded to the nearest
microsecond, half a microsecond to the even neighbour.
-/

namespace Warrant.Span

/-- The span of so many microseconds, if it is not too long. -/
def ofMicros (micros : Int) : Except Fault Int :=
  if -(Instant.maxDays * Instant.perDay) ≤ micros ∧ micros < (Instant.maxDays + 1) * Instant.perDay then
    .ok micros
  else .error .outOfRange

/-- The span of so many whole seconds. -/
def ofWhole (seconds : Int) : Except Fault Int := ofMicros (seconds * Instant.perSecond)

/-- The microseconds in a size in seconds, both in the units of doubles, the part beyond whole
seconds rounded to a double. -/
def microUnits (units : Nat) : Nat :=
  let part := Number.Double.ofUnits false (units % Number.Double.unitsPerOne * Instant.perSecond.toNat) 1
  units / Number.Double.unitsPerOne * Instant.perSecond.toNat * Number.Double.unitsPerOne +
    (part.units?.getD 0).toNat

/-- The span of so many seconds. -/
def ofDouble : Number.Double → Except Fault Int
  | .finite negative units =>
      let micros := Number.Double.divideToEven (microUnits units) Number.Double.unitsPerOne
      ofMicros (if negative then -(micros : Int) else micros)
  | .infinite _ => .error .outOfRange
  | .nan => .error .unknownValue

end Warrant.Span
