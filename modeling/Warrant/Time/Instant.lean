import Warrant.Time.Calendar

/-!
# Points in time

An instant is a number of microseconds since the beginning of the calendar,
together with the offset from universal time at which it is written. Two
instants compare by the number alone. A clock that does not know its offset
shows universal time and says nothing about it.
-/

namespace Warrant

/-- A point in time: microseconds since the first of January of the year one, universal time,
and the offset in microseconds of the clock that shows it, if that is known. -/
structure Instant where
  micros : Int
  offset : Option Int
  deriving DecidableEq, Repr, Inhabited

namespace Instant

/-- Microseconds in a second. -/
def perSecond : Int := 1000000

/-- Microseconds in a day. -/
def perDay : Int := 86400 * perSecond

/-- The microseconds that the clock shows. -/
def localMicros (t : Instant) : Int := t.micros + t.offset.getD 0

/-- The instant at which a clock shows so many microseconds. -/
def ofLocal (micros : Int) (offset : Option Int) : Instant := ⟨micros - offset.getD 0, offset⟩

/-- The first microsecond after the calendar. -/
def limit : Int := Calendar.totalDays * perDay

/-- Whether the local time lies in the calendar. -/
def inCalendar (t : Instant) : Bool :=
  decide (0 ≤ t.localMicros) && decide (t.localMicros < limit)

/-! ## Writing -/

/-- A number with zeros in front up to a width. -/
def padded (width n : Nat) : List Char :=
  let digits := Nat.toDigits 10 n
  List.replicate (width - digits.length) '0' ++ digits

/-- Microseconds after a point, if there are any. -/
def fractionText (micros : Nat) : List Char :=
  if micros = 0 then [] else '.' :: padded 6 micros

/-- An offset: sign, hours and minutes, then seconds and microseconds if there are any. -/
def offsetText (offset : Int) : List Char :=
  let seconds := offset.natAbs / perSecond.toNat
  let micros := offset.natAbs % perSecond.toNat
  let fine :=
    if seconds % 60 = 0 ∧ micros = 0 then [] else ':' :: padded 2 (seconds % 60) ++ fractionText micros
  (if offset < 0 then '-' else '+') ::
    (padded 2 (seconds / 3600) ++ ':' :: padded 2 (seconds / 60 % 60) ++ fine)

/-- The written form: date, time, microseconds if there are any, and the offset if it is known. -/
def text (t : Instant) : String :=
  let shown := t.localMicros.toNat
  let (year, month, day) := Calendar.dateOfDay (shown / perDay.toNat)
  let inDay := shown % perDay.toNat
  let seconds := inDay / perSecond.toNat
  let offset :=
    match t.offset with
    | some n => offsetText n
    | none => []
  String.ofList (padded 4 year ++ '-' :: padded 2 month ++ '-' :: padded 2 day ++
    'T' :: padded 2 (seconds / 3600) ++ ':' :: padded 2 (seconds / 60 % 60) ++
    ':' :: padded 2 (seconds % 60) ++ fractionText (inDay % perSecond.toNat) ++ offset)

/-! ## Arithmetic -/

/-- The instant so many microseconds later, if it is still in the calendar. -/
def add? (t : Instant) (micros : Int) : Option Instant :=
  let later : Instant := ⟨t.micros + micros, t.offset⟩
  if later.inCalendar then some later else none

/-- The most days that a span of time may have, either way. -/
def maxDays : Int := 999999999

/-- The instant so many days earlier. -/
def daysBefore? (t : Instant) (days : Int) : Option Instant :=
  if -maxDays ≤ days ∧ days ≤ maxDays then t.add? (-(days * perDay)) else none

/-- Strictly earlier. -/
def before (a b : Instant) : Bool := decide (a.micros < b.micros)

end Instant

end Warrant
