import Warrant.Text.Digit
import Warrant.Time.Instant

/-!
# Reading points in time

A written instant is a date, perhaps a time after it, and perhaps an offset
after that. A date is written by month and day or by week and weekday, with
hyphens or without, and the weekday may be left out. One character of any kind
stands between date and time. A time has hours, minutes and seconds, with colons
or without, of which the last may be left out, and a fraction; an offset is
written as a time is, after its sign, or is a single letter for none.

Where the date ends is told by its beginning. Only a date by week leaves a
choice, for the weekday may be missing: what follows the week is then weighed.

Where a written instant must end, a null character ends it too.
-/

namespace Warrant.Instant

/-- Reads exactly `width` ASCII digits. -/
def takeDigits? : (width : Nat) → List Char → (value : Nat) → Option (Nat × List Char)
  | 0, cs, value => some (value, cs)
  | _ + 1, [], _ => none
  | width + 1, c :: rest, value =>
      if Text.isAsciiDigit c then takeDigits? width rest (value * 10 + (c.toNat - 48)) else none

/-- Whether a written instant ends here. -/
def isOver : List Char → Bool
  | [] => true
  | c :: _ => c == '\x00'

/-! ## Dates -/

/-- Reads a hyphen, in a date that has hyphens. -/
def takeHyphen? (hyphens : Bool) (cs : List Char) : Option (List Char) :=
  match hyphens, cs with
  | false, cs => some cs
  | true, '-' :: rest => some rest
  | true, _ => none

/-- Reads week and weekday of a date. -/
def readWeek? (year : Nat) (hyphens : Bool) (cs : List Char) : Option Nat := do
  let (week, cs) ← takeDigits? 2 cs 0
  if cs.isEmpty then Calendar.dayOfWeek? year week 1
  else
    let cs ← takeHyphen? hyphens cs
    let (day, _) ← takeDigits? 1 cs 0
    Calendar.dayOfWeek? year week day

/-- Reads month and day of a date. -/
def readMonth? (year : Nat) (hyphens : Bool) (cs : List Char) : Option Nat := do
  let (month, cs) ← takeDigits? 2 cs 0
  let cs ← takeHyphen? hyphens cs
  let (day, _) ← takeDigits? 2 cs 0
  Calendar.dayOfDate? year month day

/-- Reads a date, as the number of its day. -/
def readDate? (cs : List Char) : Option Nat := do
  let (year, cs) ← takeDigits? 4 cs 0
  let hyphens := cs.head? == some '-'
  let cs ← takeHyphen? hyphens cs
  match cs with
  | 'W' :: rest => readWeek? year hyphens rest
  | cs => readMonth? year hyphens cs

/-- How many characters a date by week without hyphens has, by what follows the week. Several digits
there are those of the time, in pairs, after a digit between date and time; so an even number of
them has the weekday in front. -/
def bareWeekLength (afterWeek : List Char) : Nat :=
  let digits := (afterWeek.takeWhile Text.isAsciiDigit).length
  if digits < 2 then 7 + digits else if digits % 2 = 0 then 8 else 7

/-- How many characters the date at the front has. -/
def dateLength (cs : List Char) : Nat :=
  match cs.drop 4 with
  | '-' :: 'W' :: _ :: _ :: '-' :: _ :: c :: _ => if Text.isAsciiDigit c then 8 else 10
  | '-' :: 'W' :: _ :: _ :: '-' :: _ => 10
  | '-' :: 'W' :: _ => 8
  | '-' :: _ => 10
  | 'W' :: _ :: _ :: rest => bareWeekLength rest
  | _ => 8

/-! ## Times -/

/-- A time of day or an offset as it is written. `isWhole` says that nothing was left over. -/
structure ClockTime where
  hour : Nat := 0
  minute : Nat := 0
  second : Nat := 0
  micros : Nat := 0
  isWhole : Bool := true
  deriving Inhabited

namespace ClockTime

/-- Reads a fraction of a second: up to six digits count, and more are passed over. -/
def readFraction? (t : ClockTime) (cs : List Char) : Option ClockTime := do
  let width := min 6 cs.length
  let (n, rest) ← takeDigits? width cs 0
  let after := rest.dropWhile Text.isAsciiDigit
  some { t with micros := n * Nat.pow 10 (6 - width), isWhole := isOver after }

/-- Where reading goes on after two digits. -/
inductive Next where
  /-- Nothing follows, or a single ASCII character that is left over. -/
  | ended (isWhole : Bool)
  | part (colons : Bool) (rest : List Char)
  | fraction (rest : List Char)
  | wrong

/-- Decides where reading goes on. Colons are not known yet after the hours. -/
def next (colons : Option Bool) : List Char → Next
  | [] => .ended true
  | [c] => if c.toNat < 128 then .ended (isOver [c]) else .wrong
  | c :: rest =>
      let colons := colons.getD (c == ':')
      if colons && c == ':' then .part colons rest
      else if c == '.' || c == ',' then .fraction rest
      else if colons then .wrong
      else .part colons (c :: rest)

/-- Reads a time. -/
def read? (cs : List Char) : Option ClockTime := do
  let (hour, cs) ← takeDigits? 2 cs 0
  match next none cs with
  | .ended isWhole => some { hour, isWhole }
  | .fraction cs => readFraction? { hour } cs
  | .wrong => none
  | .part colons cs => do
      let (minute, cs) ← takeDigits? 2 cs 0
      match next (some colons) cs with
      | .ended isWhole => some { hour, minute, isWhole }
      | .fraction cs => readFraction? { hour, minute } cs
      | .wrong => none
      | .part colons cs => do
          let (second, cs) ← takeDigits? 2 cs 0
          match next (some colons) cs with
          | .ended isWhole => some { hour, minute, second, isWhole }
          | .fraction cs => readFraction? { hour, minute, second } cs
          | .wrong => none
          | .part _ cs => readFraction? { hour, minute, second } cs

/-- The whole seconds of a time. -/
def seconds (t : ClockTime) : Int := t.hour * 3600 + t.minute * 60 + t.second

/-- The microseconds of a time of day, if it is one. -/
def micros? (t : ClockTime) : Option Int :=
  if t.hour < 24 ∧ t.minute < 60 ∧ t.second < 60 then
    some (t.seconds * perSecond + t.micros)
  else none

/-- The microseconds of an offset, if it is less than a day. Less than a second is none. -/
def offset? (t : ClockTime) : Option Int :=
  if t.seconds = 0 then some 0
  else
    let micros := t.seconds * perSecond + t.micros
    if micros < perDay then some micros else none

end ClockTime

/-- The characters that begin an offset. -/
def beginsOffset (c : Char) : Bool := c == '+' || c == '-' || c == 'Z'

/-- Reads an offset; the outer nothing is a wrong one. -/
def readOffset? : List Char → Option (Option Int)
  | [] => some none
  | sign :: rest =>
      if sign = 'Z' then if isOver rest then some (some 0) else none
      else do
        let t ← ClockTime.read? rest
        let micros ← t.offset?
        if t.isWhole then some (some (if sign = '-' then -micros else micros)) else none

/-- Reads what follows a date and the character after it, on a given day. Before an offset something
may be left over. -/
def readTime? (day : Nat) (cs : List Char) : Option Instant := do
  let zone := cs.dropWhile fun c => !beginsOffset c
  let t ← ClockTime.read? (cs.takeWhile fun c => !beginsOffset c)
  let offset ← readOffset? zone
  let micros ← t.micros?
  if zone.isEmpty && !t.isWhole then none
  else some (ofLocal (day * perDay + micros) offset)

/-- Reads a written instant. -/
def read? (s : String) : Option Instant := do
  let cs := s.toList
  let length := dateLength cs
  let day ← readDate? (cs.take length)
  match cs.drop length with
  | [] => some (ofLocal (day * perDay) none)
  | _ :: time => readTime? day time

end Warrant.Instant
