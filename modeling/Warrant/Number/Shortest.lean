import Warrant.Number.Rounding

/-!
# The shortest numeral of a double

A double is written with the fewest digits that read back as the same double.
Reading rounds to nearest, so a numeral reads back exactly if it lies in the
interval between the two half-way points around the value; the ends belong to
the interval if the last bit is even. For one digit, two, and so on, the two
neighbours of the value on that decimal grid are tested, and the first grid
with a neighbour in the interval wins.
-/

namespace Warrant.Number

namespace Double

/-- The numerals that read back as one double: twice the value and twice the two half-way points,
in units, and whether the half-way points themselves round to it. -/
structure Interval where
  low : Nat
  value : Nat
  high : Nat
  closed : Bool

/-- The interval of a positive number of units. Just above a power of two the lower half-way
point is nearer, for the doubles below are twice as dense. -/
def interval (units : Nat) : Interval :=
  let shift := bitLength units - precision
  let spacing := Nat.pow 2 shift
  let significand := units / spacing
  let narrow := significand == Nat.pow 2 (precision - 1) && shift != 0
  { low := if narrow then 2 * units - spacing / 2 else 2 * units - spacing
    value := 2 * units
    high := 2 * units + spacing
    closed := significand % 2 == 0 }

/-- The power of ten of the leading digit of `num / den`: the greatest `e` with
`10 ^ e ≤ num / den`, searched downward from `e`. -/
def leadingExponent (num den : Nat) : (fuel : Nat) → (e : Int) → Int
  | 0, e => e
  | fuel + 1, e =>
      let fits :=
        if 0 ≤ e then den * Nat.pow 10 e.toNat ≤ num else den ≤ num * Nat.pow 10 (-e).toNat
      if fits then e else leadingExponent num den fuel (e - 1)

/-- Whether `n` steps of a grid lie in the interval; a step is `num / den` half units. -/
def Interval.holds (i : Interval) (n num den : Nat) : Bool :=
  let point := n * num
  if i.closed then i.low * den ≤ point && point ≤ i.high * den
  else i.low * den < point && point < i.high * den

/-- The point of a grid in the interval that is nearest to the value, if there is one. -/
def Interval.nearest? (i : Interval) (num den : Nat) : Option Nat :=
  let below := i.value * den / num
  let above := below + 1
  match i.holds below num den, i.holds above num den with
  | false, false => none
  | true, false => some below
  | false, true => some above
  | true, true =>
      let toBelow := i.value * den - below * num
      let toAbove := above * num - i.value * den
      if toBelow < toAbove then some below
      else if toAbove < toBelow then some above
      else some (below + below % 2)

/-- Tries grids of more and more digits. The answer is the digits as a number and the power of
ten of the last one. -/
def shortest (i : Interval) (leading : Int) : (fuel count : Nat) → Nat × Int
  | 0, _ => (0, 0)
  | fuel + 1, count =>
      let step : Int := leading - count
      let num := 2 * unitsPerOne * Nat.pow 10 step.toNat
      let den := Nat.pow 10 (-step).toNat
      match i.nearest? num den with
      | some n => (n, step)
      | none => shortest i leading fuel (count + 1)

/-- The digits of a positive number of units and the power of ten of the last digit. -/
def decimal (units : Nat) : Nat × Int :=
  shortest (interval units) (leadingExponent units unitsPerOne 700 309) 18 0

/-- How numbers are written: below which power of ten without an exponent, and from which
negative one with it. -/
structure Layout where
  positionalBelow : Int
  positionalFrom : Int

/-- Values from `0.0001` to below `10 ^ 16` have no exponent. -/
def layout : Layout := ⟨16, -4⟩

/-- Removes the zeros at the end of the digits; `fuel` bounds their number. -/
def dropZeros : (fuel : Nat) → Nat × Int → Nat × Int
  | 0, d => d
  | fuel + 1, (n, e) => if n ≠ 0 && n % 10 == 0 then dropZeros fuel (n / 10, e + 1) else (n, e)

/-- The exponent after the letter: a sign and at least two digits. -/
def exponentText (e : Int) : List Char :=
  let digits := Nat.toDigits 10 e.natAbs
  (if e < 0 then '-' else '+') :: (if digits.length < 2 then '0' :: digits else digits)

/-- The numeral of a positive number of units. -/
def unitsText (units : Nat) : List Char :=
  let (n, last) := dropZeros 20 (decimal units)
  let digits := Nat.toDigits 10 n
  let leading : Int := last + digits.length - 1
  if layout.positionalFrom ≤ leading ∧ leading < layout.positionalBelow then
    if 0 ≤ last then digits ++ List.replicate last.toNat '0' ++ ['.', '0']
    else if 0 ≤ leading then
      digits.take (leading.toNat + 1) ++ '.' :: digits.drop (leading.toNat + 1)
    else '0' :: '.' :: (List.replicate (-leading - 1).toNat '0' ++ digits)
  else
    match digits with
    | [] => []
    | [d] => d :: 'e' :: exponentText leading
    | d :: rest => d :: '.' :: (rest ++ 'e' :: exponentText leading)

/-- The shortest numeral of a double. -/
def text : Double → String
  | .finite negative units =>
      let digits := if units = 0 then ['0', '.', '0'] else unitsText units
      String.ofList (if negative then '-' :: digits else digits)
  | .infinite false => "inf"
  | .infinite true => "-inf"
  | .nan => "nan"

end Double

end Warrant.Number
