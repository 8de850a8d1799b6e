import Warrant.Number.Rounding
import Warrant.Text.Numeral

/-!
# Reading real numbers

A numeral may have a sign, a fraction and an exponent, with digits before the
point or after it or both. Digits are of any script, with single underscores
between them. Its value is the double nearest to it.
-/

namespace Warrant.Number.Double

/-- Whether a character belongs to a run of digits. -/
def isRunChar (c : Char) : Bool := c == '_' || (Text.decimalDigit? c).isSome

/-- The value and the length of the run of digits at the front, and what follows it; nothing if an
underscore is out of place. The run may be empty. -/
def takeRun? (cs : List Char) : Option ((Nat × Nat) × List Char) :=
  let run := cs.takeWhile isRunChar
  let rest := cs.dropWhile isRunChar
  if run.isEmpty then some ((0, 0), rest)
  else (Text.Numeral.digits? 10 Text.decimalDigit? run 0 0 false).map (·, rest)

/-- Reads the run of digits after a point, if there is one. -/
def takeFraction? : List Char → Option ((Nat × Nat) × List Char)
  | '.' :: rest => takeRun? rest
  | cs => some ((0, 0), cs)

/-- Reads an exponent to the end, if there is one. -/
def readExponent? : List Char → Option Int
  | [] => some 0
  | e :: rest =>
      if e = 'e' ∨ e = 'E' then do
        let (negative, rest) := Text.Numeral.cutSign rest
        let ((n, count), rest) ← takeRun? rest
        if count ≠ 0 ∧ rest.isEmpty then some (Text.Numeral.signed negative n) else none
      else none

/-- Reads a numeral. -/
def read? (cs : List Char) : Option Double := do
  let (negative, cs) := Text.Numeral.cutSign cs
  let ((whole, wholeCount), cs) ← takeRun? cs
  let ((fraction, fractionCount), cs) ← takeFraction? cs
  let exponent ← readExponent? cs
  if wholeCount + fractionCount = 0 then none
  else
    some (ofDecimal negative (whole * Nat.pow 10 fractionCount + fraction)
      (exponent - fractionCount))

end Warrant.Number.Double
