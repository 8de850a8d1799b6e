import Warrant.Text.Blank
import Warrant.Text.Digit

/-!
# Reading whole numbers

The grammar of a numeral is generous: blanks around it, a sign, single
underscores between the digits, digits of any script, and in base sixteen a
`0x` in front. Two limits make it total in practice as well as in theory: a
decimal numeral has at most 4300 digits, and one that is not of this form has
no value.
-/

namespace Warrant.Text.Numeral

/-- Blanks around a numeral. The information separators are not among them. -/
def isPadding (c : Char) : Bool :=
  isBlank c && !(28 ≤ c.toNat && c.toNat ≤ 31)

/-- Reads digits with single underscores between them; `afterDigit` says whether an underscore
may come next. The answer is the value and the number of digits. -/
def digits? (base : Nat) (digit? : Char → Option Nat) :
    List Char → (value count : Nat) → (afterDigit : Bool) → Option (Nat × Nat)
  | [], value, count, afterDigit => if afterDigit then some (value, count) else none
  | c :: rest, value, count, afterDigit =>
      if c = '_' then
        if afterDigit then digits? base digit? rest value count false else none
      else
        match digit? c with
        | some d => digits? base digit? rest (value * base + d) (count + 1) true
        | none => none

/-- Splits off a sign; the flag says that the number is negative. -/
def cutSign : List Char → Bool × List Char
  | '-' :: rest => (true, rest)
  | '+' :: rest => (false, rest)
  | cs => (false, cs)

/-- A number from its sign and size. -/
def signed (negative : Bool) (n : Nat) : Int :=
  if negative then -(n : Int) else n

/-- The most digits that a decimal numeral may have. -/
def maxDecimalDigits : Nat := 4300

/-- Reads a decimal numeral. -/
def readDecimal? (s : String) : Option Int :=
  let (negative, body) := cutSign (trimBy isPadding s.toList)
  match digits? 10 decimalDigit? body 0 0 false with
  | some (n, count) => if count ≤ maxDecimalDigits then some (signed negative n) else none
  | none => none

/-- Drops the `0x` in front of a hexadecimal numeral, and the one underscore that may follow it. -/
def cutHexMark : List Char → List Char
  | '0' :: 'x' :: '_' :: rest => rest
  | '0' :: 'X' :: '_' :: rest => rest
  | '0' :: 'x' :: rest => rest
  | '0' :: 'X' :: rest => rest
  | cs => cs

/-- Reads a hexadecimal numeral. -/
def readHex? (cs : List Char) : Option Int :=
  let (negative, body) := cutSign (trimBy isPadding cs)
  match digits? 16 hexDigit? (cutHexMark body) 0 0 false with
  | some (n, _) => some (signed negative n)
  | none => none

end Warrant.Text.Numeral
