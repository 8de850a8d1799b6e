import Warrant.Text.Digit

/-!
# Octets in hexadecimal

Octets are written with two digits each, in lower case and without blanks. They
are read in either case, with ASCII blanks between octets but not inside one.
-/

namespace Warrant.Text.Hex

/-- The blanks that may stand between octets. -/
def isSpace (c : Char) : Bool := c == ' ' || (9 ≤ c.toNat && c.toNat ≤ 13)

/-- The octet of two digits. -/
def octet? (a b : Char) : Option UInt8 := do
  let high ← asciiHexDigit? a
  let low ← asciiHexDigit? b
  some (high * 16 + low).toUInt8

/-- Reads octets, with the first digit of one held until its second digit comes. -/
def read? : (first : Option Char) → List Char → Option (List UInt8)
  | none, [] => some []
  | some _, [] => none
  | none, c :: rest => if isSpace c then read? none rest else read? (some c) rest
  | some a, b :: rest =>
      match octet? a b with
      | some o => (read? none rest).map (o :: ·)
      | none => none

/-- The octets that a text writes. -/
def ofText? (s : String) : Option (List UInt8) := read? none s.toList

/-- The written form of octets. -/
def text (octets : List UInt8) : String :=
  String.ofList (octets.flatMap fun b => hexDigits 2 b.toNat)

end Warrant.Text.Hex
