import Warrant.Text.Digit

/-!
# Identifiers

Roles, permissions, accounts and audit entries are named by numbers of 128
bits. The written form is five groups of hexadecimal digits with hyphens
between them, in lower case.
-/

namespace Warrant

/-- How many identifiers there are. -/
def Uuid.count : Nat := Nat.pow 2 128

/-- An identifier: a number of 128 bits. -/
structure Uuid where
  number : Nat
  number_lt : number < Uuid.count
  deriving DecidableEq

namespace Uuid

/-- The identifier with a given number, taken modulo the size of the space. -/
def ofNat (n : Nat) : Uuid := ⟨n % count, Nat.mod_lt _ (by decide)⟩

instance : Inhabited Uuid := ⟨ofNat 0⟩

/-- The digits in groups of eight, four, four, four and twelve. -/
def grouped (digits : List Char) : List Char :=
  digits.take 8 ++ '-' :: (digits.drop 8).take 4 ++ '-' :: (digits.drop 12).take 4 ++
    '-' :: (digits.drop 16).take 4 ++ '-' :: digits.drop 20

/-- The written form. -/
def text (u : Uuid) : String :=
  String.ofList (grouped (Text.hexDigits 32 u.number))

instance : ToString Uuid := ⟨text⟩

/-- The order in which listings by identifier come: that of the numbers. -/
def le (a b : Uuid) : Bool := decide (a.number ≤ b.number)

end Uuid

end Warrant
