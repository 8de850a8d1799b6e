/-!
# Lone halves

An escape in JSON and a unit of sixteen bits can be one half of a pair whose
other half is missing. Such a half is no character, yet it is a part of the text
it stands in, and different from every other part. Texts are sequences of
characters here, so a lone half is held as a stand-in: a code point of the
thirteenth plane, to which no character is assigned. A text with a lone half in
it has no octets, and cannot be sent.
-/

namespace Warrant.Text

/-- The distance from a half to its stand-in. -/
def standInOffset : Nat := 0xD0000

/-- Whether a number is that of a half. -/
def isHalf (n : Nat) : Bool := decide (0xD800 ≤ n) && decide (n < 0xE000)

/-- Whether a number is that of a first half. -/
def isFirstHalf (n : Nat) : Bool := decide (0xD800 ≤ n) && decide (n < 0xDC00)

/-- Whether a number is that of a second half. -/
def isSecondHalf (n : Nat) : Bool := decide (0xDC00 ≤ n) && decide (n < 0xE000)

/-- The number of the character that two halves make. -/
def joinHalves (first second : Nat) : Nat :=
  0x10000 + (first - 0xD800) * 0x400 + (second - 0xDC00)

/-- The character of a number; of a half, its stand-in. -/
def charOf (n : Nat) : Char := Char.ofNat (if isHalf n then standInOffset + n else n)

/-- The half that a character stands for. -/
def half? (c : Char) : Option Nat :=
  if isHalf (c.toNat - standInOffset) then some (c.toNat - standInOffset) else none

/-- Whether there is a lone half in a text. -/
def hasHalf (s : String) : Bool := s.toList.any fun c => (half? c).isSome

/-- The stand-in of a half stands for that half. -/
theorem half?_charOf {n : Nat} (h : isHalf n = true) : half? (charOf n) = some n := by
  have bounds : 0xD800 ≤ n ∧ n < 0xE000 := by simpa [isHalf] using h
  have valid : (standInOffset + n).isValidChar := by
    simp only [standInOffset, Nat.isValidChar]
    omega
  have number : (charOf n).toNat = standInOffset + n := by
    rw [charOf, if_pos h, Char.ofNat, dif_pos valid]
    rfl
  simp [half?, number, h]

end Warrant.Text
