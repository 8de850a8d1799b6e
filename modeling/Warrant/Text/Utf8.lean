import Warrant.Text.Half

/-!
# Octets to text

Reading octets as UTF-8 can go wrong at any octet, and two callers want two
answers to that. A stored text with a wrong octet is no text at all, though the
octets of a lone half are let through. A wrong octet in an address is shown by
the replacement character, one for each longest run that could still have begun
a character.
-/

namespace Warrant.Text.Utf8

/-- The replacement character. -/
def replacement : Char := Char.ofNat 0xFFFD

/-- What one octet begins: a character of its own, or one that needs so many more octets, the
first of them between two bounds, with the bits gathered so far. -/
inductive Lead where
  | single (c : Char)
  | multi (bits more low high : Nat)
  | wrong

/-- Reads the first octet of a character; `halves` lets those of halves through. -/
def lead (halves : Bool) (b : Nat) : Lead :=
  if b < 0x80 then .single (Char.ofNat b)
  else if 0xC2 ≤ b ∧ b ≤ 0xDF then .multi (b - 0xC0) 1 0x80 0xBF
  else if b = 0xE0 then .multi 0 2 0xA0 0xBF
  else if 0xE1 ≤ b ∧ b ≤ 0xEC then .multi (b - 0xE0) 2 0x80 0xBF
  else if b = 0xED then .multi 0xD 2 0x80 (if halves then 0xBF else 0x9F)
  else if 0xEE ≤ b ∧ b ≤ 0xEF then .multi (b - 0xE0) 2 0x80 0xBF
  else if b = 0xF0 then .multi 0 3 0x90 0xBF
  else if 0xF1 ≤ b ∧ b ≤ 0xF3 then .multi (b - 0xF0) 3 0x80 0xBF
  else if b = 0xF4 then .multi 4 3 0x80 0x8F
  else .wrong

/-- Reads octets, with the character part way through held as its bits, the octets it still
needs and the bounds of the next one. `none` in the answer stands for a wrong run. -/
def scan (halves : Bool) : List Nat → Option (Nat × Nat × Nat × Nat) → List (Option Char)
  | [], none => []
  | [], some _ => [none]
  | b :: rest, none =>
      match lead halves b with
      | .single c => some c :: scan halves rest none
      | .multi bits more low high => scan halves rest (some (bits, more, low, high))
      | .wrong => none :: scan halves rest none
  | b :: rest, some (bits, more, low, high) =>
      if low ≤ b ∧ b ≤ high then
        let bits := bits * 64 + (b - 0x80)
        if more ≤ 1 then some (charOf bits) :: scan halves rest none
        else scan halves rest (some (bits, more - 1, 0x80, 0xBF))
      else
        match lead halves b with
        | .single c => none :: some c :: scan halves rest none
        | .multi bits more low high => none :: scan halves rest (some (bits, more, low, high))
        | .wrong => none :: none :: scan halves rest none

/-- The text of the octets, if there is no wrong one among them. Lone halves are not wrong. -/
def decode? (octets : List UInt8) : Option (List Char) :=
  (scan true (octets.map UInt8.toNat) none).mapM id

/-- The text of the octets, each wrong run shown by one replacement character. -/
def decodeReplacing (octets : List UInt8) : List Char :=
  (scan false (octets.map UInt8.toNat) none).map fun c => c.getD replacement

/-- The octets of one character. -/
def encodeChar (c : Char) : List UInt8 :=
  let n := c.toNat
  if n < 0x80 then [n.toUInt8]
  else if n < 0x800 then [(0xC0 + n / 64).toUInt8, (0x80 + n % 64).toUInt8]
  else if n < 0x10000 then
    [(0xE0 + n / 4096).toUInt8, (0x80 + n / 64 % 64).toUInt8, (0x80 + n % 64).toUInt8]
  else
    [(0xF0 + n / 262144).toUInt8, (0x80 + n / 4096 % 64).toUInt8,
     (0x80 + n / 64 % 64).toUInt8, (0x80 + n % 64).toUInt8]

/-- The octets of a text. -/
def encode (cs : List Char) : List UInt8 := cs.flatMap encodeChar

end Warrant.Text.Utf8
