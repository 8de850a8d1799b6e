import Warrant.Json.Reader
import Warrant.Text.Utf8

/-!
# JSON in octets

A JSON text begins with an ASCII character, so its first octets show whether
it is written with one, two or four octets a character, and which comes first.
A byte order mark settles the same question.
-/

namespace Warrant.Json

/-- The encodings of a JSON text; `little` says that the lowest octet comes first. -/
inductive Encoding where
  | utf8
  | utf16 (little : Bool)
  | utf32 (little : Bool)
  deriving DecidableEq, Repr

/-- The encoding of a text and the number of octets of its byte order mark. -/
def detect (octets : List Nat) : Encoding × Nat :=
  match octets with
  | 0 :: 0 :: 0xFE :: 0xFF :: _ => (.utf32 false, 4)
  | 0xFF :: 0xFE :: 0 :: 0 :: _ => (.utf32 true, 4)
  | 0xFE :: 0xFF :: _ => (.utf16 false, 2)
  | 0xFF :: 0xFE :: _ => (.utf16 true, 2)
  | 0xEF :: 0xBB :: 0xBF :: _ => (.utf8, 3)
  | 0 :: 0 :: _ :: _ :: _ => (.utf32 false, 0)
  | 0 :: _ :: _ :: _ :: _ => (.utf16 false, 0)
  | _ :: 0 :: 0 :: 0 :: _ => (.utf32 true, 0)
  | _ :: 0 :: _ :: _ :: _ => (.utf16 true, 0)
  | [0, _] => (.utf16 false, 0)
  | [_, 0] => (.utf16 true, 0)
  | _ => (.utf8, 0)

/-- The numbers of two octets each; a single octet at the end is wrong. -/
def pairs? (little : Bool) : List Nat → Option (List Nat)
  | [] => some []
  | a :: b :: rest =>
      (pairs? little rest).map ((if little then b * 256 + a else a * 256 + b) :: ·)
  | [_] => none

/-- The characters of sixteen-bit units, with a first half held until its second half comes. -/
def units16 : List Nat → (half : Option Nat) → List Char
  | [], half => flush half []
  | n :: rest, half =>
      let (half, taken) := takeUnit n half []
      taken.reverse ++ units16 rest half

/-- The characters of thirty-two-bit units given as pairs of sixteen bits. -/
def units32? (little : Bool) : List Nat → Option (List Char)
  | [] => some []
  | a :: b :: rest =>
      let n := if little then b * 65536 + a else a * 65536 + b
      if n < 0x110000 then (units32? little rest).map (Text.charOf n :: ·) else none
  | [_] => none

/-- The characters of a JSON text in octets. -/
def decode? (octets : List UInt8) : Option (List Char) :=
  let numbers := octets.map UInt8.toNat
  match detect numbers with
  | (.utf8, mark) => Text.Utf8.decode? (octets.drop mark)
  | (.utf16 little, mark) => (pairs? little (numbers.drop mark)).map (units16 · none)
  | (.utf32 little, mark) => (pairs? little (numbers.drop mark)).bind (units32? little)

/-- Reads octets that are one JSON value. -/
def readOctets (octets : List UInt8) : Except Fault Value :=
  match decode? octets with
  | some cs => readChars cs
  | none => .error .malformedOctets

end Warrant.Json
