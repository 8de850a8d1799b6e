import Warrant.Uuid.Basic

/-!
# The parts of an identifier

An identifier can be taken apart in several ways: as one number, as octets, and
as the fields that the first kind of identifiers had, a time, a sequence number
and the address of a machine. Every identifier has these fields, whatever it was
made from. What its digits say about how it was made is its variant and, for
the usual variant alone, its version.
-/

namespace Warrant.Uuid

/-- The bits from one place on, so many of them. -/
def bits (u : Uuid) (first length : Nat) : Nat := u.number / Nat.pow 2 first % Nat.pow 2 length

/-- The digits without hyphens. -/
def hex (u : Uuid) : String := String.ofList (Text.hexDigits 32 u.number)

/-- The name of an identifier among the names of resources. -/
def urn (u : Uuid) : String := "urn:uuid:" ++ u.text

/-- The octets, the most significant first. -/
def octets (u : Uuid) : List UInt8 :=
  (List.range 16).map fun i => (u.bits (8 * (15 - i)) 8).toUInt8

/-- The octets with those of the first three fields the least significant first. -/
def octetsLittle (u : Uuid) : List UInt8 :=
  (u.octets.take 4).reverse ++ ((u.octets.drop 4).take 2).reverse ++
    ((u.octets.drop 6).take 2).reverse ++ u.octets.drop 8

/-! ## Fields -/

/-- The low part of the time. -/
def timeLow (u : Uuid) : Nat := u.bits 96 32

/-- The middle part of the time. -/
def timeMid (u : Uuid) : Nat := u.bits 80 16

/-- The high part of the time, and the version above it. -/
def timeHighVersion (u : Uuid) : Nat := u.bits 64 16

/-- The high part of the sequence number, and the variant above it. -/
def sequenceHighVariant (u : Uuid) : Nat := u.bits 56 8

/-- The low part of the sequence number. -/
def sequenceLow (u : Uuid) : Nat := u.bits 48 8

/-- The address of the machine. -/
def node (u : Uuid) : Nat := u.bits 0 48

/-- The time, put together from its parts. -/
def time (u : Uuid) : Nat := u.bits 64 12 * Nat.pow 2 48 + u.timeMid * Nat.pow 2 32 + u.timeLow

/-- The sequence number, put together from its parts. -/
def sequence (u : Uuid) : Nat := u.bits 56 6 * Nat.pow 2 8 + u.sequenceLow

/-! ## Kinds -/

/-- Who laid down how identifiers of this kind are made. -/
inductive Variant where
  | ncs
  | rfc4122
  | microsoft
  | future
  deriving DecidableEq, Repr

/-- What a variant is called. -/
def Variant.name : Variant → String
  | .ncs => "reserved for NCS compatibility"
  | .rfc4122 => "specified in RFC 4122"
  | .microsoft => "reserved for Microsoft compatibility"
  | .future => "reserved for future definition"

/-- The variant: how many of the first bits of the sequence number are set before one that is
not. -/
def variant (u : Uuid) : Variant :=
  if u.bits 63 1 = 0 then .ncs
  else if u.bits 62 1 = 0 then .rfc4122
  else if u.bits 61 1 = 0 then .microsoft
  else .future

/-- The version, which only the usual variant has. -/
def version? (u : Uuid) : Option Nat :=
  match u.variant with
  | .rfc4122 => some (u.bits 76 4)
  | _ => none

end Warrant.Uuid
