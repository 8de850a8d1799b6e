import Warrant.Uuid.Parts
import Warrant.Value.Basic

/-!
# Attributes of plain values

A path may go on behind a plain value. A number has its real and its imaginary
part, a whole number is a fraction too, and an identifier has the parts it can
be taken into. The kinds of values have methods besides: a path that ends at the
name of one does lead somewhere, to something that equals nothing else.

Names between double underscores, which everything has for the workings of the
language, are left out.
-/

namespace Warrant.Value

/-- A method, which shows nothing of what it does. -/
def method (className : String) : Value := .object className none [] []

/-! ## Methods -/

/-- The methods that a text and octets have in common. -/
def wordMethods : List String :=
  ["capitalize", "center", "count", "endswith", "expandtabs", "find", "index", "isalnum", "isalpha",
   "isascii", "isdigit", "islower", "isspace", "istitle", "isupper", "join", "ljust", "lower",
   "lstrip", "maketrans", "partition", "removeprefix", "removesuffix", "replace", "rfind", "rindex",
   "rjust", "rpartition", "rsplit", "rstrip", "split", "splitlines", "startswith", "strip",
   "swapcase", "title", "translate", "upper", "zfill"]

/-- The methods of a whole number or a truth value. -/
def wholeMethods : List String :=
  ["as_integer_ratio", "bit_count", "bit_length", "conjugate", "from_bytes", "to_bytes"]

/-- The methods of a plain value. -/
def methods : Value → List String
  | bool _ => wholeMethods
  | int _ => wholeMethods
  | double _ => ["as_integer_ratio", "conjugate", "fromhex", "hex", "is_integer"]
  | text _ =>
      wordMethods ++ ["casefold", "encode", "format", "format_map", "isdecimal", "isidentifier",
        "isnumeric", "isprintable"]
  | bytes _ => wordMethods ++ ["decode", "fromhex", "hex"]
  | list _ =>
      ["append", "clear", "copy", "count", "extend", "index", "insert", "pop", "remove", "reverse",
       "sort"]
  | tuple _ => ["count", "index"]
  | _ => []

/-! ## Parts -/

/-- The parts of a whole number. -/
def wholeParts (n : Int) : List (String × Value) :=
  [("real", int n), ("imag", int 0), ("numerator", int n), ("denominator", int 1)]

/-- Whether an identifier was made in a way that is safe among several processes. Nobody knows. -/
def safety : Value :=
  .object "SafeUUID" none [("name", text "unknown"), ("value", null)] []
    { words := some "SafeUUID.unknown" }

/-- The parts of an identifier. -/
def uuidParts (u : Uuid) : List (String × Value) :=
  [("int", int u.number), ("hex", text u.hex), ("urn", text u.urn), ("bytes", bytes u.octets),
   ("bytes_le", bytes u.octetsLittle),
   ("fields", tuple ([u.timeLow, u.timeMid, u.timeHighVersion, u.sequenceHighVariant, u.sequenceLow,
     u.node].map fun n : Nat => int n)),
   ("time_low", int u.timeLow), ("time_mid", int u.timeMid),
   ("time_hi_version", int u.timeHighVersion),
   ("clock_seq_hi_variant", int u.sequenceHighVariant), ("clock_seq_low", int u.sequenceLow),
   ("node", int u.node), ("time", int u.time), ("clock_seq", int u.sequence),
   ("variant", text u.variant.name), ("version", ofOption int u.version?), ("is_safe", safety)]

/-- The parts of a plain value. -/
def parts : Value → List (String × Value)
  | bool b => wholeParts (if b then 1 else 0)
  | int n => wholeParts n
  | double d => [("real", double d), ("imag", double (.finite false 0))]
  | uuid u => uuidParts u
  | _ => []

/-- The attribute of a plain value: one of its parts, or a method. -/
def plainAttribute? (v : Value) (name : String) : Option Value :=
  match find? name v.parts with
  | some w => some w
  | none =>
      if v.methods.contains name then some (method "builtin_function_or_method") else none

end Warrant.Value
