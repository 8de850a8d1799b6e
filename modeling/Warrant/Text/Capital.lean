/-!
# Capitals and small letters

Verbs of requests and names of log levels are compared in capitals, and both
are ASCII words. So the only characters that need a capital here are those
whose capitals are ASCII letters: the small ASCII letters, and the few others
in the table. A character whose capital is not ASCII stays as it is, for it
cannot be part of such a word either way.
-/

namespace Warrant.Text

/-- The capitals of a character, where they are ASCII letters. -/
def capitals (c : Char) : List Char :=
  if 'a'.toNat ≤ c.toNat ∧ c.toNat ≤ 'z'.toNat then [Char.ofNat (c.toNat - 32)]
  else
    match c.toNat with
    | 0xDF => ['S', 'S']
    | 0x131 => ['I']
    | 0x17F => ['S']
    | 0xFB00 => ['F', 'F']
    | 0xFB01 => ['F', 'I']
    | 0xFB02 => ['F', 'L']
    | 0xFB03 => ['F', 'F', 'I']
    | 0xFB04 => ['F', 'F', 'L']
    | 0xFB05 => ['S', 'T']
    | 0xFB06 => ['S', 'T']
    | _ => [c]

/-- The text in capitals, as far as they are ASCII letters. -/
def upper (s : String) : String :=
  String.ofList (s.toList.flatMap capitals)

/-- The text with its ASCII capitals made small. -/
def lowerAscii (s : String) : String :=
  String.ofList (s.toList.map Char.toLower)

end Warrant.Text
