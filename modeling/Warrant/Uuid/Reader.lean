import Warrant.Text.Blank
import Warrant.Text.Numeral
import Warrant.Uuid.Basic

/-!
# Reading identifiers

An identifier is read from more forms than it is written in. Every `urn:` and
then every `uuid:` is removed, wherever it stands; braces are removed at both
ends and hyphens everywhere; what is left must be 32 characters that read as a
hexadecimal numeral.
-/

namespace Warrant.Uuid

/-- The characters without any occurrence of a word, found from the left. `skip` counts the
characters of an occurrence that are still to be left out. -/
def without (word : List Char) : List Char → (skip : Nat) → List Char
  | [], _ => []
  | c :: rest, skip =>
      match skip with
      | n + 1 => without word rest n
      | 0 =>
          if word.isPrefixOf (c :: rest) then without word rest (word.length - 1)
          else c :: without word rest 0

/-- A brace of either kind. -/
def isBrace (c : Char) : Bool := c == '\x7b' || c == '\x7d'

/-- What remains of a text to be read as a number. -/
def bare (cs : List Char) : List Char :=
  (Text.trimBy isBrace (without "uuid:".toList (without "urn:".toList cs 0) 0)).filter (· != '-')

/-- Reads an identifier. -/
def read? (s : String) : Option Uuid :=
  let cs := bare s.toList
  if cs.length = 32 then
    match Text.Numeral.readHex? cs with
    | some n => if h : 0 ≤ n ∧ n.toNat < count then some ⟨n.toNat, h.2⟩ else none
    | none => none
  else none

end Warrant.Uuid
