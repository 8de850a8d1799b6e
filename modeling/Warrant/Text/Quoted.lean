import Warrant.Text.Digit
import Warrant.Text.Half
import Warrant.Text.Visible

/-!
# Quoted text

Inside a longer text, for example the list of actions in an audit description,
a text stands in quotes. The quotes are single unless the text holds a single
quote and no double one. What is not visible, the backslash and the quote in
use are escaped.
-/

namespace Warrant.Text.Quoted

/-- The single quote. -/
def single : Char := '\x27'

/-- The double quote. -/
def double : Char := '\x22'

/-- The character that begins an escape. -/
def escape : Char := '\x5c'

/-- The quote that stands around a text. -/
def quoteFor (cs : List Char) : Char :=
  if cs.contains single && !cs.contains double then double else single

/-- The escape of a character that is not visible, by its number. -/
def encodeNumber (n : Nat) : List Char :=
  if n < 0x100 then escape :: 'x' :: hexDigits 2 n
  else if n < 0x10000 then escape :: 'u' :: hexDigits 4 n
  else escape :: 'U' :: hexDigits 8 n

/-- One character of a quoted text. -/
def encodeChar (quote c : Char) : List Char :=
  if c = quote || c = escape then [escape, c]
  else if c = '\n' then [escape, 'n']
  else if c = '\r' then [escape, 'r']
  else if c = '\t' then [escape, 't']
  else if isVisible c then [c]
  else encodeNumber ((half? c).getD c.toNat)

/-- The text in quotes. -/
def encode (s : String) : String :=
  let cs := s.toList
  let quote := quoteFor cs
  String.ofList (quote :: cs.flatMap (encodeChar quote) ++ [quote])

/-- One octet of a quoted octet string: what is not visible ASCII is escaped. -/
def encodeOctet (quote : Char) (b : UInt8) : List Char :=
  let c := Char.ofNat b.toNat
  if c = quote || c = escape then [escape, c]
  else if c = '\n' then [escape, 'n']
  else if c = '\r' then [escape, 'r']
  else if c = '\t' then [escape, 't']
  else if 32 ≤ b.toNat && b.toNat < 127 then [c]
  else escape :: 'x' :: hexDigits 2 b.toNat

/-- An octet string in quotes, with the letter that tells it from a text. -/
def encodeOctets (octets : List UInt8) : String :=
  let quote := quoteFor (octets.map fun b => Char.ofNat b.toNat)
  String.ofList ('b' :: quote :: octets.flatMap (encodeOctet quote) ++ [quote])

end Warrant.Text.Quoted
