import Warrant.Text.Blank
import Warrant.Text.Digit
import Warrant.Text.Numeral
import Warrant.Text.Utf8
import Warrant.Value.Basic

/-!
# Fields in addresses and forms

A query and a form are fields joined by ampersands, each a name and a value.
A plus is a blank, and a percent sign with two hexadecimal digits is an octet
of the UTF-8 form of the text; where the digits are missing the sign stands for
itself. A field without a value is kept, one without a name and a value is not.
A name may come more than once.
-/

namespace Warrant.Http.Query

/-- The octet that two hexadecimal digits write. -/
def octet? (a b : Char) : Option UInt8 := do
  let high ← Text.asciiHexDigit? a
  let low ← Text.asciiHexDigit? b
  some (high * 16 + low).toUInt8

/-- The octets of a text in which percent signs stand for octets. -/
def octets : List Char → List UInt8
  | '%' :: a :: b :: rest =>
      match octet? a b with
      | some o => o :: octets rest
      | none => Text.Utf8.encodeChar '%' ++ octets (a :: b :: rest)
  | c :: rest => Text.Utf8.encodeChar c ++ octets rest
  | [] => []

/-- The text that a name or a value stands for. -/
def decode (cs : List Char) : String :=
  let cs := cs.map fun c => if c = '+' then ' ' else c
  String.ofList (if cs.contains '%' then Text.Utf8.decodeReplacing (octets cs) else cs)

/-- Reads one field. -/
def field? (cs : List Char) : Option (String × String) :=
  let (name, value) := Text.cutChars '=' cs
  let value := value.getD []
  if name.isEmpty && value.isEmpty then none else some (decode name, decode value)

/-- Reads fields, in order. -/
def fields (s : String) : List (String × String) :=
  (Text.splitChars '&' s.toList).filterMap field?

/-- The last value of a name. -/
def last? (fields : List (String × String)) (name : String) : Option String :=
  (fields.reverse.find? fun f => f.1 == name).map Prod.snd

/-- Adds a field to a form: the values of a name that comes more than once become a list. -/
def addField (form : List (String × Value)) (f : String × String) : List (String × Value) :=
  match Value.find? f.1 form with
  | none => Value.put f.1 (.text f.2) form
  | some (.list values) => Value.put f.1 (.list (values ++ [.text f.2])) form
  | some v => Value.put f.1 (.list [v, .text f.2]) form

/-- A form as a mapping. -/
def form (s : String) : List (String × Value) := (fields s).foldl addField []

end Warrant.Http.Query
