import Warrant.Number.Shortest
import Warrant.Value.Text

/-!
# Writing JSON

A value is written on one line, members in their order, without blanks. Text is
written as it is, apart from the quote, the backslash, control characters and
lone halves. Only the JSON kinds have a written form; anything else is written as null.
-/

namespace Warrant.Json

/-- One character of a string. -/
def writeChar (c : Char) : List Char :=
  if c = '\x22' || c = '\x5c' then ['\x5c', c]
  else if c.toNat < 32 then '\x5c' :: 'u' :: Text.hexDigits 4 c.toNat
  else
    match Text.half? c with
    | some n => '\x5c' :: 'u' :: Text.hexDigits 4 n
    | none => [c]

/-- A string. -/
def writeText (s : String) : String :=
  String.ofList ('\x22' :: s.toList.flatMap writeChar ++ ['\x22'])

/-- A number. The words for what is not finite are those that the reader knows. -/
def writeDouble : Number.Double → String
  | .infinite false => "Infinity"
  | .infinite true => "-Infinity"
  | .nan => "NaN"
  | d => d.text

mutual

/-- A value. -/
def write : Value → String
  | .bool true => "true"
  | .bool false => "false"
  | .int n => toString n
  | .double d => writeDouble d
  | .text s => writeText s
  | .list items => "[" ++ Value.joined "," (writeItems items) ++ "]"
  | .tuple items => "[" ++ Value.joined "," (writeItems items) ++ "]"
  | .map es => "\x7b" ++ Value.joined "," (writeEntries es) ++ "\x7d"
  | _ => "null"

/-- The items of a sequence. -/
def writeItems : List Value → List String
  | [] => []
  | v :: rest => write v :: writeItems rest

/-- The members of a mapping. -/
def writeEntries : List (String × Value) → List String
  | [] => []
  | (k, v) :: rest => (writeText k ++ ":" ++ write v) :: writeEntries rest

end

end Warrant.Json
