import Warrant.Number.Rounding
import Warrant.Text.Half
import Warrant.Text.Numeral
import Warrant.Value.Basic

/-!
# Reading JSON

Conditions may be stored as JSON text, and request bodies are JSON text. Blanks
are the four that JSON names, a control character in a string is an error, and
of members with one name the last counts. Three words stand for the doubles
that have no numeral. A whole number stays whole whatever its size, up to the
limit on digits; with a point or an exponent it is a double. Arrays and objects
stand inside one another up to a limit too, and what goes beyond it is a fault
of its own, whatever would have followed.

The reader walks the characters once. To open an array and to come to its first
item are two steps, so that its fuel is twice the number of characters.
-/

namespace Warrant.Json

/-- The blanks of JSON. -/
def isSpace (c : Char) : Bool := c == ' ' || c == '\t' || c == '\n' || c == '\r'

/-- The characters after leading blanks. -/
def skip (cs : List Char) : List Char := cs.dropWhile isSpace

/-! ## Strings -/

/-- The character of a one-letter escape. -/
def shortEscape? : Char → Option Char
  | '\x22' => some '\x22'
  | '\x5c' => some '\x5c'
  | '/' => some '/'
  | 'b' => some '\x08'
  | 'f' => some '\x0c'
  | 'n' => some '\n'
  | 'r' => some '\r'
  | 't' => some '\t'
  | _ => none

/-- The number of a four-digit escape. -/
def unit? (a b c d : Char) : Option Nat := do
  let a ← Text.asciiHexDigit? a
  let b ← Text.asciiHexDigit? b
  let c ← Text.asciiHexDigit? c
  let d ← Text.asciiHexDigit? d
  some (((a * 16 + b) * 16 + c) * 16 + d)

/-- The characters read so far, last first, after half of a pair that found no other half. -/
def flush (half : Option Nat) (done : List Char) : List Char :=
  match half with
  | some first => Text.charOf first :: done
  | none => done

/-- Takes in a unit: a first half waits, a second half completes the pair, anything else is a
character or a lone half. -/
def takeUnit (n : Nat) (half : Option Nat) (done : List Char) : Option Nat × List Char :=
  if Text.isFirstHalf n then (some n, flush half done)
  else
    match half with
    | some first =>
        if Text.isSecondHalf n then (none, Text.charOf (Text.joinHalves first n) :: done)
        else (none, Text.charOf n :: flush half done)
    | none => (none, Text.charOf n :: done)

/-- Reads a string after its opening quote. -/
def string? : List Char → (half : Option Nat) → (done : List Char) → Option (String × List Char)
  | '\x22' :: rest, half, done => some (String.ofList (flush half done).reverse, rest)
  | '\x5c' :: 'u' :: a :: b :: c :: d :: rest, half, done =>
      match unit? a b c d with
      | some n => let (half, done) := takeUnit n half done; string? rest half done
      | none => none
  | '\x5c' :: c :: rest, half, done =>
      match shortEscape? c with
      | some e => string? rest none (e :: flush half done)
      | none => none
  | c :: rest, half, done =>
      if c.toNat < 32 || c == '\x5c' then none else string? rest none (c :: flush half done)
  | [], _, _ => none

/-! ## Numbers -/

/-- The digits at the front and what follows them. -/
def cutDigits (cs : List Char) : List Char × List Char :=
  (cs.takeWhile Text.isAsciiDigit, cs.dropWhile Text.isAsciiDigit)

/-- The number that digits write. -/
def digitsValue (digits : List Char) : Nat :=
  digits.foldl (fun n c => n * 10 + (c.toNat - 48)) 0

/-- Splits off the digits after a point, if there are any. -/
def cutFraction (cs : List Char) : List Char × List Char :=
  match cs with
  | '.' :: rest =>
      match cutDigits rest with
      | ([], _) => ([], cs)
      | (digits, rest) => (digits, rest)
  | _ => ([], cs)

/-- Splits off an exponent, if there is one. -/
def cutExponent (cs : List Char) : Option Int × List Char :=
  match cs with
  | [] => (none, cs)
  | e :: rest =>
      if e = 'e' ∨ e = 'E' then
        let (negative, rest) := Text.Numeral.cutSign rest
        match cutDigits rest with
        | ([], _) => (none, cs)
        | (digits, rest) => (some (Text.Numeral.signed negative (digitsValue digits)), rest)
      else (none, cs)

/-- Reads a number without its sign. -/
def number (negative : Bool) (cs : List Char) : Except Fault (Value × List Char) :=
  let (whole, rest) :=
    match cs with
    | '0' :: rest => (['0'], rest)
    | _ => cutDigits cs
  if whole.isEmpty then .error .malformedText
  else
    let (fraction, rest) := cutFraction rest
    let (exponent, rest) := cutExponent rest
    if fraction.isEmpty && exponent.isNone then
      if Text.Numeral.maxDecimalDigits < whole.length then .error .unknownValue
      else .ok (.int (Text.Numeral.signed negative (digitsValue whole)), rest)
    else
      let digits := digitsValue (whole ++ fraction)
      .ok (.double (Number.Double.ofDecimal negative digits
        (exponent.getD 0 - fraction.length)), rest)

/-! ## Values -/

/-- The words that are values, each with its value. -/
def words : List (String × Value) :=
  [("null", .null), ("true", .bool true), ("false", .bool false),
   ("NaN", .double .nan), ("Infinity", .double (.infinite false)),
   ("-Infinity", .double (.infinite true))]

/-- Reads a word that is a value. -/
def word? (cs : List Char) : Option (Value × List Char) :=
  words.findSome? fun w => (Text.dropLead? w.1.toList cs).map fun rest => (w.2, rest)

/-- How many arrays and objects can be open at once. Going into one is a call that waits for what
is inside. A thousand calls may wait, and of these the way to the text takes some ten: how many
exactly depends on who reads, so that nothing but fixed texts should depend on this number. -/
def maxLevels : Nat := 990

mutual

/-- Reads a value from its first character on, with so many levels left to go down. -/
def value : (fuel levels : Nat) → List Char → Except Fault (Value × List Char)
  | 0, _, _ => .error .malformedText
  | fuel + 1, levels, cs =>
      match cs with
      | '\x22' :: rest =>
          match string? rest none [] with
          | some (s, rest) => .ok (.text s, rest)
          | none => .error .malformedText
      | '\x7b' :: rest =>
          match levels with
          | 0 => .error .tooDeep
          | levels + 1 =>
              match skip rest with
              | '\x7d' :: rest => .ok (.map [], rest)
              | rest => (entries fuel levels rest).map fun r => (.map (Value.collect r.1), r.2)
      | '[' :: rest =>
          match levels with
          | 0 => .error .tooDeep
          | levels + 1 =>
              match skip rest with
              | ']' :: rest => .ok (.list [], rest)
              | rest => (items fuel levels rest).map fun r => (.list r.1, r.2)
      | cs =>
          match word? cs with
          | some r => .ok r
          | none =>
              match cs with
              | '-' :: rest => number true rest
              | cs => number false cs

/-- Reads the members of an object, from the first character of a member on. -/
def entries : (fuel levels : Nat) → List Char → Except Fault (List (String × Value) × List Char)
  | 0, _, _ => .error .malformedText
  | fuel + 1, levels, '\x22' :: rest =>
      match string? rest none [] with
      | none => .error .malformedText
      | some (key, rest) =>
          match skip rest with
          | ':' :: rest => do
              let (v, rest) ← value fuel levels (skip rest)
              match skip rest with
              | '\x7d' :: rest => .ok ([(key, v)], rest)
              | ',' :: rest => do
                  let (more, rest) ← entries fuel levels (skip rest)
                  .ok ((key, v) :: more, rest)
              | _ => .error .malformedText
          | _ => .error .malformedText
  | _ + 1, _, _ => .error .malformedText

/-- Reads the items of an array, from the first character of an item on. -/
def items : (fuel levels : Nat) → List Char → Except Fault (List Value × List Char)
  | 0, _, _ => .error .malformedText
  | fuel + 1, levels, cs => do
      let (v, rest) ← value fuel levels cs
      match skip rest with
      | ']' :: rest => .ok ([v], rest)
      | ',' :: rest => do
          let (more, rest) ← items fuel levels (skip rest)
          .ok (v :: more, rest)
      | _ => .error .malformedText

end

/-- Reads a text that is one value, with blanks around it. -/
def readChars (cs : List Char) : Except Fault Value := do
  let (v, rest) ← value (2 * cs.length + 1) maxLevels (skip cs)
  if (skip rest).isEmpty then .ok v else .error .malformedText

/-- Reads a text that is one value. -/
def read (s : String) : Except Fault Value := readChars s.toList

end Warrant.Json
