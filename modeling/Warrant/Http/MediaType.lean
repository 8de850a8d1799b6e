import Warrant.Number.Reader
import Warrant.Text.Blank
import Warrant.Text.Capital

/-!
# Media types

The content type of a body is looked up among the types that are read here. A
sender may name one of them, or ranges of types with commas between them, each
with parameters after semicolons. A parameter `q` is the quality of a range,
from zero to one; without it the quality is one.

Of the ranges that cover a type, the closest one gives its quality: an exact
main type counts more than an exact subtype, and that more than the absence of
parameters. The type of the greatest quality is chosen, of several the first,
and none if the greatest quality is zero. One malformed range spoils them all.
-/

namespace Warrant.Http

/-- The kinds of body that are read here. -/
inductive MediaType where
  | json
  /-- A body in parts. It is known but is never an object. -/
  | parts
  | form
  deriving DecidableEq, Repr, Inhabited

namespace MediaType

/-- All of them, in the order in which they are preferred. -/
def all : List MediaType := [json, parts, form]

/-- The main type. -/
def mainType : MediaType → String
  | json => "application"
  | parts => "multipart"
  | form => "application"

/-- The subtype. -/
def subtype : MediaType → String
  | json => "json"
  | parts => "form-data"
  | form => "x-www-form-urlencoded"

/-- The name of a type. -/
def name (t : MediaType) : String := t.mainType ++ "/" ++ t.subtype

end MediaType

/-! ## Parameters -/

/-- The pieces between semicolons that do not stand in quotes. A quote after a backslash counts as
text; `last` is the character before. -/
def splitParameters : (quoted : Bool) → (last : Char) → List Char → List (List Char)
  | _, _, [] => [[]]
  | quoted, last, c :: rest =>
      if c = ';' && !quoted then [] :: splitParameters false ';' rest
      else
        match splitParameters (if c = '\x22' && last != '\x5c' then !quoted else quoted) c rest with
        | [] => [[c]]
        | piece :: pieces => (c :: piece) :: pieces

/-- Text with its escaped characters in the place of the escapes: first backslashes, then quotes. -/
def unescape (mark : Char) : List Char → List Char
  | '\x5c' :: c :: rest => if c = mark then c :: unescape mark rest else '\x5c' :: unescape mark (c :: rest)
  | c :: rest => c :: unescape mark rest
  | [] => []

/-- The value of a parameter, out of its quotes. -/
def parameterValue (cs : List Char) : String :=
  match Text.trimBy Text.isBlank cs with
  | '\x22' :: rest =>
      if rest.getLast? = some '\x22' then
        String.ofList (unescape '\x22' (unescape '\x5c' rest.dropLast))
      else String.ofList ('\x22' :: rest)
  | value => String.ofList value

/-- A parameter: its name in small letters, and its value. -/
def parameter? (cs : List Char) : Option (String × String) :=
  match Text.cutChars '=' cs with
  | (name, some value) =>
      some (Text.lowerAscii (String.ofList (Text.trimBy Text.isBlank name)), parameterValue value)
  | (_, none) => none

/-- What stands before the parameters, and the parameters. -/
def cutParameters (s : String) : String × List (String × String) :=
  match splitParameters false ';' s.toList with
  | [] => ("", [])
  | type :: pieces => (Text.trim (String.ofList type), pieces.filterMap parameter?)

/-- The value of a parameter; of several the last counts. -/
def lastParameter? (parameters : List (String × String)) (name : String) : Option String :=
  (parameters.reverse.find? fun p => p.1 == name).map Prod.snd

/-! ## Ranges -/

/-- A range of types: main type and subtype, each a star for any, whether it has parameters, and
its quality in units of the smallest double. -/
structure MediaRange where
  mainType : String
  subtype : String
  isPlain : Bool
  quality : Nat
  deriving Inhabited

namespace MediaRange

/-- The type that stands for any. -/
def any : String := "*"

/-- Reads a quality: a number from zero to one. -/
def quality? (s : String) : Option Nat :=
  match (Number.Double.read? s.toList).bind Number.Double.units? with
  | some n => if 0 ≤ n ∧ n ≤ Number.Double.unitsPerOne then some n.toNat else none
  | none => none

/-- The quality among the parameters, and the best one without it. -/
def qualityOf? (parameters : List (String × String)) : Option Nat :=
  match lastParameter? parameters "q" with
  | some s => quality? s
  | none => some Number.Double.unitsPerOne

/-- Reads a range. A single star is any type. -/
def read? (s : String) : Option MediaRange :=
  let (type, parameters) := cutParameters s
  match Text.cutChars '/' (if type = any then "*/*" else type).toList with
  | (_, none) => none
  | (main, some sub) =>
      (qualityOf? parameters).map fun quality =>
        { mainType := Text.trim (String.ofList main), subtype := Text.trim (String.ofList sub)
          isPlain := parameters.all (·.1 == "q"), quality }

/-- How closely one part of a range covers that of a type; nothing if it does not. -/
def partCloseness? (range type : String) : Option Nat :=
  if range = any then some 0 else if range = type then some 1 else none

/-- How closely a range covers a type; nothing if it does not. -/
def closeness? (r : MediaRange) (t : MediaType) : Option Nat := do
  let main ← partCloseness? r.mainType t.mainType
  let sub ← partCloseness? r.subtype t.subtype
  some (main * 4 + sub * 2 + (if r.isPlain then 1 else 0))

/-- The better of two ranges, each given by closeness and quality: the closer one, of two equally
close ones that of greater quality. -/
def better (a b : Nat × Nat) : Nat × Nat :=
  if a.1 < b.1 || a.1 == b.1 && a.2 < b.2 then b else a

/-- The quality that ranges give to a type. -/
def qualityFor (ranges : List MediaRange) (t : MediaType) : Nat :=
  let covering := ranges.filterMap fun r => (r.closeness? t).map fun n => (n, r.quality)
  (covering.foldl better (0, 0)).2

end MediaRange

namespace MediaType

/-- The type of greatest quality, of several the first. -/
def best (quality : MediaType → Nat) : List MediaType → Option MediaType
  | [] => none
  | t :: rest =>
      match best quality rest with
      | none => if quality t = 0 then none else some t
      | some u => if quality u ≤ quality t then some t else some u

/-- The type that a content type asks for, if it is one of those read here. Without a content type
a body is in JSON. -/
def ofHeader? (contentType : String) : Option MediaType :=
  if contentType = "" then some json
  else
    match (Text.split ',' contentType).mapM MediaRange.read? with
    | some ranges => best (MediaRange.qualityFor ranges) all
    | none => none

end MediaType

/-! ## Bodies in parts -/

/-- Why the content type of a body in parts is not usable. -/
inductive BoundaryError where
  | missing (contentType : String)
  | badLength
  deriving DecidableEq, Repr

/-- The most characters that a boundary has. -/
def maxBoundaryLength : Nat := 70

/-- Looks for the boundary between parts, and for what is wrong with it. -/
def boundaryError? (contentType : String) : Option BoundaryError :=
  match lastParameter? (cutParameters contentType).2 "boundary" with
  | none => some (.missing contentType)
  | some boundary =>
      let length := (Text.dropTrailing Text.isBlank boundary.toList).length
      if 1 ≤ length ∧ length ≤ maxBoundaryLength then none else some .badLength

end Warrant.Http
