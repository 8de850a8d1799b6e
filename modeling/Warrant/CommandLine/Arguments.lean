import Warrant.Text.Blank
import Warrant.Text.Digit

/-!
# Arguments of a command

A command has options and nothing else. An option may be shortened as long as
only one is meant, and its value follows after an equals sign or as the next
argument. What begins with a hyphen is taken for an option, except a negative
number and what has a blank in it; after two hyphens nothing is.

All arguments are sorted first, so that an ambiguous one is misuse wherever it
stands. Then they are gone through in order, and a call for help ends that.
-/

namespace Warrant.CommandLine

/-- An option: its name, and which values it takes if it takes any. -/
structure OptionSpec where
  name : String
  accepts? : Option (String → Bool)

/-- What an argument is. -/
inductive Argument where
  /-- An option by its full name, and the value that came in the same argument. -/
  | option (name : String) (value : Option String)
  /-- Two hyphens. -/
  | divider
  /-- Something that looks like an option and is none. -/
  | stranger
  | plain (text : String)

/-- What a command is told to do. -/
inductive Call where
  | help
  | misuse
  /-- The options that were given, in order, each with its value. -/
  | given (options : List (String × String))

/-- The short name of the call for help. -/
def shortHelp : String := "-h"

/-- The long name of the call for help. -/
def longHelp : String := "--help"

/-! ## Sorting -/

/-- The names of all options. -/
def names (specs : List OptionSpec) : List String :=
  shortHelp :: longHelp :: specs.map OptionSpec.name

/-- Whether a text begins with another. -/
def beginsWith (lead s : String) : Bool := (Text.dropLead? lead.toList s.toList).isSome

/-- A text cut at its first equals sign. -/
def cutValue (s : String) : String × Option String :=
  let cut := Text.cutChars '=' s.toList
  (String.ofList cut.1, cut.2.map String.ofList)

/-- The options that an argument may be short for, each with the value that comes with it. -/
def candidates (specs : List OptionSpec) (s : String) : List (String × Option String) :=
  if beginsWith "--" s then
    let cut := cutValue s
    ((names specs).filter (beginsWith cut.1)).map fun name => (name, cut.2)
  else
    (names specs).filterMap fun name =>
      if name.toList = s.toList.take 2 then some (name, some (String.ofList (s.toList.drop 2)))
      else if beginsWith s name then some (name, none)
      else none

/-- Whether an argument is a negative number, perhaps before a line end. -/
def isNegativeNumber (s : String) : Bool :=
  match s.toList with
  | '-' :: rest =>
      let digits := if rest.getLast? = some '\n' then rest.dropLast else rest
      !digits.isEmpty && digits.all fun c => (Text.decimalDigit? c).isSome
  | _ => false

/-- Sorts an argument that begins with a hyphen and is no option's full name; nothing if it may
be short for several. -/
def sortShortened (specs : List OptionSpec) (s : String) : Option Argument :=
  match candidates specs s with
  | [(name, value)] => some (.option name value)
  | _ :: _ :: _ => none
  | [] =>
      if isNegativeNumber s || s.toList.contains ' ' then some (.plain s) else some .stranger

/-- Sorts an argument. -/
def sort (specs : List OptionSpec) (s : String) : Option Argument :=
  let cut := cutValue s
  if !beginsWith "-" s || s = "-" then some (.plain s)
  else if (names specs).contains s then some (.option s none)
  else if cut.2.isSome && (names specs).contains cut.1 then some (.option cut.1 cut.2)
  else sortShortened specs s

/-- Sorts arguments; nothing if one of them is ambiguous. -/
def sortAll (specs : List OptionSpec) : List String → Option (List Argument)
  | [] => some []
  | s :: rest =>
      if s = "--" then some (.divider :: rest.map .plain)
      else
        match sort specs s with
        | none => none
        | some a => (sortAll specs rest).map (a :: ·)

/-! ## Going through -/

/-- Whether a call for help may come with what follows its name in the same argument. After the
short name its letter may be repeated. -/
def helpTakes (name : String) : Option String → Bool
  | none => true
  | some rest => name == shortHelp && rest != "" && rest.toList.all (· == 'h')

/-- The acceptance test of an option's values, if it takes any. -/
def accepts? (specs : List OptionSpec) (name : String) : Option (String → Bool) :=
  (specs.find? fun o => o.name == name).bind OptionSpec.accepts?

/-- Goes through sorted arguments. `leftOver` says that there was one that belongs to no option. -/
def interpret (specs : List OptionSpec) (leftOver : Bool) (done : List (String × String)) :
    List Argument → Call
  | [] => if leftOver then .misuse else .given done
  | .option name value :: rest =>
      if name = shortHelp ∨ name = longHelp then if helpTakes name value then .help else .misuse
      else
        match accepts? specs name, value, rest with
        | none, none, rest => interpret specs leftOver (done ++ [(name, "")]) rest
        | none, some _, _ => .misuse
        | some accepts, some v, rest =>
            if accepts v then interpret specs leftOver (done ++ [(name, v)]) rest else .misuse
        | some accepts, none, .plain v :: rest =>
            if accepts v then interpret specs leftOver (done ++ [(name, v)]) rest else .misuse
        | some _, none, _ => .misuse
  | _ :: rest => interpret specs true done rest

/-- What a command is told to do by its arguments. -/
def call (specs : List OptionSpec) (args : List String) : Call :=
  match sortAll specs args with
  | some sorted => interpret specs false [] sorted
  | none => .misuse

/-- The last value of an option. -/
def lastValue? (options : List (String × String)) (name : String) : Option String :=
  (options.reverse.find? fun o => o.1 == name).map Prod.snd

end Warrant.CommandLine
