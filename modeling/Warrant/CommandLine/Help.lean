import Warrant.Text.Numeral

/-!
# How a command is called

A call for help is answered with three parts: a line that shows the command
with its options, a sentence about what it does, and a list of the options with
what each is for. All of it is laid out for the width of the terminal, as the
environment tells it. Options of the first line stand below each other beside
the name of the command, or below the name where that takes up too much room.
What an option is for stands beside it, in a column of its own, or below it
where the option is too long for the column before.
-/

namespace Warrant.CommandLine

/-- An option as it is listed: how it is written, its place in the first line, and what it is
for. -/
structure OptionHelp where
  written : String
  usage : String
  purpose : String

/-- What there is to tell about a command. -/
structure CommandHelp where
  name : String
  purpose : String
  options : List OptionHelp

namespace Help

/-! ## Widths -/

/-- The width of a terminal that does not tell it. -/
def defaultColumns : Nat := 80

/-- The width of the terminal: a positive whole number in the variable for it. -/
def columns (environment : List (String × String)) : Nat :=
  match (environment.lookup "COLUMNS").bind Text.Numeral.readDecimal? with
  | some n => if 0 < n then n.toNat else defaultColumns
  | none => defaultColumns

/-- The width that is written to: two columns stay free. -/
def textWidth (columns : Nat) : Nat := columns - 2

/-- The least width of a column of text. -/
def leastWidth : Nat := 11

/-- The indentation of the list of options. -/
def indent : Nat := 2

/-- The greatest distance from the left at which purposes begin. -/
def maxPurposePosition (width : Nat) : Nat := min 24 (max (width - 20) (2 * indent))

/-- The distance from the left at which purposes begin: two columns after the longest option, if
that is not too far. -/
def purposePosition (width : Nat) (options : List OptionHelp) : Nat :=
  let longest := options.foldl (fun n o => max n (o.written.length + indent)) 0
  min (longest + 2) (maxPurposePosition width)

/-! ## Lines -/

/-- So many blanks. -/
def blanks (n : Nat) : String := String.ofList (List.replicate n ' ')

/-- Parts put into lines one after the other. `line` is the line so far, last part first, and
`used` the columns it takes, without the blank that comes next. A line has at least one part. -/
def fill (width lead : Nat) : (line : List String) → (used : Nat) → List String → List (List String)
  | line, _, [] => if line.isEmpty then [] else [line.reverse]
  | line, used, part :: rest =>
      if width < used + 1 + part.length && !line.isEmpty then
        line.reverse :: fill width lead [part] (lead + part.length) rest
      else fill width lead (part :: line) (used + 1 + part.length) rest

/-- A text broken into lines of a width, between words. -/
def wrapped (width : Nat) (words : List String) : List String :=
  match words with
  | [] => []
  | first :: rest => (fill width 0 [first] first.length rest).map (String.intercalate " ")

/-- The words of a text. -/
def words (s : String) : List String := Text.split ' ' s

/-! ## Parts -/

/-- What the first line begins with. -/
def usageLead : String := "usage: "

/-- The parts of the first line below each other, when they do not fit beside each other. -/
def brokenUsage (width : Nat) (name : String) (parts : List String) : String :=
  let lead := usageLead.length
  if 4 * (lead + name.length) ≤ 3 * width then
    let beside := lead + name.length + 1
    let lines := fill width beside [name] (lead + name.length) parts
    String.intercalate ("\n" ++ blanks beside) (lines.map (String.intercalate " "))
  else
    let lines := fill width lead [] (lead - 1) parts
    String.intercalate ("\n" ++ blanks lead) (name :: lines.map (String.intercalate " "))

/-- The command with its options. -/
def usage (width : Nat) (c : CommandHelp) : String :=
  let parts := c.options.map OptionHelp.usage
  let line := String.intercalate " " (c.name :: parts)
  usageLead ++
    (if usageLead.length + line.length ≤ width then line else brokenUsage width c.name parts)

/-- An option and what it is for. -/
def option (width position : Nat) (o : OptionHelp) : String :=
  let lines := wrapped (max (width - position) leastWidth) (words o.purpose)
  let purpose := String.intercalate ("\n" ++ blanks position) lines
  let room := position - 2 * indent
  let gap :=
    if o.written.length ≤ room then blanks (room - o.written.length + 2)
    else "\n" ++ blanks position
  blanks indent ++ o.written ++ gap ++ purpose ++ "\n"

/-- The whole answer to a call for help. -/
def text (environment : List (String × String)) (c : CommandHelp) : String :=
  let width := textWidth (columns environment)
  let position := purposePosition width c.options
  usage width c ++ "\n\n" ++ String.intercalate "\n" (wrapped (max width leastWidth) (words c.purpose)) ++
    "\n\noptions:\n" ++ String.join (c.options.map (option width position))

end Help

end Warrant.CommandLine
