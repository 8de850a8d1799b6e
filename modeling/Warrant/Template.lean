import Warrant.Text.Blank

/-!
# Templates

A template stands for an attribute of the acting user. As a condition value it
is a whole text: a dollar sign and an opening brace, a path, a closing brace,
and perhaps one line end after it. Diagnostics look for templates anywhere in a
text, and there a template ends at the first brace that can close it.

The two readings differ. A whole template may have braces inside its path, and an
embedded one never reaches past the next closing brace.
-/

namespace Warrant.Template

/-- The brace that closes a template. -/
def close : Char := '\x7d'

/-- The characters that open a template. -/
def opening : List Char := ['$', '\x7b']

/-- The characters before a brace that is the last character, or the last before a final line
end. No line end comes earlier. -/
def beforeClose? : List Char → Option (List Char)
  | [] => none
  | c :: rest =>
      if c = '\n' then none
      else if c = close ∧ (rest = [] ∨ rest = ['\n']) then some []
      else (beforeClose? rest).map (c :: ·)

/-- The path of a text that is a template as a whole. -/
def path? (s : String) : Option String :=
  match Text.dropLead? opening s.toList with
  | none => none
  | some body =>
      match beforeClose? body with
      | some (c :: cs) => some (String.ofList (c :: cs))
      | _ => none

/-- The characters before the next closing brace, if it comes before a line end. -/
def untilClose? : List Char → Option (List Char)
  | [] => none
  | c :: rest =>
      if c = close then some []
      else if c = '\n' then none
      else (untilClose? rest).map (c :: ·)

/-- The path of a template that begins here, after its opening. It has a first character, whatever
that is, and goes on to the next closing brace. -/
def embeddedPath? : List Char → Option (List Char)
  | [] => none
  | c :: rest => if c = '\n' then none else (untilClose? rest).map (c :: ·)

/-- The paths of the templates in a text, in order. `skip` counts the characters of a template
that are still to be passed over. -/
def embedded : List Char → (skip : Nat) → List (List Char)
  | [], _ => []
  | c :: rest, skip =>
      match skip with
      | n + 1 => embedded rest n
      | 0 =>
          match (Text.dropLead? opening (c :: rest)).bind embeddedPath? with
          | some path => path :: embedded rest (path.length + 2)
          | none => embedded rest 0

/-- The paths of the templates in a text, trimmed. -/
def paths (s : String) : List String :=
  (embedded s.toList 0).map fun path => String.ofList (Text.trimBy Text.isBlank path)

/-- The first hop that a path may have to say that it starts at the user. -/
def userHop : List Char := "user.".toList

/-- The path to walk from the user: trimmed, and without one leading hop to the user. -/
def fromUser (path : String) : String :=
  let cs := Text.trimBy Text.isBlank path.toList
  String.ofList ((Text.dropLead? userHop cs).getD cs)

end Warrant.Template
