/-!
# Blank characters and trimming

Which characters count as blank is a table, and everything that trims text uses
this one: template paths, role names, origin lists. It is wider than the blanks
of a programming language. The ideographic space and the four information
separators are in it; the zero width space and the byte order mark are not.
-/

namespace Warrant.Text

/-- The characters that trimming removes at either end of a text. -/
def isBlank (c : Char) : Bool :=
  (9 ≤ c.toNat && c.toNat ≤ 13) || (28 ≤ c.toNat && c.toNat ≤ 32) ||
  c.toNat == 0x85 || c.toNat == 0xA0 || c.toNat == 0x1680 ||
  (0x2000 ≤ c.toNat && c.toNat ≤ 0x200A) ||
  c.toNat == 0x2028 || c.toNat == 0x2029 || c.toNat == 0x202F ||
  c.toNat == 0x205F || c.toNat == 0x3000

/-- The characters without the blanks at the end. -/
def dropTrailing (blank : Char → Bool) : List Char → List Char
  | [] => []
  | c :: rest =>
      match dropTrailing blank rest with
      | [] => if blank c then [] else [c]
      | kept => c :: kept

/-- The characters without those at either end that satisfy `blank`. -/
def trimBy (blank : Char → Bool) (cs : List Char) : List Char :=
  dropTrailing blank (cs.dropWhile blank)

/-- The text without the blanks at either end. -/
def trim (s : String) : String :=
  String.ofList (trimBy isBlank s.toList)

/-! ## Cutting at a separator -/

/-- The pieces between the separators, in order. There is always at least one. -/
def splitChars (sep : Char) : List Char → List (List Char)
  | [] => [[]]
  | c :: rest =>
      if c = sep then [] :: splitChars sep rest
      else
        match splitChars sep rest with
        | [] => [[c]]
        | piece :: pieces => (c :: piece) :: pieces

/-- The pieces of a text between the separators. -/
def split (sep : Char) (s : String) : List String :=
  (splitChars sep s.toList).map String.ofList

/-- The text before the first separator and, if there is one, the text after it. -/
def cutChars (sep : Char) : List Char → List Char × Option (List Char)
  | [] => ([], none)
  | c :: rest =>
      if c = sep then ([], some rest)
      else
        let cut := cutChars sep rest
        (c :: cut.1, cut.2)

/-- The rest of a text after a known beginning. -/
def dropLead? : List Char → List Char → Option (List Char)
  | [], cs => some cs
  | _ :: _, [] => none
  | l :: lead, c :: cs => if l = c then dropLead? lead cs else none

end Warrant.Text
