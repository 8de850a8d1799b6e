import Warrant.Number.Shortest
import Warrant.Text.Quoted
import Warrant.Value.Basic

/-!
# Values in words

A value that stands inside a message is written in one of two ways. By itself a
text is shown as it is and everything else as a literal; inside a sequence or a
mapping texts are literals too, that is, in quotes. The spellings of null and
of the truth values are those of the messages, not those of JSON.
-/

namespace Warrant.Value

/-- The words between separators. -/
def joined (separator : String) : List String → String
  | [] => ""
  | [s] => s
  | s :: rest => s ++ separator ++ joined separator rest

/-- The name under which an entity is written. -/
def entityName : EntityKind → String
  | .account => "Account"
  | .role => "Role"
  | .permission => "Permission"

mutual

/-- A value as a literal. -/
def literal : Value → String
  | null => "None"
  | bool true => "True"
  | bool false => "False"
  | int n => toString n
  | double d => d.text
  | text s => Text.Quoted.encode s
  | bytes octets => Text.Quoted.encodeOctets octets
  | uuid id => "UUID(" ++ Text.Quoted.encode id.text ++ ")"
  | list items => "[" ++ joined ", " (literals items) ++ "]"
  | tuple [v] => "(" ++ literal v ++ ",)"
  | tuple items => "(" ++ joined ", " (literals items) ++ ")"
  | map es => "\x7b" ++ joined ", " (entryLiterals ": " Text.Quoted.encode es) ++ "\x7d"
  | unresolved => "UNRESOLVED"
  | object className .. => "<" ++ className ++ " object>"
  | entity kind fields => entityName kind ++ "(" ++ joined ", " (entryLiterals "=" id fields) ++ ")"
  | resource subject attributes =>
      "ResourceInstance(subject=" ++ literal subject ++ ", attributes=" ++ literal attributes ++ ")"

/-- Each value as a literal. -/
def literals : List Value → List String
  | [] => []
  | v :: rest => literal v :: literals rest

/-- Each entry as its key, written by `showKey`, a mark and the literal. -/
def entryLiterals (mark : String) (showKey : String → String) :
    List (String × Value) → List String
  | [] => []
  | (k, v) :: rest => (showKey k ++ mark ++ literal v) :: entryLiterals mark showKey rest

end

/-- A value in words: a text or an identifier as it is, an object as its class writes it, anything
else as a literal. -/
def display : Value → String
  | text s => s
  | uuid id => id.text
  | object className declared attributes failing guise =>
      guise.words.getD (literal (object className declared attributes failing guise))
  | v => literal v

end Warrant.Value
