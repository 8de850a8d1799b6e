import Warrant.Path
import Warrant.Text.Small
import Warrant.Value.Text

/-!
# Resources

A check is about a subject by name or about one resource. A resource says what
kind of subject it is: explicitly, by a key of a mapping, or by what its class
declares; failing all that, by the name of its class in small letters. What
conditions are compared with are its attributes.
-/

namespace Warrant.Value

/-- The name of a value's class, in small letters. -/
def className : Value → String
  | null => "nonetype"
  | bool _ => "bool"
  | int _ => "int"
  | double _ => "float"
  | text _ => "str"
  | bytes _ => "bytes"
  | uuid _ => "uuid"
  | list _ => "list"
  | tuple _ => "tuple"
  | map _ => "dict"
  | unresolved => "_unresolved"
  | object name .. => Text.lower name
  | entity kind _ => Text.lower (entityName kind)
  | resource .. => "resourceinstance"

/-- What a value declares its subject to be. -/
def declaredSubject : Value → Option Value
  | map es => find? subjectKey es
  | object _ declared .. => declared
  | _ => none

/-- The kind of subject that a resource is. -/
def subjectType : Value → String
  | resource subject _ => subject.display
  | v =>
      match v.declaredSubject with
      | none => v.className
      | some .null => v.className
      | some declared => declared.display

/-- What conditions are compared with. -/
def attributes : Value → Value
  | resource _ attributes => attributes
  | v => v

end Warrant.Value

namespace Warrant

/-- What a check is about: the name of a subject, and the attributes of the resource in question.
Null attributes stand for no resource in particular. -/
structure Target where
  subject : String
  attributes : Value

namespace Target

/-- A subject by name. -/
def named (subject : String) : Target := ⟨subject, .null⟩

/-- A text names a subject, and anything else is a resource. -/
def of (v : Value) : Target :=
  match v.text? with
  | some name => named name
  | none => ⟨v.subjectType, v.attributes⟩

end Target

end Warrant
