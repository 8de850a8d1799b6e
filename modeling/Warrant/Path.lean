import Warrant.Text.Blank
import Warrant.Value.Attribute

/-!
# Paths

A path is a text of hops with dots between them. Each hop reads a key of a
mapping or an attribute of anything else; plain values have attributes too. A
path that meets nothing or null on its way, or ends in null, is unresolved: so
"absent" and "null" are one thing to a condition, and never equal to anything.

Reading an attribute may fail, and then the walk fails with it.
-/

namespace Warrant

namespace Value

/-- The attribute that any object shows as the subject its class declares. -/
def subjectKey : String := "__subject__"

/-- The method of a role or a permission that tells what it says. -/
def snapshotKey : String := "snapshot"

/-- Names that are never looked up among an account's open attributes. -/
def isReserved (name : String) : Bool :=
  (Text.dropLead? "__".toList name.toList).isSome || name == "attributes"

/-- Reads a name among the open attributes of an account, where its own fields have none. -/
def openAttribute? (attributes : Value) (name : String) : Except Fault (Option Value) :=
  if isReserved name then .ok none
  else
    match attributes with
    | map es => .ok (find? name es)
    | _ => .error .wrongKind

/-- The id of the role among the fields of an account, null without a role. -/
def heldRoleId (fields : List (String × Value)) : Value :=
  match find? "role" fields with
  | some (entity _ role) => (find? "id" role).getD null
  | _ => null

/-- The attribute of an account: a field, the id of its role, or an open attribute. -/
def accountAttribute? (fields : List (String × Value)) (name : String) :
    Except Fault (Option Value) :=
  match find? name fields with
  | some v => .ok (some v)
  | none =>
      if name = "role_id" then .ok (some (heldRoleId fields))
      else openAttribute? ((find? "attributes" fields).getD null) name

/-- The attribute of a name, if there is one. A mapping has keys in the place of attributes. -/
def attribute? (v : Value) (name : String) : Except Fault (Option Value) :=
  match v with
  | map es => .ok (find? name es)
  | object _ declared attributes failing _ =>
      if failing.contains name then .error .attributeFailed
      else .ok (find? name attributes <|> if name = subjectKey then declared else none)
  | entity .account fields => accountAttribute? fields name
  | entity _ fields =>
      .ok (find? name fields <|> if name = snapshotKey then some (method "method") else none)
  | resource subject attributes =>
      .ok (if name = "subject" then some subject
        else if name = "attributes" then some attributes else none)
  | v => .ok (v.plainAttribute? name)

/-- Reads one hop. What is not there is unresolved. -/
def lookup (v : Value) (name : String) : Except Fault Value :=
  (v.attribute? name).map fun found => found.getD unresolved

/-- The end of a walk: null is unresolved. -/
def orUnresolved : Value → Value
  | null => unresolved
  | v => v

/-- Walks the hops one by one. -/
def walkHops : (hops : List String) → Value → Except Fault Value
  | [], v => .ok v.orUnresolved
  | hop :: hops, v =>
      if v.isNull || v.isUnresolved then .ok unresolved
      else
        match v.lookup hop with
        | .ok w => walkHops hops w
        | .error e => .error e

/-- Walks a path. -/
def walk (v : Value) (path : String) : Except Fault Value :=
  walkHops (Text.split '.' path) v

/-- An id is a single hop away. -/
theorem walk_id (v : Value) : v.walk "id" = walkHops ["id"] v := by
  have hhops : Text.split '.' "id" = ["id"] := by decide +kernel
  rw [walk, hhops]

end Value

end Warrant
