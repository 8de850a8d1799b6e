import Warrant.Value.Basic

/-!
# Values in a JSON column

A column of kind JSON takes the JSON kinds and nothing else. A tuple is stored
as a list. What has no written form in JSON, an identifier or an object for
example, is a fault wherever it stands in the value.
-/

namespace Warrant.Value

mutual

/-- The value as it is stored, if it has a written form. -/
def stored? : Value → Option Value
  | null => some null
  | bool b => some (bool b)
  | int n => some (int n)
  | double d => some (double d)
  | text s => some (text s)
  | list items => (storedItems? items).map list
  | tuple items => (storedItems? items).map list
  | map es => (storedEntries? es).map map
  | _ => none

/-- The items as they are stored, if each has a written form. -/
def storedItems? : List Value → Option (List Value)
  | [] => some []
  | v :: rest =>
      match stored? v, storedItems? rest with
      | some w, some ws => some (w :: ws)
      | _, _ => none

/-- The entries as they are stored, if each value has a written form. -/
def storedEntries? : List (String × Value) → Option (List (String × Value))
  | [] => some []
  | (k, v) :: rest =>
      match stored? v, storedEntries? rest with
      | some w, some ws => some ((k, w) :: ws)
      | _, _ => none

end

/-- The value as it is stored, or a fault. -/
def stored (v : Value) : Except Fault Value :=
  match v.stored? with
  | some w => .ok w
  | none => .error .wrongKind

end Warrant.Value
