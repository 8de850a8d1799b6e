import Warrant.Value.Basic

/-!
# Conditions that cannot hold

A template whose path leads nowhere leaves an unresolved value in the
conditions. Such a value equals nothing, so one anywhere in the tree means that
no resource satisfies the conditions.
-/

namespace Warrant.Value

mutual

/-- Whether an unresolved value stands anywhere in a tree of mappings and sequences. -/
def hasUnresolved : Value → Bool
  | unresolved => true
  | map es => entriesHaveUnresolved es
  | list items => itemsHaveUnresolved items
  | tuple items => itemsHaveUnresolved items
  | _ => false

/-- Whether one of the items has an unresolved value in it. -/
def itemsHaveUnresolved : List Value → Bool
  | [] => false
  | v :: rest => hasUnresolved v || itemsHaveUnresolved rest

/-- Whether the value of one of the entries has an unresolved value in it. -/
def entriesHaveUnresolved : List (String × Value) → Bool
  | [] => false
  | (_, v) :: rest => hasUnresolved v || entriesHaveUnresolved rest

end

end Warrant.Value
