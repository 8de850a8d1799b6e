import Warrant.Path
import Warrant.Value.Equality
import Warrant.Value.Text

/-!
# Matching conditions

Conditions hold for a target if for every key, taken as a path, the value there
is the one expected. Null expects that there is nothing. A mapping expects a
target whose own paths match it, a sequence expects a sequence of the same
length that matches item by item, and a scalar expects an equal scalar.

Values outside this grammar are a fault. It is met only where the walk comes to
them: matching stops at the first key that does not hold.
-/

namespace Warrant.Conditions

/-- Equality of a scalar with what was found. A truth value equals only itself, and identifiers
compare by their text, so that a stored text can name an identifier. -/
def scalarEqual : Value → Value → Bool
  | .bool a, .bool b => a == b
  | .bool _, _ => false
  | _, .bool _ => false
  | .uuid a, v => a.text == v.display
  | v, .uuid b => v.display == b.text
  | v, w => v.equal w

/-- The items of a list or tuple. Text and octets are no sequences here. -/
def sequence? : Value → Option (List Value)
  | .list items => some items
  | .tuple items => some items
  | _ => none

/-- A scalar against what was found. -/
def scalarMatches (expected actual : Value) : Except Fault Bool :=
  .ok (!actual.isUnresolved && scalarEqual expected actual)

mutual

/-- Whether every entry holds for the target. -/
def entriesMatch : List (String × Value) → Value → Except Fault Bool
  | [], _ => .ok true
  | (path, expected) :: rest, target =>
      match target.walk path with
      | .error e => .error e
      | .ok actual =>
          match valueMatches expected actual with
          | .ok true => entriesMatch rest target
          | r => r

/-- Whether what was found is what was expected. -/
def valueMatches : Value → Value → Except Fault Bool
  | .unresolved, _ => .ok false
  | .null, actual => .ok actual.isUnresolved
  | .map es, actual => if actual.isUnresolved then .ok false else entriesMatch es actual
  | .list es, actual =>
      match sequence? actual with
      | some as => if es.length = as.length then itemsMatch es as else .ok false
      | none => .ok false
  | .tuple es, actual =>
      match sequence? actual with
      | some as => if es.length = as.length then itemsMatch es as else .ok false
      | none => .ok false
  | .text s, actual => scalarMatches (.text s) actual
  | .int n, actual => scalarMatches (.int n) actual
  | .double d, actual => scalarMatches (.double d) actual
  | .bool b, actual => scalarMatches (.bool b) actual
  | .uuid id, actual => scalarMatches (.uuid id) actual
  | .bytes _, _ => .error .malformedCondition
  | .object .., _ => .error .malformedCondition
  | .entity .., _ => .error .malformedCondition
  | .resource .., _ => .error .malformedCondition

/-- Whether the items match one by one, as far as both sequences go. -/
def itemsMatch : List Value → List Value → Except Fault Bool
  | e :: es, a :: as =>
      match valueMatches e a with
      | .ok true => itemsMatch es as
      | r => r
  | _, _ => .ok true

end

/-- Whether the conditions hold for the target. Conditions that are no mapping are a fault. -/
def holds (conditions target : Value) : Except Fault Bool :=
  match conditions with
  | .map es => entriesMatch es target
  | _ => .error .noAttribute

end Warrant.Conditions
