import Warrant.Conditions.Unresolved
import Warrant.Entity
import Warrant.Json.Octets
import Warrant.Value.Equality
import Warrant.Vocabulary

/-!
# Rules

A rule is a permission with its meaning worked out. Conditions and fields that
are stored as JSON text are read; a single action or subject becomes a list of
one; conditions that say nothing become none at all. A permission that cannot
be read this way is a fault, and then no rule of its role is used.

Whether a rule covers a check is decided part by part: action, subject, field.
Conditions come last and belong to abilities.
-/

namespace Warrant

/-- A permission as a rule. Null conditions are none; `fields = none` means every field. -/
structure Rule where
  actions : List Value
  subjects : List Value
  fields : Option (List Value)
  conditions : Value
  inverted : Bool
  reason : Value
  permissionId : Value
  deriving Inhabited

namespace Rule

/-! ## From permissions -/

/-- What was stored, read if it is JSON in a text or in octets. -/
def decode : Value → Except Fault Value
  | .text s => Json.read s
  | .bytes octets => Json.readOctets octets
  | v => .ok v

/-- The members of a part of a rule: none, a single text, or a sequence. -/
def members : Value → Except Fault (List Value)
  | .null => .ok []
  | .text s => .ok [.text s]
  | v => v.items

/-- The fields that a rule is limited to. -/
def fieldMembers : Value → Except Fault (Option (List Value))
  | .null => .ok none
  | v => (members v).map some

/-- The rule that the terms of a permission with an id state. -/
def ofTerms (id : Value) (t : Terms) : Except Fault Rule := do
  let fields ← decode t.fields
  let conditions ← decode t.conditions
  let actions ← members t.action
  let subjects ← members t.subject
  let fields ← fieldMembers fields
  .ok { actions, subjects, fields
        conditions := if conditions.isTruthy then conditions else .null
        inverted := t.inverted.isTruthy
        reason := t.reason
        permissionId := id }

/-- The rule that a permission states. -/
def ofPermission (p : Permission) : Except Fault Rule := ofTerms (.uuid p.id) p.toTerms

/-- The rules of a list of permissions, in order. -/
def ofPermissions : List Permission → Except Fault (List Rule)
  | [] => .ok []
  | p :: rest => do
      let rule ← ofPermission p
      let rules ← ofPermissions rest
      .ok (rule :: rules)

/-! ## Coverage -/

/-- Whether a rule covers an action: by naming it, or all of them. -/
def coversAction (r : Rule) (action : Value) : Bool :=
  action.isAmong r.actions || (Value.text Action.manage.name).isAmong r.actions

/-- Whether a rule covers a subject: by naming it, or all of them. -/
def coversSubject (r : Rule) (subject : Value) : Bool :=
  subject.isAmong r.subjects || (Value.text Subject.everything.name).isAmong r.subjects

/-- Whether a rule covers a field. Null asks for no field in particular: then a grant limited to
some fields still counts, and a forbid limited to some does not. -/
def coversField (r : Rule) (field : Value) : Bool :=
  match r.fields with
  | none => true
  | some fields => if field.isNull then !r.inverted else field.isAmong fields

/-- Whether a rule has conditions. -/
def hasConditions (r : Rule) : Bool := r.conditions.isTruthy

/-- Whether any resource can satisfy the conditions. -/
def isSatisfiable (r : Rule) : Bool := !r.conditions.hasUnresolved

end Rule

end Warrant
