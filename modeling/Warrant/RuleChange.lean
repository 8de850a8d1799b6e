import Warrant.RuleInput

/-!
# Changes to rules

A change names the parts of a rule that it replaces and leaves the others as
they are. The parts pass the same checks as those of a new rule. Naming
anything else is refused, whatever the value.
-/

namespace Warrant

/-- The parts to replace. -/
structure RuleEdits where
  action : Option (List Action) := none
  subject : Option (List Subject) := none
  fields : Option (Option (List String)) := none
  conditions : Option (Option (List (String × Value))) := none
  inverted : Option Bool := none
  reason : Option Value := none
  deriving Inhabited

/-- A change to a rule. -/
inductive RuleChange where
  | edits (parts : RuleEdits)
  /-- Names without values. There is nothing in it to check, and it cannot be applied. -/
  | formless
  deriving Inhabited

namespace RuleChange

/-- The parts of a rule that can be replaced. -/
def updatable : List String := ["action", "subject", "fields", "conditions", "inverted", "reason"]

/-- Checks the names in a change: each must be one of a part. -/
def checkNames (names : List Value) : Except Failure Unit :=
  if names.any (!·.isHashable) then .error (.broke .wrongKind)
  else
    match names.filter fun v => !(v.text?.any updatable.contains) with
    | [] => .ok ()
    | unknown =>
        if unknown.all Value.isText then
          let keys := (unknown.filterMap Value.text?).eraseDups
          .error (.refused (.invalid (.notUpdatable (keys.mergeSort fun a b => decide (a ≤ b)))))
        else .error (.broke .wrongKind)

/-- Reads a part if it is there. -/
def readIfPresent {α : Type} (read : Value → Except Failure α) (part : Option Value) :
    Except Failure (Option α) :=
  match part with
  | some v => (read v).map some
  | none => .ok none

/-- Reads the parts to replace. -/
def readEdits (es : List (String × Value)) : Except Failure RuleEdits := do
  let action ← readIfPresent RuleInput.readAction (Value.find? "action" es)
  let subject ← readIfPresent RuleInput.readSubject (Value.find? "subject" es)
  let fields ← readIfPresent RuleInput.readFields (Value.find? "fields" es)
  let conditions ← readIfPresent RuleInput.readConditions (Value.find? "conditions" es)
  .ok { action, subject, fields, conditions
        inverted := (Value.find? "inverted" es).map Value.isTruthy
        reason := Value.find? "reason" es }

/-- Reads a change. Names that come without values are checked too, and then only the reason can
be left as it is. Octets have no names in them. -/
def ofValue (v : Value) : Except Failure RuleChange := do
  let names ← Failure.ofFault v.items
  checkNames names
  match v with
  | .map es => (readEdits es).map edits
  | .bytes _ => .error (.broke .wrongKind)
  | _ => if names.all (·.text? == some "reason") then .ok formless else .error (.broke .wrongKind)

/-- Puts the new parts in the place of the old ones. -/
def applyEdits (parts : RuleEdits) (t : Terms) : Terms :=
  { t with
    action := (parts.action.map RuleInput.storedActions).getD t.action
    subject := (parts.subject.map RuleInput.storedSubjects).getD t.subject
    fields := (parts.fields.map (Value.ofOption .ofTexts)).getD t.fields
    conditions := (parts.conditions.map (Value.ofOption .map)).getD t.conditions
    inverted := (parts.inverted.map .bool).getD t.inverted
    reason := parts.reason.getD t.reason }

/-- Applies a change to what a permission says. -/
def apply (change : RuleChange) (t : Terms) : Except Fault Terms :=
  match change with
  | edits parts => .ok (applyEdits parts t)
  | formless => .error .noAttribute

end RuleChange

end Warrant
