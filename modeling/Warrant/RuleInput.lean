import Warrant.Entity
import Warrant.Failure
import Warrant.Json.Reader

/-!
# Rules to add

A rule arrives as loose data, and only what passes every check here becomes a
permission: known actions and subjects, at least one of each, fields that are
texts, conditions that are a mapping or the JSON text of one. The checks of the
parts stand by themselves, for a change to a rule makes the same ones.
-/

namespace Warrant

/-- A rule that passed the checks. -/
structure RuleInput where
  action : List Action
  subject : List Subject
  fields : Option (List String)
  conditions : Option (List (String × Value))
  inverted : Bool
  reason : Value
  deriving Inhabited

namespace RuleInput

/-! ## The parts -/

/-- The members of a part: none, a single text, or a sequence. -/
def members : Value → Except Failure (List Value)
  | .null => .ok []
  | .text s => .ok [.text s]
  | v => Failure.ofFault v.items

/-- The word of a vocabulary that a value is. -/
def word? {α : Type} (ofName? : String → Option α) (v : Value) : Option α :=
  v.text?.bind ofName?

/-- Reads a part whose members are words of a vocabulary. -/
def readPart {α : Type} (part : RulePart) (ofName? : String → Option α) (v : Value) :
    Except Failure (List α) :=
  match members v with
  | .error e => .error e
  | .ok values =>
      if values.isEmpty then .error (.refused (.invalid (.partEmpty part)))
      else if values.any (!·.isHashable) then .error (.broke .wrongKind)
      else
        match values.filter fun v => (word? ofName? v).isNone with
        | [] => .ok (values.filterMap (word? ofName?))
        | unknown => .error (.refused (.invalid (.partUnknown part unknown)))

/-- Reads actions. -/
def readAction (v : Value) : Except Failure (List Action) := readPart .action Action.ofName? v

/-- Reads subjects. -/
def readSubject (v : Value) : Except Failure (List Subject) := readPart .subject Subject.ofName? v

/-- Reads fields: null, or a sequence of texts. A single text is not a sequence here. -/
def readFields : Value → Except Failure (Option (List String))
  | .null => .ok none
  | .text _ => .error (.refused (.invalid .fieldsNotTexts))
  | v =>
      match v.items with
      | .error e => .error (.broke e)
      | .ok items =>
          if items.all Value.isText then .ok (some (items.filterMap Value.text?))
          else .error (.refused (.invalid .fieldsNotTexts))

/-- Reads conditions: null, a mapping, or the JSON text of a mapping. That a text goes too deep is
not taken for a mistake in it. -/
def readConditions : Value → Except Failure (Option (List (String × Value)))
  | .null => .ok none
  | .map es => .ok (some es)
  | .text s =>
      match Json.read s with
      | .ok (.map es) => .ok (some es)
      | .ok _ => .error (.refused (.invalid .conditionsNotMapping))
      | .error .tooDeep => .error (.broke .tooDeep)
      | .error _ => .error (.refused (.invalid .conditionsNotJson))
  | _ => .error (.refused (.invalid .conditionsNotMapping))

/-! ## The whole -/

/-- Reads the parts of a rule. -/
def readEntries (es : List (String × Value)) : Except Failure RuleInput := do
  let part := fun key => (Value.find? key es).getD .null
  let action ← readAction (part "action")
  let subject ← readSubject (part "subject")
  let fields ← readFields (part "fields")
  let conditions ← readConditions (part "conditions")
  .ok { action, subject, fields, conditions
        inverted := (part "inverted").isTruthy
        reason := part "reason" }

/-- Reads a rule. What is of the wrong kind is refused like what is no rule at all; other faults
are not answered here. -/
def ofValue : Value → Except Failure RuleInput
  | .map es =>
      if (Value.find? "action" es).isNone then
        .error (.refused (.invalid (.partMissing .action)))
      else if (Value.find? "subject" es).isNone then
        .error (.refused (.invalid (.partMissing .subject)))
      else
        match readEntries es with
        | .error (.broke .wrongKind) => .error (.refused (.invalid .ruleNotMapping))
        | r => r
  | _ => .error (.refused (.invalid .ruleNotMapping))

/-- Actions as they are stored. -/
def storedActions (actions : List Action) : Value := .ofTexts (actions.map Action.name)

/-- Subjects as they are stored. -/
def storedSubjects (subjects : List Subject) : Value := .ofTexts (subjects.map Subject.name)

/-- The permission that a rule becomes. -/
def toPermission (input : RuleInput) (id roleId : Uuid) (createdAt : Instant) : Permission where
  id := id
  roleId := roleId
  action := storedActions input.action
  subject := storedSubjects input.subject
  fields := .ofOption .ofTexts input.fields
  conditions := .ofOption .map input.conditions
  inverted := .bool input.inverted
  reason := input.reason
  createdAt := some createdAt

end RuleInput

end Warrant
