import Warrant.Conditions.Match
import Warrant.Conditions.Resolve
import Warrant.Resource
import Warrant.Rule

/-!
# Abilities

An ability is what one account may do at one moment: the rules of its role with
the templates in their conditions replaced by the account's attributes.

A decision looks at the rules in order and takes those that apply. A forbid
that applies settles the matter wherever it stands. Otherwise the last grant
that applies decides, and without one the answer is no. A rule that cannot be
evaluated for the target does not apply.

A check by subject name has no resource to compare conditions with. A grant
with conditions counts then if some resource could satisfy them, and a forbid
with conditions does not count, for it cannot be known to apply.
-/

namespace Warrant

/-- Runs through rules in order. `inverted` tells forbids from grants, `applies` says which count,
and `granted` is the last grant so far. The answer is whether to allow, and what decided. -/
def settle {α : Type} (inverted applies : α → Bool) (granted : Option α) :
    List α → Bool × Option α
  | [] => (granted.isSome, granted)
  | r :: rest =>
      if applies r then
        if inverted r then (false, some r) else settle inverted applies (some r) rest
      else settle inverted applies granted rest

/-- The outcome of a check, and the rule that decided it. -/
structure Decision where
  allowed : Bool
  rule : Option Rule
  deriving Inhabited

namespace Decision

/-- The reason that the deciding rule gives. -/
def reason (d : Decision) : Value :=
  match d.rule with
  | some r => r.reason
  | none => .null

end Decision

namespace Rule

/-- Whether the conditions of a rule hold: against a resource by comparison, and against a subject
by name only for a grant that can be satisfied. -/
def conditionsHold (r : Rule) (attributes : Value) : Except Fault Bool :=
  if attributes.isNull then .ok (!r.inverted && r.isSatisfiable)
  else Conditions.holds r.conditions attributes

/-- Whether a rule applies to a check, or the fault in evaluating it. -/
def applies? (r : Rule) (action : Value) (target : Target) (field : Value) : Except Fault Bool :=
  if r.coversAction action && r.coversSubject (.text target.subject) && r.coversField field then
    if r.hasConditions then r.conditionsHold target.attributes else .ok true
  else .ok false

/-- Whether a rule applies to a check; one that cannot be evaluated does not. -/
def applies (r : Rule) (action : Value) (target : Target) (field : Value) : Bool :=
  match r.applies? action target field with
  | .ok b => b
  | .error _ => false

/-- The rule for a user: templates replaced, where there are conditions. -/
def forUser (user : Value) (r : Rule) : Rule :=
  if r.hasConditions then { r with conditions := Conditions.resolve user r.conditions } else r

end Rule

/-- The resolved rules of one account. -/
structure Ability where
  rules : List Rule
  deriving Inhabited

namespace Ability

/-- The decision on an action, a subject by name or a resource, and a field, null for none. -/
def decide (a : Ability) (action subject field : Value) : Decision :=
  let target := Target.of subject
  let outcome := settle Rule.inverted (fun r => r.applies action target field) none a.rules
  ⟨outcome.1, outcome.2⟩

/-- Whether an action is allowed. -/
def can (a : Ability) (action subject field : Value) : Bool :=
  (a.decide action subject field).allowed

/-- The position of the rule that decides. -/
def decidingPosition? (a : Ability) (action subject field : Value) : Option Nat :=
  let target := Target.of subject
  let outcome := settle (fun r => r.1.inverted) (fun r => r.1.applies action target field) none
    a.rules.zipIdx
  outcome.2.map Prod.snd

/-- The positions of the rules that cover an action and a subject, whatever their fields and
conditions. -/
def positionsFor (a : Ability) (action subject : Value) : List Nat :=
  (a.rules.zipIdx.filter fun r => r.1.coversAction action && r.1.coversSubject subject).map Prod.snd

/-- The ability of a user with given rules. -/
def ofRules (user : Value) (rules : List Rule) : Ability :=
  ⟨rules.map (Rule.forUser user)⟩

end Ability

/-- The rules of roles, by the id of the role; nothing for a role that is not known. -/
abbrev RuleSource := Value → Option (List Rule)

namespace RuleSource

/-- The ability of an account, if it holds a role and the role is known. -/
def compile (rules : RuleSource) (account : Account) : Option Ability :=
  match account.role with
  | none => none
  | some role => (rules role.id).map (Ability.ofRules account.toValue)

/-- Whether an account may do something. Without an ability it may do nothing. -/
def permits (rules : RuleSource) (account : Account) (action subject field : Value) : Bool :=
  match rules.compile account with
  | none => false
  | some ability => ability.can action subject field

end RuleSource

end Warrant
