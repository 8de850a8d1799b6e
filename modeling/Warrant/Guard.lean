import Warrant.Failure
import Warrant.Ability

/-!
# The guard

Before an operation runs, the guard checks what the operation requires: an
action on a kind of subject, perhaps on one field. It knows no resource yet, so
its yes is only a first one; where the operation says so, a check of the
resource itself must follow.
-/

namespace Warrant

/-- What an operation requires of the acting account. Without a subject of its own it takes the one
that goes with the operation. -/
structure Requirement where
  action : Action
  subject : Option Subject := none
  field : Option String := none
  checksResource : Bool := false
  isPublic : Bool := false
  deriving Inhabited

/-- What the guard lets through: the subject that was checked, and whether the resource must be
checked too. -/
structure Clearance where
  subject : Option Subject
  needsOwnershipCheck : Bool
  deriving Inhabited

namespace Guard

/-- Lets an account through to an operation, or refuses it. -/
def authorize (rules : RuleSource) (user : Option Account) (r : Requirement)
    (default : Option Subject) : Except Refusal Clearance :=
  let subject := r.subject <|> default
  if r.isPublic then .ok ⟨subject, false⟩
  else
    match user with
    | none => .error .notAuthenticated
    | some account =>
        match subject with
        | none => .error .subjectUndefined
        | some s =>
            if rules.permits account (.text r.action.name) (.text s.name)
                (.ofOption .text r.field) then
              .ok ⟨subject, r.checksResource⟩
            else .error (.denied r.action s r.field)

end Guard

end Warrant
