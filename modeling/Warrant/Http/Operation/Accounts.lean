import Warrant.Http.Operation.Basic
import Warrant.Mutation.Accounts
import Warrant.Ownership
import Warrant.View

/-!
# Operations on accounts

Whoever may read accounts in general still has to be the account in question,
or to be allowed this very one.
-/

namespace Warrant.Http.Operation

/-- An account as a resource: its attributes, and its real id and role in the place of attributes of
the same names. -/
def accountResource (a : Account) : Except Fault Value :=
  match a.attributes with
  | .map es =>
      .ok (.resource (.text Subject.account.name)
        (.map (Value.put "role_id" a.roleId (Value.put "id" a.id es))))
  | _ => .error .wrongKind

/-- The resource to check, null for an account that does not exist. -/
def checkedResource : Option Account → Except Fault Value
  | some a => accountResource a
  | none => .ok .null

/-- Shows an account to itself, or to whom rules allow it. -/
def showAccount (allowsOverride : Bool) (segment : String) (user : Account) (method : String) :
    Work Response :=
  withId segment "Invalid account ID" fun id => do
    let found ← Work.transact (Store.account id)
    let resource ← Work.ofFault (checkedResource found)
    let requirement : OwnershipRequirement := { ownerPath := some "id", allowsOverride }
    let verdict ← Work.ask fun w => Ownership.check w.cache.source "id" user resource requirement method none
    Work.ofResult verdict
    match found with
    | some a => return .json .ok (View.account a)
    | none => return .error .notFound "Account not found"

/-- The role that a body asks for: none, or one by its identifier. -/
def roleAsked (body : List (String × Value)) : Except String (Option Uuid) :=
  match Value.find? "role_id" body with
  | none => .error (missingField "role_id")
  | some .null => .ok none
  | some v =>
      match v.identifier? with
      | some id => .ok (some id)
      | none => .error "Invalid role ID"

/-- Gives an account another role. -/
def reassignRole (segment : String) (req : Request) (by_ : Caller) : Work Response :=
  withId segment "Invalid account ID" fun id =>
    withContent req fun body =>
      match roleAsked (body.getD []) with
      | .error message => return .badRequest message
      | .ok roleId => do
          let a ← Mutation.reassignRole id roleId by_
          return .json .ok (View.account a)

end Warrant.Http.Operation
