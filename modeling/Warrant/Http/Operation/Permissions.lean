import Warrant.Http.Operation.Basic
import Warrant.View

/-!
# Operations on permissions across roles

The matrix of all cells and that of a role, explanations, changes to several
permissions at once, and the rule cache.
-/

namespace Warrant.Http.Operation

/-! ## Looking -/

/-- Shows the matrix of a role. -/
def showMatrix (segment : String) : Work Response :=
  withId segment "Invalid role ID" fun id => do
    let m ← Matrix.forRole id
    return .json .ok (View.matrix m)

/-- A question about what an account may do. -/
structure Question where
  userId : Uuid
  action : Value
  subject : Value
  field : Value
  data : Value

/-- Whether data of a resource can be used: it is a mapping, or there is none. -/
def isResourceData : Value → Bool
  | .null => true
  | .map _ => true
  | _ => false

/-- Reads a question. -/
def question (body : List (String × Value)) : Except String Question :=
  match ["user_id", "action", "subject"].find? fun key => (Value.find? key body).isNone with
  | some key => .error (missingField key)
  | none =>
      match (member body "user_id").identifier? with
      | none => .error "Invalid user ID"
      | some userId =>
          let data := member body "resource_data"
          if isResourceData data then
            .ok ⟨userId, member body "action", member body "subject", member body "field", data⟩
          else .error "resource_data must be an object"

/-- Answers a question. -/
def explain (req : Request) : Work Response :=
  withObject req fun body =>
    match question body with
    | .error message => return .badRequest message
    | .ok q => do
        let e ← Explanation.forAccount q.userId q.action q.subject q.field q.data
        return .json .ok (View.explanation q.userId q.action q.subject q.field q.data e)

/-! ## Several changes at once -/

/-- Adds several permissions to a role. -/
def addPermissions (req : Request) (by_ : Caller) : Work Response :=
  withObject req fun body =>
    match (member body "role_id").identifier?, member body "permissions" with
    | none, _ => return .badRequest "Invalid role ID"
    | some roleId, .list rules => do
        let results ← Mutation.addPermissions roleId (.list rules) by_
        return .json .ok (View.bulk roleId results)
    | some _, _ => return .badRequest "permissions must be a list"

/-- Removes several permissions from a role. -/
def removePermissions (req : Request) (by_ : Caller) : Work Response :=
  withObject req fun body =>
    match (member body "role_id").identifier?, member body "permission_ids" with
    | none, _ => return .badRequest "Invalid role ID"
    | some roleId, .list values =>
        match values.mapM Value.identifier? with
        | none => return .badRequest "Invalid permission ID"
        | some ids => do
            let results ← Mutation.removePermissions roleId ids by_
            return .json .ok (View.bulk roleId results)
    | some _, _ => return .badRequest "permission_ids must be a list"

/-! ## The rule cache -/

/-- The answer to a reload. -/
def reloaded (message : String) : Response :=
  .json .ok (.map [("success", .bool true), ("message", .text message)])

/-- Loads the rules of all roles. -/
def reloadAll : Work Response := do
  Reload.load none
  return reloaded "Abilities cache cleared successfully"

/-- Loads the rules of one role. -/
def reloadRole (segment : String) : Work Response :=
  withId segment "Invalid role ID" fun id => do
    Reload.invalidate id
    return reloaded ("Role " ++ id.text ++ " ability cache refreshed successfully")

end Warrant.Http.Operation
