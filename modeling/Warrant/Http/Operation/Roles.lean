import Warrant.Http.Operation.Basic
import Warrant.Mutation.Roles
import Warrant.View

/-!
# Operations on roles and their permissions
-/

namespace Warrant.Http.Operation

/-! ## Roles -/

/-- Lists the roles. -/
def listRoles : Work Response := do
  let roles ← Work.transact (Store.roles none)
  let items ← Work.ofFault (View.roles roles)
  return .json .ok (.map [("items", .list items)])

/-- Creates a role. -/
def createRole (req : Request) (by_ : Caller) : Work Response :=
  withObject req fun body => do
    let r ← Mutation.createRole (member body "name") (member body "description") by_
    shown .created (View.role r)

/-- Shows a role. -/
def showRole (segment : String) : Work Response :=
  withId segment "Invalid role ID" fun id => do
    match ← Work.transact (Store.role id) with
    | some r => shown .ok (View.role r)
    | none => return .error .notFound "Role not found"

/-- Renames a role or describes it anew. -/
def updateRole (segment : String) (req : Request) (by_ : Caller) : Work Response :=
  withId segment "Invalid role ID" fun id =>
    withObject req fun body => do
      let r ← Mutation.updateRole id (member body "name") (member body "description") by_
      shown .ok (View.role r)

/-- Deletes a role. -/
def deleteRole (segment : String) (by_ : Caller) : Work Response :=
  withId segment "Invalid role ID" fun id => do
    Mutation.deleteRole id by_
    return .empty .noContent

/-! ## Their permissions -/

/-- Adds a permission to a role. -/
def addPermission (segment : String) (req : Request) (by_ : Caller) : Work Response :=
  withId segment "Invalid role ID" fun roleId =>
    withObject req fun body => do
      let rule ← Work.ofResult (RuleInput.ofValue (.map body))
      let p ← Mutation.addPermission roleId rule by_
      shown .created (View.permission p)

/-- Goes on with a role and a permission. -/
def withRoleAndPermission (roleSegment permissionSegment : String)
    (next : Uuid → Uuid → Work Response) : Work Response :=
  let message := "Invalid role or permission ID"
  withId roleSegment message fun roleId =>
    withId permissionSegment message fun permissionId => next roleId permissionId

/-- Changes a permission of a role. -/
def updatePermission (roleSegment permissionSegment : String) (req : Request) (by_ : Caller) :
    Work Response :=
  withRoleAndPermission roleSegment permissionSegment fun roleId permissionId =>
    withObject req fun body => do
      let change ← Work.ofResult (RuleChange.ofValue (.map body))
      let p ← Mutation.updatePermission roleId permissionId change by_
      shown .ok (View.permission p)

/-- Removes a permission from a role. -/
def removePermission (roleSegment permissionSegment : String) (by_ : Caller) : Work Response :=
  withRoleAndPermission roleSegment permissionSegment fun roleId permissionId => do
    let _ ← Mutation.removePermission roleId permissionId by_
    return .empty .noContent

end Warrant.Http.Operation
