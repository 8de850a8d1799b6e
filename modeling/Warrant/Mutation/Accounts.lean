import Warrant.Audit.Record

/-!
# Changing the roles of accounts

An account is given a role that exists, or none at all. Rules belong to roles,
so nothing is loaded again: the account has other rules from the next check on.
-/

namespace Warrant.Mutation

/-- The role that an account is to have, if it is to have one. -/
def newRole : Option Uuid → Work (Option Role)
  | none => return none
  | some id => do return some (← Store.existingRole id)

/-- Writes the role of an account. The result is the account as it was, and its new role. -/
def assign (accountId : Uuid) (roleId : Option Uuid) : Work (Account × Option Role) :=
  Work.asMutation (.reassignRole accountId) <| Work.transact do
    match ← Store.account accountId with
    | none => Work.refuse (.missing (.account accountId))
    | some account =>
        let role ← newRole roleId
        Store.setAccountRole accountId roleId
        return (account, role)

/-- Gives an account another role, or none. -/
def reassignRole (accountId : Uuid) (roleId : Option Uuid) (caller : Caller) : Work Account := do
  let (account, role) ← assign accountId roleId
  let _ ← Audit.record (.reassigned caller (.uuid accountId) account.roleId
    (.ofOption .uuid roleId))
  return { account with role := role.map Role.held }

end Warrant.Mutation
