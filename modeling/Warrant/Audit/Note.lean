import Warrant.Audit.Entry
import Warrant.Value.Text

/-!
# What changes leave in the log

Each kind of change to permissions, roles and accounts has its own note: what
it is about, what was there before and after, and one line for people to read.
A permission that is removed is found under its own id, and its role in the
metadata; one that is added is found under the role.
-/

namespace Warrant.AuditNote

/-- A member of a snapshot in words. -/
def words (snapshot : List (String × Value)) (key : String) : String :=
  ((Value.find? key snapshot).getD .null).display

/-- The id of a role in words, null where it says nothing. -/
def roleText (id : Value) : Value := if id.isTruthy then .text id.display else .null

/-- A permission was added to a role. -/
def granted (caller : Caller) (roleId : Value) (snapshot : List (String × Value)) : AuditNote where
  action := .grantPermission
  entityType := "Permission"
  entityId := some roleId.display
  after := .map snapshot
  description := some ("Granted permission: " ++ words snapshot "action" ++ " on " ++
    words snapshot "subject" ++ " to role " ++ roleId.display)
  caller := caller

/-- A permission was removed from a role. -/
def revoked (caller : Caller) (roleId permissionId : Value) (snapshot : List (String × Value)) :
    AuditNote where
  action := .revokePermission
  entityType := "Permission"
  entityId := some permissionId.display
  before := .map snapshot
  description := some ("Revoked permission: " ++ words snapshot "action" ++ " on " ++
    words snapshot "subject" ++ " from role " ++ roleId.display)
  caller := caller
  metadata := .map [("role_id", .text roleId.display)]

/-- A permission was changed. -/
def permissionChanged (caller : Caller) (permissionId before after : Value) : AuditNote where
  action := .updatePermission
  entityType := "Permission"
  entityId := some permissionId.display
  before := before
  after := after
  description := some ("Updated permission " ++ permissionId.display)
  caller := caller

/-- An account was given another role, or none. -/
def reassigned (caller : Caller) (accountId old new : Value) : AuditNote where
  action := .updateAccountRole
  entityType := "Account"
  entityId := some accountId.display
  before := .map [("role_id", roleText old)]
  after := .map [("role_id", roleText new)]
  description := some ("Changed role for account " ++ accountId.display ++ " from " ++
    (roleText old).display ++ " to " ++ (roleText new).display)
  caller := caller

/-- A role was created. -/
def roleCreated (caller : Caller) (roleId name : Value) : AuditNote where
  action := .createRole
  entityType := "Role"
  entityId := some roleId.display
  after := .map [("name", name)]
  description := some ("Created role: " ++ name.display)
  caller := caller

/-- The name or the description of a role was changed. -/
def roleChanged (caller : Caller) (roleId before after : Value) : AuditNote where
  action := .updateRole
  entityType := "Role"
  entityId := some roleId.display
  before := before
  after := after
  description := some ("Updated role " ++ roleId.display)
  caller := caller

/-- A role was deleted. -/
def roleDeleted (caller : Caller) (roleId name : Value) : AuditNote where
  action := .deleteRole
  entityType := "Role"
  entityId := some roleId.display
  before := .map [("name", name)]
  description := some ("Deleted role: " ++ name.display)
  caller := caller

end Warrant.AuditNote
