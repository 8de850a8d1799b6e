/-!
# What is recorded

The closed set of actions that an entry of the audit log can be about. Changes
to roles and permissions are recorded by this service; the others come from the
programs that share the log.
-/

namespace Warrant

/-- An action in the audit log. -/
inductive AuditAction where
  | login
  | logout
  | loginFailed
  | passwordChanged
  | passwordResetRequested
  | passwordResetCompleted
  | createAccount
  | updateAccount
  | deleteAccount
  | suspendAccount
  | activateAccount
  | emailVerified
  | createRole
  | updateRole
  | deleteRole
  | assignRole
  | revokeRole
  | updateAccountRole
  | grantPermission
  | revokePermission
  | updatePermission
  | exportData
  | importData
  | apiKeyCreated
  | apiKeyRevoked
  | subscriptionCreated
  | subscriptionUpdated
  | subscriptionCancelled
  | paymentSucceeded
  | paymentFailed
  | create
  | read
  | update
  | delete
  deriving DecidableEq, Repr, Inhabited

namespace AuditAction

/-- Every action. -/
def all : List AuditAction :=
  [login, logout, loginFailed, passwordChanged, passwordResetRequested, passwordResetCompleted,
   createAccount, updateAccount, deleteAccount, suspendAccount, activateAccount, emailVerified,
   createRole, updateRole, deleteRole, assignRole, revokeRole, updateAccountRole,
   grantPermission, revokePermission, updatePermission, exportData, importData,
   apiKeyCreated, apiKeyRevoked, subscriptionCreated, subscriptionUpdated, subscriptionCancelled,
   paymentSucceeded, paymentFailed, create, read, update, delete]

/-- The word for an action. -/
def name : AuditAction → String
  | login => "LOGIN"
  | logout => "LOGOUT"
  | loginFailed => "LOGIN_FAILED"
  | passwordChanged => "PASSWORD_CHANGED"
  | passwordResetRequested => "PASSWORD_RESET_REQUESTED"
  | passwordResetCompleted => "PASSWORD_RESET_COMPLETED"
  | createAccount => "CREATE_ACCOUNT"
  | updateAccount => "UPDATE_ACCOUNT"
  | deleteAccount => "DELETE_ACCOUNT"
  | suspendAccount => "SUSPEND_ACCOUNT"
  | activateAccount => "ACTIVATE_ACCOUNT"
  | emailVerified => "EMAIL_VERIFIED"
  | createRole => "CREATE_ROLE"
  | updateRole => "UPDATE_ROLE"
  | deleteRole => "DELETE_ROLE"
  | assignRole => "ASSIGN_ROLE"
  | revokeRole => "REVOKE_ROLE"
  | updateAccountRole => "UPDATE_ACCOUNT_ROLE"
  | grantPermission => "GRANT_PERMISSION"
  | revokePermission => "REVOKE_PERMISSION"
  | updatePermission => "UPDATE_PERMISSION"
  | exportData => "EXPORT_DATA"
  | importData => "IMPORT_DATA"
  | apiKeyCreated => "API_KEY_CREATED"
  | apiKeyRevoked => "API_KEY_REVOKED"
  | subscriptionCreated => "SUBSCRIPTION_CREATED"
  | subscriptionUpdated => "SUBSCRIPTION_UPDATED"
  | subscriptionCancelled => "SUBSCRIPTION_CANCELLED"
  | paymentSucceeded => "PAYMENT_SUCCEEDED"
  | paymentFailed => "PAYMENT_FAILED"
  | create => "CREATE"
  | read => "READ"
  | update => "UPDATE"
  | delete => "DELETE"

/-- The action that a word stands for. -/
def ofName? (s : String) : Option AuditAction := all.find? fun a => a.name == s

/-- The list of actions is complete. -/
theorem mem_all (a : AuditAction) : a ∈ all := by cases a <;> decide

/-- A word stands for the action whose word it is. -/
theorem ofName?_name (a : AuditAction) : ofName? a.name = some a := by cases a <;> decide

end AuditAction

end Warrant
