import Warrant.Guard
import Warrant.Text.Blank

/-!
# Routes

Every path that the service answers is one of these routes. A segment of a path
may be anything, the empty text included; what it must be is for the operation
to say. With its route goes the subject that is protected there and, verb by
verb, what the caller must be allowed to do. A verb that asks for nothing is a
verb that nobody may use.
-/

namespace Warrant.Http

/-- Where a request goes. -/
inductive Route where
  | health
  | ready
  | roles
  | role (id : String)
  | rolePermissions (roleId : String)
  | rolePermission (roleId permissionId : String)
  | account (id : String)
  | accountRole (accountId : String)
  | matrix
  | roleMatrix (roleId : String)
  | explanation
  | bulkAdd
  | bulkRemove
  | cacheClear
  | cacheRefresh (roleId : String)
  | auditLog
  | auditLogOfEntity (entityType entityId : String)
  | auditLogOfActor (actorId : String)
  deriving DecidableEq, Repr, Inhabited

namespace Route

/-- The segments of a path, without the slashes in front. -/
def segments (path : String) : List String :=
  (Text.splitChars '/' (path.toList.dropWhile (· == '/'))).map String.ofList

/-- The route of a path. -/
def ofPath? (path : String) : Option Route :=
  match segments path with
  | ["v1", "health"] => some health
  | ["v1", "health", "ready"] => some ready
  | ["v1", "roles"] => some roles
  | ["v1", "roles", id] => some (role id)
  | ["v1", "roles", roleId, "permissions"] => some (rolePermissions roleId)
  | ["v1", "roles", roleId, "permissions", id] => some (rolePermission roleId id)
  | ["v1", "accounts", id] => some (account id)
  | ["v1", "accounts", id, "role"] => some (accountRole id)
  | ["v1", "permission-management", "matrix"] => some matrix
  | ["v1", "permission-management", "matrix", "role", roleId] => some (roleMatrix roleId)
  | ["v1", "permission-management", "test"] => some explanation
  | ["v1", "permission-management", "bulk-add"] => some bulkAdd
  | ["v1", "permission-management", "bulk-remove"] => some bulkRemove
  | ["v1", "permission-management", "cache", "clear"] => some cacheClear
  | ["v1", "permission-management", "cache", "refresh", roleId] => some (cacheRefresh roleId)
  | ["v1", "audit-logs"] => some auditLog
  | ["v1", "audit-logs", "entity", entityType, entityId] =>
      some (auditLogOfEntity entityType entityId)
  | ["v1", "audit-logs", "actor", actorId] => some (auditLogOfActor actorId)
  | _ => none

/-- The subject that is protected on a route. -/
def subject? : Route → Option Subject
  | health => none
  | ready => none
  | roles => some .role
  | role _ => some .role
  | account _ => some .account
  | accountRole _ => some .account
  | auditLog => some .auditLog
  | auditLogOfEntity .. => some .auditLog
  | auditLogOfActor _ => some .auditLog
  | _ => some .permission

/-- A requirement of an action and no more. -/
def needs (action : Action) : Requirement := { action }

/-- What everyone may do. -/
def open? : Option Requirement := some { action := .read, isPublic := true }

/-- What a verb requires on a route. -/
def requirement? (route : Route) (method : String) : Option Requirement :=
  match route, method with
  | health, "GET" => open?
  | ready, "GET" => open?
  | roles, "GET" => some (needs .read)
  | roles, "POST" => some (needs .create)
  | role _, "GET" => some (needs .read)
  | role _, "PATCH" => some (needs .update)
  | role _, "DELETE" => some (needs .delete)
  | rolePermissions _, "POST" => some (needs .create)
  | rolePermission .., "PATCH" => some (needs .update)
  | rolePermission .., "DELETE" => some (needs .delete)
  | account _, "GET" => some { action := .read, checksResource := true }
  | accountRole _, "PUT" => some { action := .update, field := some "role" }
  | matrix, "GET" => some (needs .read)
  | roleMatrix _, "GET" => some (needs .read)
  | explanation, "POST" => some (needs .read)
  | bulkAdd, "POST" => some (needs .create)
  | bulkRemove, "DELETE" => some (needs .delete)
  | cacheClear, "POST" => some (needs .manage)
  | cacheRefresh _, "POST" => some (needs .update)
  | auditLog, "GET" => some (needs .read)
  | auditLogOfEntity .., "GET" => some (needs .read)
  | auditLogOfActor _, "GET" => some (needs .read)
  | _, _ => none

end Route

end Warrant.Http
