import Warrant.Http.Cors
import Warrant.Http.Identity
import Warrant.Http.Operation.Accounts
import Warrant.Http.Operation.AuditLog
import Warrant.Http.Operation.Health
import Warrant.Http.Operation.Permissions
import Warrant.Http.Operation.Roles
import Warrant.Http.Route
import Warrant.Settings

/-!
# The service over HTTP

A request is first given to its sender, then to its route, then to the guard,
and only what the guard lets through reaches an operation. Whatever comes of it
is an answer: refusals say why, and faults do not. Calls from other sites get
the headers that allow them, and a preflight gets nothing else, on any path.
-/

namespace Warrant.Http

/-- A service: its settings, and the identity provider unless there is none. -/
structure App where
  settings : Settings
  introspection : Option Introspection

namespace App

/-- A service with an identity provider, which is asked only if there is a secret to ask with. -/
def ofSettings (settings : Settings) (introspection : Introspection) : App :=
  ⟨settings, if settings.identityClientSecret = "" then none else some introspection⟩

/-- Carries out an operation that the guard has let through. -/
def operate (app : App) (route : Route) (req : Request) (user : Option Account) : Work Response :=
  let caller := req.caller user
  match route, req.method with
  | .health, _ => return Operation.alive
  | .ready, _ => Operation.ready
  | .roles, "POST" => Operation.createRole req caller
  | .roles, _ => Operation.listRoles
  | .role id, "PATCH" => Operation.updateRole id req caller
  | .role id, "DELETE" => Operation.deleteRole id caller
  | .role id, _ => Operation.showRole id
  | .rolePermissions roleId, _ => Operation.addPermission roleId req caller
  | .rolePermission roleId id, "PATCH" => Operation.updatePermission roleId id req caller
  | .rolePermission roleId id, _ => Operation.removePermission roleId id caller
  | .account id, method =>
      match user with
      | some u => Operation.showAccount app.settings.allowAdminOverride id u method
      | none => Work.refuse .notAuthenticated
  | .accountRole id, _ => Operation.reassignRole id req caller
  | .matrix, _ => return .json .ok View.vocabulary
  | .roleMatrix roleId, _ => Operation.showMatrix roleId
  | .explanation, _ => Operation.explain req
  | .bulkAdd, _ => Operation.addPermissions req caller
  | .bulkRemove, _ => Operation.removePermissions req caller
  | .cacheClear, _ => Operation.reloadAll
  | .cacheRefresh roleId, _ => Operation.reloadRole roleId
  | .auditLog, _ => Operation.showAuditLog req
  | .auditLogOfEntity entityType entityId, _ => Operation.showEntityLog req entityType entityId
  | .auditLogOfActor actorId, _ => Operation.showActorLog req actorId

/-- Lets the guard decide on a request, and carries it out if the guard lets it through. -/
def guarded (app : App) (route : Route) (req : Request) (user : Option Account) :
    Work Response := do
  match route.requirement? req.method with
  | none => return .error .forbidden Refusal.subjectUndefined.message
  | some requirement =>
      let verdict ← Work.ask fun w => Guard.authorize w.cache.source user requirement route.subject?
      match verdict with
      | .error why => return .refused why
      | .ok _ => operate app route req user

/-- Answers a request, or fails. -/
def dispatch (app : App) (req : Request) : Work Response := do
  let user ← Identity.authenticate app.introspection req
  match Route.ofPath? req.path with
  | none => return .unrouted
  | some route => guarded app route req user

/-- A response with what every response gets: the headers for other sites, and no body where only
the headers are asked for. -/
def finish (app : App) (req : Request) (r : Response) : Response :=
  let answered := r.sendable.setHeaders (Cors.headers app.settings.corsOriginList (req.header? "origin"))
  if req.method = "HEAD" then answered.headOnly else answered

/-- The answer that an outcome is. -/
def answer : Except Failure Response → Response
  | .ok r => r
  | .error (.refused why) => .refused why
  | .error (.broke _) => .broken

/-- Answers a request. -/
def handle (app : App) (req : Request) (w : World) : Response × World :=
  if req.method = "OPTIONS" then (finish app req (.json .ok (.map [])), w)
  else
    let (outcome, after) := dispatch app req w
    (finish app req (answer outcome), after)

/-- Starts the service: the rules of all roles are loaded. If that fails it starts without any, and
every check is denied until they are. -/
def start : Work Unit := do
  let _ ← Work.attempt (Reload.load none)
  return ()

end App

end Warrant.Http
