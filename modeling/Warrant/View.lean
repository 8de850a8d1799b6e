import Warrant.Matrix
import Warrant.Mutation.Permissions
import Warrant.Explanation

/-!
# Views

What is shown of the things of the service: mappings of JSON values, the same
for every caller. Identifiers and times are shown as text.
-/

namespace Warrant.View

/-- An identifier, or null. -/
def id (id : Option Uuid) : Value := .ofOption (fun i => .text (Uuid.text i)) id

/-- What something is identified by, in words; null where that says nothing. -/
def idWords (id : Value) : Value := if id.isTruthy then .text id.display else .null

/-- A text, or null. -/
def text (s : Option String) : Value := .ofOption .text s

/-- A time, or null. -/
def time (t : Option Instant) : Value := .ofOption (fun t => .text (Instant.text t)) t

/-- A permission: actions and subjects item by item, the rest as it is stored. -/
def permission (p : Permission) : Except Fault Value := do
  let action ← p.action.items
  let subject ← p.subject.items
  .ok (.map
    [("id", .text p.id.text), ("role_id", .text p.roleId.text), ("action", .list action),
     ("subject", .list subject), ("fields", p.fields), ("conditions", p.conditions),
     ("inverted", p.inverted), ("reason", p.reason), ("created_at", time p.createdAt)])

/-- Permissions. -/
def permissions : List Permission → Except Fault (List Value)
  | [] => .ok []
  | p :: rest => do
      let v ← permission p
      let vs ← permissions rest
      .ok (v :: vs)

/-- A role without its permissions. -/
def roleHead (r : Role) : List (String × Value) :=
  [("id", .text r.id.text), ("name", .text r.name), ("description", text r.description),
   ("created_at", time r.createdAt)]

/-- A role. -/
def role (r : Role) : Except Fault Value := do
  let ps ← permissions r.permissions
  .ok (.map (roleHead r ++ [("permissions", .list ps)]))

/-- Roles. -/
def roles : List Role → Except Fault (List Value)
  | [] => .ok []
  | r :: rest => do
      let v ← role r
      let vs ← roles rest
      .ok (v :: vs)

/-- An account, with the name of its role. -/
def account (a : Account) : Value :=
  .map
    [("id", .text a.id.display), ("email", a.email),
     ("role", .ofOption (fun (r : HeldRole) => .map [("id", .text r.id.display), ("name", r.name)])
       a.role),
     ("attributes", a.attributes)]

/-- An entry of the audit log. -/
def auditEntry (e : AuditEntry) : Value :=
  .map
    [("id", .text e.id.text), ("action", .text e.action), ("entity_type", .text e.entityType),
     ("entity_id", text e.entityId), ("changes", e.changes), ("description", text e.description),
     ("actor_id", idWords e.caller.actorId), ("ip_address", e.caller.ipAddress),
     ("user_agent", e.caller.userAgent), ("metadata", e.metadata),
     ("created_at", .text e.createdAt.text)]

/-- A rule, its parts being values of any kind. -/
def rule (r : Rule) : Value :=
  .map
    [("actions", .list r.actions), ("subjects", .list r.subjects),
     ("fields", .ofOption .list r.fields), ("conditions", r.conditions),
     ("inverted", .bool r.inverted), ("reason", r.reason),
     ("permission_id", idWords r.permissionId)]

/-- The rules in a cache, by role, each by the id of its permission. -/
def cache (c : RuleCache) : Value :=
  .map
    [("initialized", .bool c.initialized),
     ("roles", .map (c.entries.map fun e =>
       (e.1.text, .list (e.2.map fun r => idWords r.permissionId))))]

/-- A cell of a matrix. -/
def cell (c : Cell) : Value :=
  .map
    [("action", .text c.action.name), ("key", .text c.key), ("state", .text c.state.name),
     ("granted", .bool c.isGranted), ("fields", c.fields), ("conditions", c.conditions),
     ("reason", c.reason), ("permission_id", id c.permissionId)]

/-- A matrix, row by row. -/
def matrix (m : Matrix) : Value :=
  let row := fun (s : Subject) =>
    Value.map [("subject", .text s.name), ("actions", .list ((m.cells.filter (·.subject == s)).map cell))]
  .map
    [("role", .map [("id", .text m.role.id.text), ("name", .text m.role.name)]),
     ("matrix", .list (Subject.all.map row))]

/-- The cells that any matrix has, row by row. -/
def vocabulary : Value :=
  let row := fun (s : Subject) =>
    Value.map
      [("subject", .text s.name),
       ("actions", .list (Action.all.map fun a =>
         .map [("action", .text a.name), ("key", .text (Cell.key { action := a, subject := s }))]))]
  .map
    [("subjects", .ofTexts (Subject.all.map Subject.name)),
     ("actions", .ofTexts (Action.all.map Action.name)),
     ("matrix", .list (Subject.all.map row))]

/-- An explanation, with the question that it answers. -/
def explanation (userId : Uuid) (action subject field data : Value) (e : Explanation) : Value :=
  let user := fun (a : Account) =>
    Value.map
      [("id", .text a.id.display), ("email", a.email), ("role", .ofOption HeldRole.name a.role)]
  .map
    [("user_id", .text userId.text), ("user", .ofOption user e.user), ("action", action),
     ("subject", subject), ("field", field), ("resource_data", data),
     ("has_permission", .bool e.allowed), ("reason", .text e.reason),
     ("rule_reason", e.ruleReason), ("permission_id", idWords e.permissionId)]

/-- What became of one of several changes. -/
def bulkItem (r : Mutation.BulkItem) : Value :=
  match r.outcome with
  | .ok permissionId =>
      .map [("success", .bool true), ("item", r.item), ("permission_id", .text permissionId.text),
        ("error", .null)]
  | .error why =>
      .map [("success", .bool false), ("item", r.item), ("permission_id", .null),
        ("error", .text why.message)]

/-- Whether an item succeeded. -/
def succeeded (r : Mutation.BulkItem) : Bool := r.outcome.isOk

/-- What became of several changes to a role. -/
def bulk (roleId : Uuid) (results : List Mutation.BulkItem) : Value :=
  let successful := results.countP succeeded
  .map
    [("role_id", .text roleId.text), ("results", .list (results.map bulkItem)),
     ("summary", .map
       [("total", .int results.length), ("successful", .int successful),
        ("failed", .int (results.length - successful))])]

/-- A page of the audit log. -/
def auditPage (p : Page AuditEntry) : Except Fault Value := do
  let pages ← pageTotal p.total p.limit
  .ok (.map
    [("results", .list (p.results.map auditEntry)), ("total", .int p.total), ("page", .int p.page),
     ("limit", .int p.limit), ("page_total", .int pages)])

/-! ## Tables -/

/-- A row of the table of permissions. -/
def permissionRow (p : Permission) : Value :=
  .map
    [("id", .text p.id.text), ("role_id", .text p.roleId.text), ("action", p.action),
     ("subject", p.subject), ("fields", p.fields), ("conditions", p.conditions),
     ("inverted", p.inverted), ("reason", p.reason), ("created_at", time p.createdAt)]

/-- A row of the table of accounts. -/
def accountRow (a : AccountRow) : Value :=
  .map
    [("id", .text a.id.text), ("email", a.email), ("external_id", a.externalId),
     ("role_id", id a.roleId), ("attributes", a.attributes)]

/-- Rows in the order of their ids. -/
def byId {α : Type} (id : α → Uuid) (rows : List α) : List α :=
  rows.mergeSort fun a b => (id a).le (id b)

/-- The tables: roles and accounts in the order of their ids, the others as they were added. -/
def database (db : Database) : Value :=
  let roleRow := fun (r : RoleRow) => Value.map (roleHead (RoleRow.withPermissions r []))
  .map
    [("roles", .list ((byId RoleRow.id db.roles).map roleRow)),
     ("permissions", .list (db.permissions.map permissionRow)),
     ("accounts", .list ((byId AccountRow.id db.accounts).map accountRow)),
     ("audit_logs", .list (db.auditLog.map auditEntry))]

end Warrant.View
