import Warrant.Audit.Filter
import Warrant.Database.Write
import Warrant.World

/-!
# The store

What operations read from the database and write to it, step by step. Roles
come with their permissions, which takes a second step if there are any roles;
a role by name takes one step more, to find out which it is.
-/

namespace Warrant.Store

/-! ## Accounts -/

/-- The account with an id. -/
def account (id : Uuid) : Work (Option Account) :=
  Work.query .accountSelect fun db => db.account? id

/-- The account that the identity provider knows by a name, if that is a text at all. -/
def accountKnownAs (externalId : Value) : Work (Option Account) :=
  Work.query .accountSelect fun db => externalId.text?.bind db.accountKnownAs?

/-- Gives an account another role. -/
def setAccountRole (id : Uuid) (roleId : Option Uuid) : Work Unit :=
  Work.write .accountUpdate fun db => .ok (db.setAccountRole id roleId)

/-! ## Roles -/

/-- The roles in a scope, `none` for all, with their permissions. -/
def roles (scope : Option (List Uuid)) : Work (List Role) := do
  let rows ← Work.query .roleSelect fun db => db.roleRows scope
  if rows.isEmpty then return []
  Work.query .permissionList fun db => db.attach rows

/-- The role with an id. -/
def role (id : Uuid) : Work (Option Role) := do
  let found ← roles (some [id])
  return found.head?

/-- The role with a name, if that is a text at all. -/
def roleNamed (name : Value) : Work (Option Role) := do
  let id ← Work.query .roleByName fun db => name.text?.bind db.roleNamed?
  match id with
  | some id => role id
  | none => return none

/-- The role with an id, or a refusal. -/
def existingRole (id : Uuid) : Work Role := do
  match ← role id with
  | some r => return r
  | none => Work.refuse (.missing (.role id))

/-- Adds a role, without permissions. -/
def insertRole (r : Role) : Work Unit :=
  Work.write .roleInsert fun db => db.insertRole ⟨r.id, r.name, r.description, r.createdAt⟩

/-- Writes the name and the description of a role. -/
def updateRole (r : Role) : Work Unit :=
  Work.write .roleUpdate fun db => db.updateRole r.id r.name r.description

/-- Removes a role and its permissions. -/
def deleteRole (id : Uuid) : Work Unit :=
  Work.write .roleDelete fun db => .ok (db.deleteRole id)

/-! ## Permissions -/

/-- The permission with an id. -/
def permission (id : Uuid) : Work (Option Permission) :=
  Work.query .permissionGet fun db => db.permission? id

/-- The permissions of a role. -/
def permissionsOf (roleId : Uuid) : Work (List Permission) :=
  Work.query .permissionList fun db => db.permissionsOf roleId

/-- Adds a permission. -/
def insertPermission (p : Permission) : Work Unit :=
  Work.write .permissionInsert fun db => db.insertPermission p

/-- Writes what a permission says. -/
def updatePermission (p : Permission) : Work Unit :=
  Work.write .permissionUpdate fun db => db.updatePermission p

/-- Removes a permission. -/
def deletePermission (id : Uuid) : Work Unit :=
  Work.write .permissionDelete fun db => .ok (db.deletePermission id)

/-! ## The audit log -/

/-- Adds an entry to the log. -/
def insertAudit (e : AuditEntry) : Work Unit :=
  Work.write .auditInsert fun db => db.insertAudit e

/-- An entry as it is read: its action must be a known one. -/
def readEntry (e : AuditEntry) : Except Fault AuditEntry :=
  match AuditAction.ofName? e.action with
  | some _ => .ok { e with metadata := if e.metadata.isTruthy then e.metadata else .map [] }
  | none => .error .unknownValue

/-- Entries as they are read. -/
def readEntries : List AuditEntry → Except Fault (List AuditEntry)
  | [] => .ok []
  | e :: rest => do
      let entry ← readEntry e
      let entries ← readEntries rest
      .ok (entry :: entries)

/-- The entries that a filter admits, from a position on and at most so many. -/
def auditEntries (f : AuditFilter) (offset : Nat) (limit : Option Nat) : Work (List AuditEntry) := do
  let entries ← Work.query .auditSelect fun db => (db.auditEntries f).drop offset
  Work.ofFault (readEntries (match limit with
    | some n => entries.take n
    | none => entries))

/-- The number of entries that a filter admits. -/
def auditCount (f : AuditFilter) : Work Nat :=
  Work.query .auditCount fun db => db.auditCount f

/-- Removes the entries from before a moment, and counts them. -/
def deleteAuditBefore (cutoff : Instant) : Work Nat := do
  let (count, db) ← Work.query .auditDelete fun db => db.deleteAuditBefore cutoff
  Work.modify fun w => { w with db }
  return count

end Warrant.Store
