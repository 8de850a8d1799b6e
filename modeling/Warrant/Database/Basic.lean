import Warrant.Audit.Entry
import Warrant.Entity

/-!
# The database

Four tables. Roles are listed by name, permissions in the order in which they
were added, audit entries newest first. An account refers to its role, and a
permission belongs to one; what becomes of them when the role goes is part of
deleting it.

The tables hold JSON where a column is of that kind, whoever wrote it. Reading
a row takes it as it is, apart from the flag that forbids, which is read as a
truth value.
-/

namespace Warrant

/-- A row of the table of roles. -/
structure RoleRow where
  id : Uuid
  name : String
  description : Option String
  createdAt : Option Instant
  deriving Inhabited

/-- A row of the table of accounts. -/
structure AccountRow where
  id : Uuid
  email : Value
  externalId : Value
  roleId : Option Uuid
  attributes : Value
  deriving Inhabited

/-- The tables. Rows are in the order in which they were added. -/
structure Database where
  roles : List RoleRow
  permissions : List Permission
  accounts : List AccountRow
  auditLog : List AuditEntry
  deriving Inhabited

/-- A row of the table of roles as a role with permissions. -/
def RoleRow.withPermissions (row : RoleRow) (permissions : List Permission) : Role :=
  ⟨row.id, row.name, row.description, permissions, row.createdAt⟩

namespace Database

/-- The database without any rows. -/
def empty : Database := ⟨[], [], [], []⟩

/-! ## Roles and their permissions -/

/-- A permission as it is read. -/
def readPermission (p : Permission) : Permission :=
  { p with inverted := .bool p.inverted.isTruthy }

/-- The rows of the roles in a scope, `none` for all, by name. -/
def roleRows (db : Database) (scope : Option (List Uuid)) : List RoleRow :=
  let inScope := fun (row : RoleRow) =>
    match scope with
    | none => true
    | some ids => ids.contains row.id
  (db.roles.filter inScope).mergeSort fun a b => decide (a.name ≤ b.name)

/-- The permissions of a role, in the order in which they were added. -/
def permissionsOf (db : Database) (id : Uuid) : List Permission :=
  (db.permissions.filter fun p => p.roleId = id).map readPermission

/-- Rows of roles with the permissions of each. -/
def attach (db : Database) (rows : List RoleRow) : List Role :=
  rows.map fun row => RoleRow.withPermissions row (db.permissionsOf row.id)

/-- The id of the role with a name. -/
def roleNamed? (db : Database) (name : String) : Option Uuid :=
  (db.roles.find? fun row => row.name == name).map RoleRow.id

/-- A permission by its id. -/
def permission? (db : Database) (id : Uuid) : Option Permission :=
  (db.permissions.find? fun p => p.id = id).map readPermission

/-! ## Accounts -/

/-- What an account shows of its role: its permissions are left out. -/
def roleOf (db : Database) (id : Uuid) : Option HeldRole :=
  (db.roles.find? fun row => row.id = id).map fun row =>
    (RoleRow.withPermissions row []).held

/-- An account as it is read, its role with it. -/
def readAccount (db : Database) (row : AccountRow) : Account where
  id := .uuid row.id
  email := row.email
  externalId := row.externalId
  role := row.roleId.bind db.roleOf
  attributes := if row.attributes.isTruthy then row.attributes else .map []

/-- An account by its id. -/
def account? (db : Database) (id : Uuid) : Option Account :=
  (db.accounts.find? fun row => row.id = id).map db.readAccount

/-- An account by the id that the identity provider knows it by. -/
def accountKnownAs? (db : Database) (externalId : String) : Option Account :=
  (db.accounts.find? fun row => row.externalId.text? == some externalId).map db.readAccount

end Database

end Warrant
