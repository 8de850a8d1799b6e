import Warrant.Database.Basic
import Warrant.Value.Stored

/-!
# Writing to the tables

The tables keep three rules of their own: the identifier of a row is its key,
names of roles are unique, and texts have a greatest length. A write that would
break one of them, or that puts something without a JSON form into a JSON
column, is a fault and changes nothing.
-/

namespace Warrant.Database

/-- The most characters that the name of a role may have. -/
def maxNameLength : Nat := 50

/-- The most characters that the description of a role may have. -/
def maxDescriptionLength : Nat := 255

/-- Whether the texts of a role fit into their columns. -/
def textsFit (name : String) (description : Option String) : Bool :=
  name.length ≤ maxNameLength && description.all fun d => d.length ≤ maxDescriptionLength

/-- Whether there is a role with an id. -/
def hasRole (db : Database) (id : Uuid) : Bool := db.roles.any fun row => row.id = id

/-- Whether there is a permission with an id. -/
def hasPermission (db : Database) (id : Uuid) : Bool := db.permissions.any fun p => p.id = id

/-- Whether there is an entry of the log with an id. -/
def hasEntry (db : Database) (id : Uuid) : Bool := db.auditLog.any fun e => e.id = id

/-- Whether a role other than the one with this id has a name. -/
def isNameTaken (db : Database) (name : String) (id : Uuid) : Bool :=
  db.roles.any fun row => row.name == name && row.id ≠ id

/-! ## Roles -/

/-- Adds a role. -/
def insertRole (db : Database) (row : RoleRow) : Except Fault Database :=
  if textsFit row.name row.description && !db.isNameTaken row.name row.id && !db.hasRole row.id then
    .ok { db with roles := db.roles ++ [row] }
  else .error .database

/-- Sets the name and the description of a role. -/
def updateRole (db : Database) (id : Uuid) (name : String) (description : Option String) :
    Except Fault Database :=
  if textsFit name description && !db.isNameTaken name id then
    .ok { db with
      roles := db.roles.map fun row => if row.id = id then { row with name, description } else row }
  else .error .database

/-- Removes a role and its permissions; accounts that had it have none. -/
def deleteRole (db : Database) (id : Uuid) : Database :=
  { db with
    roles := db.roles.filter fun row => row.id ≠ id
    permissions := db.permissions.filter fun p => p.roleId ≠ id
    accounts := db.accounts.map fun row =>
      if row.roleId = some id then { row with roleId := none } else row }

/-! ## Permissions -/

/-- A permission as its row is written: what is JSON must have a written form. -/
def storedPermission (p : Permission) : Except Fault Permission := do
  let action ← p.action.stored
  let subject ← p.subject.stored
  let fields ← p.fields.stored
  let conditions ← p.conditions.stored
  .ok { p with action, subject, fields, conditions }

/-- Adds a permission, after all others. -/
def insertPermission (db : Database) (p : Permission) : Except Fault Database := do
  let row ← storedPermission p
  if db.hasPermission row.id then .error .database
  else .ok { db with permissions := db.permissions ++ [row] }

/-- Writes what a permission says over the row with its id. Whose it is and since when stays. -/
def updatePermission (db : Database) (p : Permission) : Except Fault Database := do
  let row ← storedPermission p
  let overwrite := fun (old : Permission) =>
    if old.id = p.id then { row with roleId := old.roleId, createdAt := old.createdAt } else old
  .ok { db with permissions := db.permissions.map overwrite }

/-- Removes a permission. -/
def deletePermission (db : Database) (id : Uuid) : Database :=
  { db with permissions := db.permissions.filter fun p => p.id ≠ id }

/-! ## Accounts -/

/-- Gives an account another role, or none. -/
def setAccountRole (db : Database) (id : Uuid) (roleId : Option Uuid) : Database :=
  { db with
    accounts := db.accounts.map fun row => if row.id = id then { row with roleId } else row }

/-! ## The audit log -/

/-- Adds an entry to the log. -/
def insertAudit (db : Database) (e : AuditEntry) : Except Fault Database := do
  let changes ← e.changes.stored
  let metadata ← e.metadata.stored
  if db.hasEntry e.id then .error .database
  else .ok { db with auditLog := db.auditLog ++ [{ e with changes, metadata }] }

end Warrant.Database
