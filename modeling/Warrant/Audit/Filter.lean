import Warrant.Database.Basic
import Warrant.Value.Equality

/-!
# Looking through the audit log

A filter asks for an action, an actor, a kind of thing and a thing, each of
which may be left open. What it admits is listed newest first; entries of the
same moment come in the order of their ids.
-/

namespace Warrant

/-- What to look for. -/
structure AuditFilter where
  action : Option AuditAction := none
  actorId : Option Uuid := none
  entityType : Option String := none
  entityId : Option String := none
  deriving Inhabited

namespace AuditFilter

/-- Whether an entry is one of those looked for. -/
def admits (f : AuditFilter) (e : AuditEntry) : Bool :=
  f.action.all (fun a => e.action == a.name) &&
  f.actorId.all (fun id => e.caller.actorId.equal (.uuid id)) &&
  f.entityType.all (fun t => e.entityType == t) &&
  f.entityId.all (fun id => e.entityId == some id)

end AuditFilter

/-- The order of listings: later entries first, and by id within a moment. -/
def AuditEntry.listedBefore (a b : AuditEntry) : Bool :=
  if b.createdAt.micros < a.createdAt.micros then true
  else if a.createdAt.micros < b.createdAt.micros then false
  else a.id.le b.id

namespace Database

/-- The entries that a filter admits, as they are listed. -/
def auditEntries (db : Database) (f : AuditFilter) : List AuditEntry :=
  (db.auditLog.filter f.admits).mergeSort AuditEntry.listedBefore

/-- The number of entries that a filter admits. -/
def auditCount (db : Database) (f : AuditFilter) : Nat :=
  (db.auditLog.filter f.admits).length

/-- Removes the entries from before a moment, and counts them. -/
def deleteAuditBefore (db : Database) (cutoff : Instant) : Nat × Database :=
  let isOld := fun (e : AuditEntry) => e.createdAt.before cutoff
  ((db.auditLog.filter isOld).length,
   { db with auditLog := db.auditLog.filter fun e => !isOld e })

end Database

end Warrant
