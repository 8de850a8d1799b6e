import Warrant.Store

/-!
# Reading the audit log

The log is read whole for one thing, one actor or one action, or page by page.
Pages are numbered from one, and numbers and sizes below one count as one.
Entries older than the time they are kept for can be deleted.
-/

namespace Warrant.Audit

/-- All entries that a filter admits. -/
def entries (f : AuditFilter) : Work (List AuditEntry) :=
  Work.transact (Store.auditEntries f 0 none)

/-- The entries about one thing. -/
def entriesFor (entityType entityId : String) : Work (List AuditEntry) :=
  entries { entityType := some entityType, entityId := some entityId }

/-- The entries of one actor. -/
def entriesBy (actorId : Uuid) : Work (List AuditEntry) := entries { actorId := some actorId }

/-- The entries about one action. -/
def entriesOf (action : AuditAction) : Work (List AuditEntry) := entries { action := some action }

/-- One page of the entries that a filter admits. -/
def page (number size : Int) (f : AuditFilter) : Work (Page AuditEntry) := do
  let number := max number 1
  let size := max size 1
  Work.transact do
    let total ← Store.auditCount f
    let results ← Store.auditEntries f ((number - 1) * size).toNat (some size.toNat)
    return ⟨results, total, number, size⟩

/-- The days that entries are usually kept for. -/
def defaultRetention : Int := 90

/-- The moment so many days before now. -/
def cutoff (days : Int) : Work Instant := do
  match (← Work.readClock).daysBefore? days with
  | some t => return t
  | none => Work.fail (.broke .outOfRange)

/-- Deletes the entries that are more than so many days old, and counts them. -/
def deleteOlderThan (days : Int) : Work Nat := do
  let cutoff ← cutoff days
  Work.transact (Store.deleteAuditBefore cutoff)

end Warrant.Audit
