import Warrant.Audit.Record
import Warrant.Proofs.Tables
import Warrant.Proofs.Work

/-!
# What recording does

Recording comes after a change that is already committed, so whatever happens to
it must not reach the caller. It does not: it ends well in every case, and what
it leaves is either nothing or one more entry at the end of the log.

`Logs` says this of an operation. The other tables and the cache are out of its
reach, so the rules of all roles are as they were.
-/

namespace Warrant

/-- An entry as its row is written: what is JSON must have a written form. -/
def AuditEntry.stored (e : AuditEntry) : Except Fault AuditEntry := do
  let changes ← e.changes.stored
  let metadata ← e.metadata.stored
  .ok { e with changes, metadata }

namespace Database

/-- Two databases that differ by what recording may do: nothing, or one more entry in the log. -/
def Logged (db db' : Database) : Prop :=
  db' = db ∨ ∃ e, db' = { db with auditLog := db.auditLog ++ [e] }

theorem insertAudit_ok {db db' : Database} {e : AuditEntry} (h : db.insertAudit e = .ok db') :
    ∃ row, e.stored = .ok row ∧ db' = { db with auditLog := db.auditLog ++ [row] } := by
  obtain ⟨changes, hchanges, h⟩ := Fault.bind_ok.mp h
  obtain ⟨metadata, hmetadata, h⟩ := Fault.bind_ok.mp h
  split at h
  · cases h
  · cases h
    refine ⟨_, ?_, rfl⟩
    exact Fault.bind_ok.mpr ⟨changes, hchanges, Fault.bind_ok.mpr ⟨metadata, hmetadata, rfl⟩⟩

/-- The log is no table that rules are read from. -/
theorem Logged.changesOnly {db db' : Database} (h : Logged db db') (hdb : db.Shaped) :
    ChangesOnly none db db' := by
  rcases h with rfl | ⟨e, rfl⟩
  · exact ChangesOnly.refl hdb
  · exact changesOnly_of_eq hdb rfl rfl

end Database

/-- A note has a form for the log: its changes and its metadata can be written. -/
structure AuditNote.Storable (note : AuditNote) : Prop where
  changes : ∃ v, note.changes.stored = .ok v
  metadata : ∃ metadata written v, Audit.metadataEntries? note.metadata = some metadata ∧
    Audit.writtenMetadata? metadata = some written ∧ (Value.map written).stored = .ok v

/-- An operation that ends well whatever becomes of its steps, and at most adds to the log. -/
structure Work.Logs (t : Work Unit) : Prop where
  ends : ∀ w, (t w).1 = .ok ()
  cache : Work.Keeps World.cache t
  log : ∀ w : World, w.db.Logged (t w).2.db

theorem Work.Logs.run {t : Work Unit} (h : Work.Logs t) (w : World) : t w = (.ok (), (t w).2) :=
  Prod.ext (h.ends w) rfl

theorem Work.Logs.nothing : Work.Logs (pure ()) :=
  ⟨fun _ => rfl, fun _ => rfl, fun _ => Or.inl rfl⟩

namespace Audit

theorem part_keeps {α : Type} (found : Option α) : Work.Keeps World.state (part found) := by
  cases found with
  | none => exact Work.Keeps.fail _
  | some a => exact Work.Keeps.pure a

theorem compose_keeps (note : AuditNote) : Work.Keeps World.state (compose note) :=
  Work.Keeps.bind Work.Keeps.drawId fun _ => Work.Keeps.bind (part_keeps _) fun _ =>
    Work.Keeps.bind Work.Keeps.readClock fun _ => Work.Keeps.bind (part_keeps _) fun _ =>
      Work.Keeps.pure _

theorem append_keeps (note : AuditNote) : Work.Keeps World.cache (append note) :=
  Work.Keeps.bind (compose_keeps note).cache fun _ =>
    Work.Keeps.bind (Work.Keeps.transact (Work.Keeps.write _ _)) fun _ => Work.Keeps.pure _

/-- An entry is in the log only if its transaction succeeded, and it is the only one there. -/
theorem append_ok {note : AuditNote} {entry : AuditEntry} {w w' : World}
    (h : append note w = (.ok entry, w')) :
    ∃ row, entry.stored = .ok row ∧ w'.db = { w.db with auditLog := w.db.auditLog ++ [row] } := by
  obtain ⟨composed, w₁, hentry, h⟩ := Work.bind_ok.mp h
  obtain ⟨_, w₂, hrun, h⟩ := Work.bind_ok.mp h
  obtain ⟨rfl, rfl⟩ := Work.pure_ok.mp h
  obtain ⟨w₃, w₄, hstart, hbody, hend⟩ := Work.transact_ok hrun
  obtain ⟨row, hrow, hdb⟩ := Database.insertAudit_ok (Work.write_ok hbody).1
  rw [(World.state_eq.mp hstart).1, ← (World.state_eq.mp hend).1,
    (World.state_eq.mp ((compose_keeps note).after hentry)).1] at hdb
  exact ⟨row, hrow, hdb⟩

/-- An entry that cannot be written is lost, and nothing else. -/
theorem append_error {note : AuditNote} {f : Failure} {w w' : World}
    (h : append note w = (.error f, w')) : w'.db = w.db := by
  rcases Work.bind_error.mp h with h | ⟨entry, w₁, hentry, h⟩
  · exact (World.state_eq.mp ((compose_keeps note).after h)).1
  · rcases Work.bind_error.mp h with h | ⟨_, w₂, -, h⟩
    · exact (Work.transact_error h).trans
        (World.state_eq.mp ((compose_keeps note).after hentry)).1
    · cases h

theorem append_logged (note : AuditNote) (w : World) : w.db.Logged (append note w).2.db := by
  rcases hrun : append note w with ⟨f | entry, w'⟩
  · exact Or.inl (append_error hrun)
  · obtain ⟨row, -, hdb⟩ := append_ok hrun
    exact Or.inr ⟨row, hdb⟩

theorem record_apply (note : AuditNote) (w : World) :
    ∃ found, record note w = (.ok found, (append note w).2) := by
  unfold record
  rw [Work.bind_apply, Work.attempt_apply]
  rcases append note w with ⟨f | entry, w'⟩
  · exact ⟨none, rfl⟩
  · exact ⟨some entry, rfl⟩

theorem record_logs (note : AuditNote) :
    Work.Logs (do let _ ← record note; return ()) := by
  have hrun : ∀ w, (do let _ ← record note; return () : Work Unit) w =
      (.ok (), (append note w).2) := by
    intro w
    obtain ⟨found, hfound⟩ := record_apply note w
    rw [Work.bind_apply, hfound]
    rfl
  refine ⟨fun w => ?_, fun w => ?_, fun w => ?_⟩
  · rw [hrun w]
  · rw [hrun w]
    exact append_keeps note w
  · rw [hrun w]
    exact append_logged note w

/-! ### What an entry takes -/

theorem part_ok {α : Type} {found : Option α} {a : α} {w w' : World} :
    part found w = (.ok a, w') ↔ found = some a ∧ w = w' := by
  cases found with
  | none => exact ⟨nofun, fun h => nomatch h.1⟩
  | some b => simp only [part, Work.pure_ok, Option.some.injEq]

theorem compose_ok_iff {note : AuditNote} {entry : AuditEntry} {w w' : World} :
    compose note w = (.ok entry, w') ↔ ∃ metadata next written,
      metadataEntries? note.metadata = some metadata ∧
      w.clock.now.add? w.clock.tick = some next ∧ writtenMetadata? metadata = some written ∧
      entry = entryOf note written (Work.freshId (w.issued + 1)) w.clock.now ∧
      w' = { w with issued := w.issued + 1, clock := { w.clock with now := next } } := by
  simp only [compose, Work.bind_ok, Work.drawId_ok, part_ok, Work.readClock_ok, Work.pure_ok]
  constructor
  · rintro ⟨_, _, ⟨rfl, rfl⟩, metadata, _, ⟨hmetadata, rfl⟩, _, _, ⟨next, hnext, rfl, rfl⟩, written,
      _, ⟨hwritten, rfl⟩, rfl, rfl⟩
    exact ⟨metadata, next, written, hmetadata, hnext, hwritten, rfl, rfl⟩
  · rintro ⟨metadata, next, written, hmetadata, hnext, hwritten, rfl, rfl⟩
    exact ⟨_, _, ⟨rfl, rfl⟩, metadata, _, ⟨hmetadata, rfl⟩, _, _, ⟨next, hnext, rfl, rfl⟩, written, _,
      ⟨hwritten, rfl⟩, rfl, rfl⟩

/-- An entry is written if none of the three steps fails and the tables take the row, and only
then. -/
theorem insert_ok_iff {entry : AuditEntry} {w : World} :
    (∃ u w', Work.transact (Store.insertAudit entry) w = (.ok u, w')) ↔
      (∃ row, entry.stored = .ok row) ∧ w.db.hasEntry entry.id = false ∧
      w.faults w.steps .connect = false ∧ w.faults (w.steps + 1) .auditInsert = false ∧
      w.faults (w.steps + 2) .commit = false := by
  have hrow : (∃ db, w.db.insertAudit entry = .ok db) ↔
      (∃ row, entry.stored = .ok row) ∧ w.db.hasEntry entry.id = false := by
    unfold Database.insertAudit AuditEntry.stored
    simp only [Fault.bind_ok]
    constructor
    · rintro ⟨db, changes, hchanges, metadata, hmetadata, h⟩
      split at h
      · cases h
      · next hfree =>
          exact ⟨⟨_, changes, hchanges, metadata, hmetadata, rfl⟩, Bool.eq_false_iff.mpr hfree⟩
    · rintro ⟨⟨row, changes, hchanges, metadata, hmetadata, -⟩, hfree⟩
      exact ⟨_, changes, hchanges, metadata, hmetadata, by rw [hfree]; rfl⟩
  simp only [Work.transact_ok_iff, Store.insertAudit, Work.write_ok_iff]
  constructor
  · rintro ⟨_, _, hconnect, w₁, ⟨hinsert, db, hdb, rfl⟩, hcommit, rfl⟩
    obtain ⟨hstored, hfree⟩ := hrow.mp ⟨db, hdb⟩
    exact ⟨hstored, hfree, hconnect, hinsert, hcommit⟩
  · rintro ⟨hstored, hfree, hconnect, hinsert, hcommit⟩
    obtain ⟨db, hdb⟩ := hrow.mpr ⟨hstored, hfree⟩
    exact ⟨(), _, hconnect, _, ⟨hinsert, db, hdb, rfl⟩, hcommit, rfl⟩

/-- A note can be appended if nothing is in the way, and only then. -/
theorem append_ok_iff {note : AuditNote} {w : World} :
    (∃ entry w', append note w = (.ok entry, w')) ↔
      w.clock.Runs ∧ note.Storable ∧ w.db.hasEntry (Work.freshId (w.issued + 1)) = false ∧
      w.faults w.steps .connect = false ∧ w.faults (w.steps + 1) .auditInsert = false ∧
      w.faults (w.steps + 2) .commit = false := by
  constructor
  · rintro ⟨entry, w', h⟩
    obtain ⟨composed, w₁, hcompose, h⟩ := Work.bind_ok.mp h
    obtain ⟨u, w₂, hinsert, -⟩ := Work.bind_ok.mp h
    obtain ⟨metadata, next, written, hmetadata, hnext, hwritten, rfl, rfl⟩ :=
      compose_ok_iff.mp hcompose
    obtain ⟨⟨row, hrow⟩, hfree, hsteps⟩ := insert_ok_iff.mp ⟨u, w₂, hinsert⟩
    obtain ⟨changes, hchanges, hrow⟩ := Fault.bind_ok.mp hrow
    obtain ⟨stored, hstored, -⟩ := Fault.bind_ok.mp hrow
    exact ⟨Option.isSome_of_eq_some hnext,
      ⟨⟨changes, hchanges⟩, metadata, written, stored, hmetadata, hwritten, hstored⟩, hfree, hsteps⟩
  · rintro ⟨hclock, ⟨⟨changes, hchanges⟩, metadata, written, stored, hmetadata, hwritten, hstored⟩,
      hfree, hsteps⟩
    obtain ⟨next, hnext⟩ := Option.isSome_iff_exists.mp hclock
    have hcompose := compose_ok_iff.mpr ⟨metadata, next, written, hmetadata, hnext, hwritten, rfl, rfl⟩
    have hrow : ∃ row, (entryOf note written (Work.freshId (w.issued + 1)) w.clock.now).stored =
        .ok row :=
      ⟨_, Fault.bind_ok.mpr ⟨changes, hchanges, Fault.bind_ok.mpr ⟨stored, hstored, rfl⟩⟩⟩
    have hinsert : ∃ u w₂, Work.transact (Store.insertAudit
          (entryOf note written (Work.freshId (w.issued + 1)) w.clock.now))
        { w with issued := w.issued + 1, clock := { w.clock with now := next } } = (.ok u, w₂) :=
      insert_ok_iff.mpr ⟨hrow, hfree, hsteps⟩
    obtain ⟨u, w₂, hinsert⟩ := hinsert
    exact ⟨_, w₂, Work.bind_ok.mpr ⟨_, _, hcompose, Work.bind_ok.mpr ⟨u, w₂, hinsert, rfl⟩⟩⟩

end Audit

/-- A note that is made of a snapshot is recorded like any other, once the snapshot is there. -/
theorem Work.Logs.ofSnapshot {r : Except Fault (List (String × Value))}
    {s : List (String × Value)} (hr : r = .ok s) (note : List (String × Value) → AuditNote) :
    Work.Logs (do
      let snapshot ← Work.ofFault r
      let _ ← Audit.record (note snapshot)
      return ()) := by
  rw [hr]
  exact Audit.record_logs (note s)

end Warrant
