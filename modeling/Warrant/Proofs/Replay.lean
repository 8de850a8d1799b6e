import Warrant.Proofs.AuditTrail
import Warrant.Proofs.Portraits

/-!
# The log read back

An entry of the log says what was there after a change, and so the log can be
read back: starting from nothing and doing, entry by entry, what each entry
tells of, one arrives at the roles that are in the tables.

That is a simulation between the tables and the portraits that the log draws,
and it is carried by `Work.Depicted`: if every recording of an operation leaves
its entry, then to follow these entries is to go from the portraits before the
operation to those after it. A change in stages is depicted because its note
carries the id and the content that the action needs, and because neither the
reload nor the record touches what the portraits are drawn from. From there it
is closed under the parts of an operation, and a run adds the entries up.
-/

namespace Warrant

/-! ## What a note tells -/

/-- A member of a stored value is the stored member. -/
theorem Value.stored_member {v w : Value} (h : v.stored? = some w) (key : String) :
    (v.member key).stored? = some (w.member key) := by
  cases v with
  | map es =>
      rw [stored?, Option.map_eq_some_iff] at h
      obtain ⟨es', hes, rfl⟩ := h
      exact storedEntries?_find? hes key
  -- Nothing else has members, stored or not.
  | list items =>
      rw [stored?, Option.map_eq_some_iff] at h
      obtain ⟨items', -, rfl⟩ := h
      rfl
  | tuple items =>
      rw [stored?, Option.map_eq_some_iff] at h
      obtain ⟨items', -, rfl⟩ := h
      rfl
  | null => cases h; rfl
  | bool b => cases h; rfl
  | int n => cases h; rfl
  | double d => cases h; rfl
  | text s => cases h; rfl
  | _ => cases h

/-- What was there after is found in the changes: null is left out, and what is left out is null. -/
theorem AuditNote.changes_after (n : AuditNote) : n.changes.member "after" = n.after := by
  have hnull : ∀ v : Value, v.isNull = true → v = .null := by
    intro v hv
    cases v <;> first | rfl | cases hv
  unfold AuditNote.changes AuditNote.change
  by_cases hb : n.before.isNull = true <;> by_cases ha : n.after.isNull = true
  · rw [if_pos hb, if_pos ha, hnull n.after ha]
    rfl
  · rw [if_pos hb, if_neg ha]
    rfl
  · rw [if_neg hb, if_pos ha, hnull n.after ha]
    rfl
  · rw [if_neg hb, if_neg ha]
    rfl

/-- The stored changes of a note have the stored form of what was there after. -/
theorem AuditNote.stored_after {n : AuditNote} {v : Value} (h : n.changes.stored = .ok v) :
    n.after.stored = .ok (v.member "after") := by
  rw [← n.changes_after]
  exact Value.stored_eq_ok.mpr (Value.stored_member (Value.stored_eq_ok.mp h) "after")

/-- A change leaves terms plain if the reason that it gives, if it gives one, is a text or none. -/
theorem RuleChange.apply_plain {change : RuleChange} {t t' : Terms} (ht : t.Plain)
    (hreason : ∀ parts reason, change = .edits parts → parts.reason = some reason →
      reason.isReason = true) (h : change.apply t = .ok t') : t'.Plain := by
  cases change with
  | formless => cases h
  | edits parts =>
      cases h
      refine ⟨?_, ?_⟩
      · show ∃ b, (parts.inverted.map Value.bool).getD t.inverted = .bool b
        cases parts.inverted with
        | none => exact ht.inverted
        | some b => exact ⟨b, rfl⟩
      · show (parts.reason.getD t.reason).isReason = true
        cases hparts : parts.reason with
        | none => exact ht.reason
        | some reason => exact hreason parts reason rfl hparts

/-! ## What a run tells -/

namespace Database

/-- The log is no part of what it tells of. -/
theorem Told.withLog {db : Database} (h : db.Told) (log : List AuditEntry) : (db.withLog log).Told :=
  ⟨⟨h.shaped.rows, h.shaped.keys⟩, h.plain, h.owned⟩

end Database

/-- An operation is depicted by its recordings: if each of them leaves its entry, then to follow
the entries is to go from the portraits before it to those after it. -/
def Work.Depicted {α : Type} (t : Work α) (made : World → List Recording) : Prop :=
  ∀ w : World, w.db.Told → (∀ r ∈ made w, r.entry?.isSome = true) →
    (t w).2.db.Told ∧
      (t w).2.db.drawn = ((made w).filterMap Recording.entry?).foldl Portrait.follow w.db.drawn

namespace Work

variable {α β : Type} {t : Work α} {made : World → List Recording}

theorem Depicted.kept (h : Keeps World.db t) : Depicted t fun _ => [] := by
  intro w hdb _
  rw [h w]
  exact ⟨hdb, rfl⟩

theorem Depicted.congr {made' : World → List Recording} (h : Depicted t made)
    (hmade : ∀ w, made' w = made w) : Depicted t made' := by
  rw [funext hmade]
  exact h

theorem Depicted.attempt (h : Depicted t made) : Depicted (Work.attempt t) made := h

theorem Depicted.bind {next : α → Work β} {more : α → World → List Recording}
    (ht : Depicted t made) (hnext : ∀ a, Depicted (next a) (more a)) :
    Depicted (t >>= next) (recordingsThen t made more) := by
  intro w hdb hwritten
  rcases hrun : t w with ⟨f | a, w₁⟩
  · rw [recordingsThen_error hrun] at hwritten ⊢
    have hfirst := ht w hdb hwritten
    rw [hrun] at hfirst
    rw [bind_apply, hrun]
    exact hfirst
  · rw [recordingsThen_ok hrun] at hwritten ⊢
    obtain ⟨hdb₁, hdrawn₁⟩ := ht w hdb fun r hr => hwritten r (List.mem_append_left _ hr)
    rw [hrun] at hdb₁ hdrawn₁
    obtain ⟨hdb', hdrawn'⟩ := hnext a w₁ hdb₁ fun r hr => hwritten r (List.mem_append_right _ hr)
    rw [bind_apply, hrun]
    refine ⟨hdb', ?_⟩
    rw [hdrawn', hdrawn₁, List.filterMap_append, List.foldl_append]

theorem Depicted.bindKept {next : α → Work β} (ht : Depicted t made)
    (hnext : ∀ a, Keeps World.db (next a)) : Depicted (t >>= next) made := by
  refine (Depicted.bind ht fun a => Depicted.kept (hnext a)).congr fun w => ?_
  rcases hrun : t w with ⟨f | a, w₁⟩
  · rw [recordingsThen_error hrun]
  · rw [recordingsThen_ok hrun]
    exact (List.append_nil _).symm

end Work

namespace Mutation

/-- A note that is recorded tells what the change before it has made of the roles. -/
theorem Stages.run_depicted {α : Type} {s : Stages α} {note : s.Changed → Except Fault AuditNote}
    (hnoted : s.Noted note)
    (hok : ∀ {w w₁ : World} {done : s.Changed}, w.db.Told → s.change w = (.ok done, w₁) →
      Work.Logs (s.close done) ∧ ∀ n after, note done = .ok n → n.after.stored = .ok after →
        w₁.db.Told ∧ ∃ id, n.entityId = some id ∧
          w₁.db.drawn = Portrait.apply n.action id after w.db.drawn)
    (herror : ∀ {w w₁ : World} {f : Failure}, s.change w = (.error f, w₁) → w₁.db = w.db) :
    Work.Depicted s.run (s.recordings note) := by
  intro w hdb hwritten
  rcases hchange : s.change w with ⟨f | done, w₁⟩
  · rw [recordings_of_error hchange, run_of_error hchange]
    dsimp only
    rw [herror hchange]
    exact ⟨hdb, rfl⟩
  · obtain ⟨hclose, htells⟩ := hok hdb hchange
    obtain ⟨n, hnote, hrecordings⟩ := recordings_of_ok hnoted hchange hclose
    rw [hrecordings] at hwritten ⊢
    obtain ⟨e, he⟩ := Option.isSome_iff_exists.mp (hwritten _ (List.mem_singleton_self _))
    obtain ⟨haction, hentityId, -, hstored⟩ := Recording.entry?_some he
    obtain ⟨hdb₁, id, hid, hdrawn⟩ := htells n _ hnote (AuditNote.stored_after hstored)
    have hends : s.close done (reload (s.touched done) w₁).2 =
        (.ok (), Recording.after ⟨n, (reload (s.touched done) w₁).2⟩) := by
      rw [hnoted done, hnote]
      exact Audit.record_run n _
    obtain ⟨log, hafter⟩ := Recording.after_withLog ⟨n, (reload (s.touched done) w₁).2⟩
    rw [run_of_ok hchange hclose, hends]
    dsimp only
    rw [hafter, reload_db]
    refine ⟨hdb₁.withLog log, ?_⟩
    show w₁.db.drawn = _
    rw [hdrawn, List.filterMap_cons, he]
    show _ = Portrait.follow w.db.drawn e
    rw [Portrait.follow, haction, AuditAction.ofName?_name, hentityId, hid]

namespace Command

/-- The reasons that a command gives for a permission are texts or none. -/
def PlainReasons : Command → Prop
  | addPermission _ rule => rule.reason.isReason = true
  | updatePermission _ _ change =>
      ∀ parts reason, change = .edits parts → parts.reason = some reason → reason.isReason = true
  | _ => True

theorem addPermission_applies {roleId : Uuid} {rule : RuleInput} {p : Permission}
    {db db' : Database} (hdb : db.Told) (hreason : rule.reason.isReason = true)
    (hwrites : (addPermission roleId rule).Writes db p db') {snapshot : List (String × Value)}
    (hsnapshot : p.snapshot = .ok snapshot) {after : Value}
    (hafter : (Value.map snapshot).stored = .ok after) :
    db'.Told ∧ db'.drawn = Portrait.apply .grantPermission roleId.text after db.drawn := by
  obtain ⟨hrole, ⟨id, createdAt, rfl⟩, hinsert⟩ := hwrites
  have hshaped := rule.toPermission_shaped id roleId createdAt
  have hplain : (rule.toPermission id roleId createdAt).toTerms.Plain := ⟨⟨_, rfl⟩, hreason⟩
  cases hsnapshot.symm.trans (hshaped.snapshot_eq _)
  obtain ⟨hdb', row, hrow, hdrawn⟩ := Database.insertPermission_told hdb hshaped hplain hrole hinsert
  cases hafter.symm.trans (Database.stored_shown hshaped hplain hrow)
  exact ⟨hdb', hdrawn⟩

theorem updatePermission_applies {roleId permissionId : Uuid} {change : RuleChange} {p : Permission}
    {db db' : Database} (hdb : db.Told)
    (hreasons : ∀ parts reason, change = .edits parts → parts.reason = some reason →
      reason.isReason = true)
    (hwrites : (updatePermission roleId permissionId change).Writes db p db')
    {snapshot : List (String × Value)} (hsnapshot : p.snapshot = .ok snapshot) {after : Value}
    (hafter : (Value.map snapshot).stored = .ok after) :
    db'.Told ∧ db'.drawn = Portrait.apply .updatePermission permissionId.text after db.drawn := by
  have hshaped := updatePermission_shaped hdb.shaped.rows hwrites
  obtain ⟨old, terms, hold, -, hterms, rfl, hupdate⟩ := hwrites
  obtain ⟨row, hrow, hid, hread⟩ := Database.permission?_some hold
  have hplain : terms.Plain := by
    refine RuleChange.apply_plain ?_ hreasons hterms
    rw [← hread, Database.readPermission_of_plain (hdb.plain row hrow)]
    exact hdb.plain row hrow
  have hkey : old.id = permissionId := by rw [← hread]; exact hid
  cases hsnapshot.symm.trans (hshaped.snapshot_eq _)
  have hfound : db.permission? ({ old with toTerms := terms } : Permission).id = some old := by
    rw [← hold, ← hkey]
  obtain ⟨hdb', written, hwritten, hdrawn⟩ :=
    Database.updatePermission_told hdb hshaped hplain hfound hupdate
  cases hafter.symm.trans (Database.stored_shown hshaped hplain hwritten)
  refine ⟨hdb', ?_⟩
  rw [hdrawn, ← hkey]
  rfl

/-- The note of a command tells what the command has made of the roles. -/
theorem note_applies {caller : Caller} {c : Command} {done : (c.stages caller).Changed}
    {db db' : Database} (hdb : db.Told) (hreasons : c.PlainReasons)
    (hwrites : c.Writes db ((c.stages caller).result done) db') {n : AuditNote}
    (hnote : c.note caller done = .ok n) {after : Value} (hafter : n.after.stored = .ok after) :
    db'.Told ∧ ∃ id, n.entityId = some id ∧
      db'.drawn = Portrait.apply n.action id after db.drawn := by
  cases c with
  | addPermission roleId rule =>
      obtain ⟨snapshot, hsnapshot, rfl⟩ := Fault.map_ok.mp hnote
      obtain ⟨hdb', hdrawn⟩ := addPermission_applies hdb hreasons hwrites hsnapshot hafter
      exact ⟨hdb', roleId.text, rfl, hdrawn⟩
  | removePermission roleId permissionId =>
      obtain ⟨hmem, hid, rfl⟩ := hwrites
      obtain ⟨snapshot, -, rfl⟩ := Fault.map_ok.mp hnote
      have htold := Database.deletePermission_told hdb hmem
      rw [hid] at htold
      exact ⟨htold.1, permissionId.text, congrArg (fun id : Uuid => some id.text) hid, htold.2⟩
  | updatePermission roleId permissionId change =>
      obtain ⟨snapshot, hsnapshot, rfl⟩ := Fault.map_ok.mp hnote
      obtain ⟨hdb', hdrawn⟩ := updatePermission_applies hdb hreasons hwrites hsnapshot hafter
      exact ⟨hdb', permissionId.text, rfl, hdrawn⟩
  | createRole name description =>
      cases hnote
      obtain ⟨-, -, -, hinsert⟩ := hwrites
      obtain ⟨hdb', hdrawn⟩ := Database.insertRole_told hdb hinsert
      cases hafter
      exact ⟨hdb', _, rfl, hdrawn⟩
  | updateRole id name description =>
      cases hnote
      obtain ⟨old, name?, description?, -, -, -, hnew, hupdate⟩ := hwrites
      obtain ⟨hdb', hdrawn⟩ := Database.updateRole_told hdb hupdate
      obtain ⟨before, new⟩ := done
      have hstored : (Value.map new.snapshot).stored = .ok (.map new.snapshot) := by
        unfold Role.snapshot
        cases new.description <;> rfl
      cases hafter.symm.trans hstored
      exact ⟨hdb', _, rfl, hdrawn⟩
  | deleteRole id =>
      cases hnote
      obtain ⟨-, rfl⟩ := hwrites
      obtain ⟨hdb', hdrawn⟩ := Database.deleteRole_told hdb id
      exact ⟨hdb', _, rfl, hdrawn⟩
  | reassignRole accountId roleId =>
      cases hnote
      obtain ⟨old, -, -, -, rfl⟩ := hwrites
      obtain ⟨hdb', hdrawn⟩ := Database.setAccountRole_told hdb accountId roleId
      exact ⟨hdb', _, rfl, hdrawn⟩

end Command

theorem addItem_error {roleId : Uuid} {caller : Caller} {item : Value} {w w₁ : World} {f : Failure}
    (h : (addItem roleId caller item).change w = (.error f, w₁)) : w₁.db = w.db := by
  rcases Work.bind_error.mp h with h | ⟨rule, w₂, hread, h⟩
  · obtain ⟨-, rfl⟩ := Work.ofResult_error.mp h
    rfl
  · obtain ⟨-, rfl⟩ := Work.ofResult_ok.mp hread
    exact (World.state_eq.mp ((insert_atomic roleId rule).error h).2).1

theorem addItem_depicted (roleId : Uuid) (caller : Caller) {item : Value}
    (hreasons : ∀ rule, RuleInput.ofValue item = .ok rule → rule.reason.isReason = true) :
    Work.Depicted (addItem roleId caller item).run
      ((addItem roleId caller item).recordings (grantNote roleId caller)) := by
  refine Stages.run_depicted (addItem_noted roleId caller item) (fun hdb hchange => ?_) addItem_error
  obtain ⟨rule, hrule, hwrites⟩ := addItem_ok hchange
  exact ⟨recordInsert_logs caller roleId (Command.addPermission_shaped hwrites),
    fun n after hnote hafter => @Command.note_applies caller (.addPermission roleId rule) _ _ _ hdb
      (hreasons rule hrule) hwrites n hnote after hafter⟩

theorem removeItem_depicted (roleId : Uuid) (caller : Caller) (id : Uuid) :
    Work.Depicted (removeItem roleId caller id).run
      ((removeItem roleId caller id).recordings (revokeNote roleId caller)) := by
  refine Stages.run_depicted (removeItem_noted roleId caller id) (fun hdb hchange => ?_)
    fun hchange => (World.state_eq.mp ((erase_atomic roleId id).error hchange).2).1
  have hwrites := removeItem_ok hchange
  exact ⟨recordErase_logs caller roleId (Command.removePermission_shaped hdb.shaped.rows hwrites),
    fun n after hnote hafter => @Command.note_applies caller (.removePermission roleId id) _ _ _ hdb
      trivial hwrites n hnote after hafter⟩

theorem bulkItem_depicted (item : Value) {t : Work Uuid} {made : World → List Recording}
    (ht : Work.Depicted t made) : Work.Depicted (bulkItem item t) made := by
  refine ht.attempt.bindKept fun r => ?_
  rcases r with (why | why) | id
  · exact Work.Keeps.pure _
  · exact Work.Keeps.fail _
  · exact Work.Keeps.pure _

theorem each_depicted {ι : Type} {run : List ι → Work (List BulkItem)} {one : ι → Work BulkItem}
    {made : ι → World → List Recording} (heach : Each run one) (xs : List ι)
    (hone : ∀ x ∈ xs, Work.Depicted (one x) (made x)) :
    Work.Depicted (run xs) (eachRecordings one made xs) := by
  induction xs with
  | nil =>
      rw [heach.nil]
      exact Work.Depicted.kept (Work.Keeps.pure [])
  | cons x rest ih =>
      rw [heach.cons]
      exact Work.Depicted.bind (hone x List.mem_cons_self) fun _ =>
        (ih fun y hy => hone y (List.mem_cons_of_mem x hy)).bindKept fun _ => Work.Keeps.pure _

namespace Operation

/-- The reasons that an operation gives for permissions are texts or none. -/
def PlainReasons : Operation → Prop
  | one c => c.PlainReasons
  | addPermissions _ rules => ∀ items, rules.items = .ok items → ∀ item ∈ items, ∀ rule,
      RuleInput.ofValue item = .ok rule → rule.reason.isReason = true
  | removePermissions .. => True

theorem execute_depicted (caller : Caller) (op : Operation) (hreasons : op.PlainReasons) :
    Work.Depicted (op.execute caller) (op.recordings caller) := by
  cases op with
  | one c =>
      show Work.Depicted (c.execute caller) _
      rw [c.execute_eq caller]
      have hwhole := c.stages_whole caller
      refine Stages.run_depicted (c.stages_noted caller) (fun hdb hchange => ?_)
        fun hchange => (World.state_eq.mp (hwhole.error hchange).2).1
      exact ⟨hwhole.closes hdb.shaped.rows hchange, fun n after hnote hafter =>
        Command.note_applies hdb hreasons (hwhole.ok hchange).1 hnote hafter⟩
  | addPermissions roleId rules =>
      show Work.Depicted (Mutation.addPermissions roleId rules caller)
        (addRecordings roleId caller rules.items)
      unfold Mutation.addPermissions
      cases hitems : rules.items with
      | error e => exact Work.Depicted.kept (Work.Keeps.fail _)
      | ok items =>
          have hone : ∀ item ∈ items, Work.Depicted (bulkItem item (addOne roleId caller item))
              ((addItem roleId caller item).recordings (grantNote roleId caller)) := by
            intro item hitem
            rw [addOne_eq]
            exact bulkItem_depicted item
              (addItem_depicted roleId caller (hreasons items hitems item hitem))
          exact (each_depicted (addEach_each roleId caller) items hone).bindKept fun _ =>
            Work.Keeps.bind (Stages.reload_db (some roleId)) fun _ => Work.Keeps.pure _
  | removePermissions roleId ids =>
      have hone : ∀ id ∈ ids, Work.Depicted (bulkItem (.text id.text) (removeOne roleId caller id))
          ((removeItem roleId caller id).recordings (revokeNote roleId caller)) := fun id _ =>
        bulkItem_depicted _ (removeItem_depicted roleId caller id)
      exact (each_depicted (removeEach_each roleId caller) ids hone).bindKept fun _ =>
        Work.Keeps.bind (Stages.reload_db (some roleId)) fun _ => Work.Keeps.pure _

end Operation

end Mutation

/-- Nothing in the tables, nothing in the cache, and nothing that fails. -/
def World.blank : World := { World.sample .none with db := ⟨[], [], [], []⟩ }

namespace Trail

variable {w w' : World} {deeds : List Deed}

/-- Following the entries of a run leads from the portraits before it to those after it. -/
theorem drawn (h : Trail w deeds w') (hdb : w.db.Told) (hreasons : ∀ d ∈ deeds, d.op.PlainReasons)
    (hwritten : ∀ d ∈ deeds, ∀ r ∈ d.recordings, r.entry?.isSome = true) :
    w'.db.Told ∧
      w'.db.drawn = (deeds.flatMap Deed.entries).foldl Portrait.follow w.db.drawn := by
  induction h with
  | start => exact ⟨hdb, rfl⟩
  | meanwhile _ same ih =>
      rw [(World.state_eq.mp same).1]
      exact ih hreasons hwritten
  | @step w₁ deeds before op caller ih =>
      obtain ⟨hdb₁, hdrawn₁⟩ := ih (fun d hd => hreasons d (List.mem_append_left _ hd))
        fun d hd => hwritten d (List.mem_append_left _ hd)
      have hlast : (⟨op, caller, w₁⟩ : Deed) ∈ deeds ++ [⟨op, caller, w₁⟩] :=
        List.mem_append_right _ (List.mem_singleton_self _)
      obtain ⟨hdb', hdrawn'⟩ := op.execute_depicted caller (hreasons _ hlast) _ hdb₁
        (hwritten _ hlast)
      refine ⟨hdb', ?_⟩
      rw [hdrawn', hdrawn₁, List.flatMap_append, List.flatMap_singleton, List.foldl_append]
      rfl

/-- From tables without roles on, if the log takes every entry of a run, those entries tell all
roles there are after it: their names, and the snapshots of their permissions in order. -/
theorem replayed (hroles : w.db.roles = [])
    (howned : ∀ p ∈ w.db.permissions, w.db.hasRole p.roleId = true) (h : Trail w deeds w')
    (hreasons : ∀ d ∈ deeds, d.op.PlainReasons)
    (hwritten : ∀ d ∈ deeds, ∀ r ∈ d.recordings, r.entry?.isSome = true) :
    ∃ entries, w'.db.auditLog = w.db.auditLog ++ entries ∧
      w'.db.portraits = .ok (Portrait.replay entries) := by
  have hnone : w.db.permissions = [] := by
    refine List.eq_nil_iff_forall_not_mem.mpr fun p hp => ?_
    have hrole := howned p hp
    rw [Database.hasRole, hroles] at hrole
    cases hrole
  have hempty : w.db.Told := by
    refine ⟨⟨?_, ?_⟩, ?_, howned⟩ <;> rw [hnone]
    · exact fun p hp => absurd hp List.not_mem_nil
    · exact List.nodup_nil
    · exact fun p hp => absurd hp List.not_mem_nil
  obtain ⟨hdb', hdrawn⟩ := h.drawn hempty hreasons hwritten
  refine ⟨deeds.flatMap Deed.entries, h.log, ?_⟩
  rw [hdb'.portraits_eq, hdrawn, Database.drawn, hroles]
  rfl

/-- A role is created, given a permission and then another name, and the permission is inverted:
the four entries tell of one role with one rule. -/
theorem replayed_staff :
    ∃ deeds w' entries, Trail World.blank deeds w' ∧ w'.db.roles.length = 1 ∧
      w'.db.permissions.length = 1 ∧ entries.length = 4 ∧
      w'.db.auditLog = World.blank.db.auditLog ++ entries ∧
      w'.db.portraits = .ok (Portrait.replay entries) := by
  have hrun := (((Trail.start World.blank).step
    (.one (.createRole (.text "clerks") .null)) {}).step
    (.addPermissions (Work.freshId 1) (.list [.map [("action", .text "read"),
      ("subject", .text "account"), ("reason", .text "at work")]])) {}).step
    (.one (.updateRole (Work.freshId 1) (.text "staff") .null)) {}
  have hrun := hrun.step (.one (.updatePermission (Work.freshId 1) (Work.freshId 3)
    (.edits { inverted := some true, reason := some .null }))) {}
  obtain ⟨entries, hlog, hportraits⟩ := replayed rfl (fun p hp => absurd hp List.not_mem_nil) hrun
    (by
      simp only [List.forall_mem_append, List.forall_mem_singleton, List.nil_append]
      refine ⟨⟨⟨trivial, fun items hitems item hitem rule hrule => ?_⟩, trivial⟩, ?_⟩
      · cases hitems
        cases List.mem_singleton.mp hitem
        cases hrule
        rfl
      · intro parts reason hparts hreason
        cases hparts
        cases hreason
        rfl)
    (by decide +kernel)
  refine ⟨_, _, entries, hrun, by decide +kernel, by decide +kernel, ?_, hlog, hportraits⟩
  have hfour : (World.blank.db.auditLog ++ entries).length = 4 := by
    rw [← hlog]
    decide +kernel
  exact hfour

end Trail

end Warrant
