import Warrant.Proofs.Removal

/-!
# Removing several permissions

A run over several permissions removes one after the other and loads their role
again at its end. If what is there of them can be shown, the run comes to its
end, whatever steps fail: the invariant is that what is still there was there
before, so that what could be shown still can. Then every id has its result, the
tables are those without what was removed, and if the reload succeeds nothing of
it is left in the cache.

One permission that lacks its names breaks the run off before the reload. It is
gone by then, and so is what came before it, and the cache has all of it.
-/

namespace Warrant

namespace Audit

theorem record_faults (note : AuditNote) : Work.Keeps World.faults (record note) := by
  have happend : Work.Keeps World.faults (append note) :=
    Work.Keeps.bind (fun w => ((compose_silent note).passes w).faults) fun _ =>
      Work.Keeps.bind (Work.Keeps.transactBeside (fun _ _ => rfl) (fun _ _ => rfl)
        (Work.Keeps.writeBeside (fun _ _ => rfl) (fun _ _ => rfl) _ _)) fun _ => Work.Keeps.pure _
  refine Work.Keeps.bind happend.attempt fun found => ?_
  cases found with
  | error f => exact Work.Keeps.pure none
  | ok entry => exact Work.Keeps.pure (some entry)

end Audit

namespace Database

variable {db : Database} {roleId : Uuid}

theorem row_of_rule {rules : List Rule} {r : Rule} (h : db.rulesFor roleId = .ok (some rules))
    (hr : r ∈ rules) : ∃ row ∈ db.permissions, row.roleId = roleId ∧ r.permissionId = .uuid row.id := by
  unfold rulesFor at h
  split at h
  · obtain ⟨read, hread, heq⟩ := Fault.map_ok.mp h
    cases heq
    obtain ⟨p, hp, hstates⟩ := exists_left_of_mem (Rule.forall₂_of_ofPermissions hread) hr
    obtain ⟨row, hrow, hrole, rfl⟩ := mem_permissionsOf hp
    exact ⟨row, hrow, hrole, hstates.permissionId⟩
  · cases h

/-- The tables without the permissions that have certain ids. -/
def without (db : Database) (gone : List Uuid) : Database :=
  { db with permissions := db.permissions.filter fun p => p.id ∉ gone }

theorem without_nil (db : Database) : db.without [] = db := by
  simp [without]

theorem deletePermission_without (db : Database) (id : Uuid) (gone : List Uuid) :
    (db.deletePermission id).without gone = db.without (id :: gone) := by
  simp [without, deletePermission, List.filter_filter, Bool.and_comm]

/-- The permission that is meant is there and lacks its names. -/
def Nameless (db : Database) (roleId id : Uuid) : Prop :=
  ∃ p, db.permissionIn? roleId id = some p ∧ p.lacksNames = true

end Database

namespace Mutation

variable {w w' : World} {roleId id : Uuid} {caller : Caller}

/-! ## One after the other -/

/-- The ids of the permissions that were removed, by the results. -/
def removed (results : List BulkItem) : List Uuid := results.filterMap fun b => b.outcome.toOption

/-- The result for an id: it is given under that id, and what was removed is the permission that was
meant. -/
structure BulkItem.Answers (db : Database) (roleId id : Uuid) (b : BulkItem) : Prop where
  item : b.item = .text id.text
  outcome : ∀ done, b.outcome = .ok done → done = id ∧ db.permissionIn? roleId id ≠ none

/-- What is meant can be shown, if it is there. -/
def Shows (db : Database) (roleId id : Uuid) : Prop :=
  ∀ p, db.permissionIn? roleId id = some p → ∃ s, p.snapshot = .ok s

theorem shows_of_serves {db : Database} (hserves : db.Serves roleId id)
    (hnamed : ¬ db.Nameless roleId id) : Shows db roleId id := by
  intro p hp
  obtain ⟨r, hrule⟩ := hserves p hp
  exact Terms.exists_snapshot hrule (Bool.eq_false_iff.mpr fun hnames => hnamed ⟨p, hp, hnames⟩)

theorem permissionIn?_of_erased {db : Database} {gone : Uuid} {log : List AuditEntry}
    {p : Permission} (h : ((db.deletePermission gone).withLog log).permissionIn? roleId id = some p) :
    id ≠ gone ∧ db.permissionIn? roleId id = some p := by
  have h : (db.deletePermission gone).permissionIn? roleId id = some p := h
  rw [Database.permissionIn?_deletePermission] at h
  split at h
  · cases h
  · next hne => exact ⟨hne, h⟩

/-- One of several permissions is removed, or it is refused and leaves no trace, whatever becomes of
the steps, if it can be shown. -/
theorem removeOne_shown (caller : Caller) (hshows : Shows w.db roleId id) :
    (∃ w' log, removeOne roleId caller id w = (.ok id, w') ∧
      w.db.permissionIn? roleId id ≠ none ∧
      w'.db = (w.db.deletePermission id).withLog log ∧ w'.cache = w.cache) ∨
    ∃ why w', removeOne roleId caller id w = (.error (.refused why), w') ∧ w'.state = w.state := by
  rcases hrun : erase roleId id w with ⟨f | p, w₁⟩
  · obtain ⟨⟨why, rfl⟩, hsame⟩ := (erase_atomic roleId id).error hrun
    have hend : (removeItem roleId caller id).run w = (.error (.refused why), w₁) :=
      Stages.run_of_error hrun
    exact Or.inr ⟨why, w₁, hend, hsame⟩
  · obtain ⟨hfound, hgone⟩ := erase_found hrun
    obtain ⟨s, hs⟩ := hshows p hfound
    have hlogs : Work.Logs (recordErase caller roleId p) := Work.Logs.ofSnapshot hs _
    obtain ⟨log, hlog⟩ := (hlogs.log w₁).withLog
    have hend : (removeItem roleId caller id).run w = (.ok id, (recordErase caller roleId p w₁).2) :=
      Stages.run_of_ok hrun hlogs
    refine Or.inl ⟨_, log, hend, ?_, ?_, ?_⟩
    · rw [hfound]
      exact Option.some_ne_none p
    · rw [hlog, hgone]
    · exact (hlogs.cache w₁).trans ((erase_atomic roleId id).cache.after hrun)

/-- What a run over several permissions comes to before the reload: a result for each id, and the
tables are those without what was removed. -/
structure WorksOff (roleId : Uuid) (ids : List Uuid) (w : World) (results : List BulkItem)
    (w' : World) : Prop where
  answers : List.Forall₂ (fun id b => b.Answers w.db roleId id) ids results
  gone : ∃ log, w'.db = (w.db.without (removed results)).withLog log
  cache : w'.cache = w.cache

theorem WorksOff.nil (roleId : Uuid) (w : World) : WorksOff roleId [] w [] w := by
  refine ⟨.nil, ⟨w.db.auditLog, ?_⟩, rfl⟩
  show w.db = (w.db.without []).withLog w.db.auditLog
  rw [Database.without_nil]
  rfl

theorem WorksOff.refused {ids : List Uuid} {results : List BulkItem} {w₁ : World} (why : Refusal)
    (hsame : w₁.state = w.state) (h : WorksOff roleId ids w₁ results w') :
    WorksOff roleId (id :: ids) w (⟨.text id.text, .error why⟩ :: results) w' := by
  obtain ⟨hdb, hcache⟩ := World.state_eq.mp hsame
  obtain ⟨hanswers, hgone, hkept⟩ := h
  rw [hdb] at hanswers hgone
  exact ⟨.cons ⟨rfl, nofun⟩ hanswers, hgone, hkept.trans hcache⟩

/-- What was removed first is not among what the rest finds. -/
theorem WorksOff.erased {ids : List Uuid} {results : List BulkItem} {w₁ : World}
    {log : List AuditEntry} (hfound : w.db.permissionIn? roleId id ≠ none)
    (hdb : w₁.db = (w.db.deletePermission id).withLog log) (hcache : w₁.cache = w.cache)
    (h : WorksOff roleId ids w₁ results w') :
    WorksOff roleId (id :: ids) w (⟨.text id.text, .ok id⟩ :: results) w' := by
  obtain ⟨hanswers, ⟨log', hgone⟩, hkept⟩ := h
  refine ⟨.cons ⟨rfl, fun done hdone => ?_⟩ (hanswers.imp fun other b hb => ?_), ⟨log', ?_⟩,
    hkept.trans hcache⟩
  · cases hdone
    exact ⟨rfl, hfound⟩
  · refine ⟨hb.item, fun done hdone => ?_⟩
    obtain ⟨hid, hsome⟩ := hb.outcome done hdone
    obtain ⟨p, hp⟩ := Option.ne_none_iff_exists'.mp hsome
    rw [hdb] at hp
    rw [(permissionIn?_of_erased hp).2]
    exact ⟨hid, Option.some_ne_none p⟩
  · rw [hgone, hdb]
    show ((w.db.deletePermission id).without (removed results)).withLog log' = _
    rw [Database.deletePermission_without]
    rfl

/-- Whatever becomes of the steps, several permissions that can be shown are worked off. -/
theorem removeEach_worksOff (roleId : Uuid) (caller : Caller) (ids : List Uuid) :
    ∀ w : World, (∀ id ∈ ids, Shows w.db roleId id) →
      ∃ results w', removeEach roleId caller ids w = (.ok results, w') ∧
        WorksOff roleId ids w results w' := by
  -- By induction on the ids, in any world: what can be shown now still can after the first.
  induction ids with
  | nil => exact fun w _ => ⟨[], w, rfl, .nil roleId w⟩
  | cons id rest ih =>
      intro w hshows
      obtain ⟨hfirst, hrest⟩ := List.forall_mem_cons.mp hshows
      have hrun : ∀ {b : BulkItem} {w₁ : World},
          bulkItem (.text id.text) (removeOne roleId caller id) w = (.ok b, w₁) →
          (∀ other ∈ rest, Shows w₁.db roleId other) →
          ∃ results w', removeEach roleId caller (id :: rest) w = (.ok (b :: results), w') ∧
            WorksOff roleId rest w₁ results w' := by
        intro b w₁ hb hshown
        obtain ⟨results, w', hresults, hoff⟩ := ih w₁ hshown
        exact ⟨results, w', (removeEach_each roleId caller).run_cons hb hresults, hoff⟩
      rcases removeOne_shown caller hfirst with
        ⟨w₁, log, hone, hfound, hgone, hcache⟩ | ⟨why, w₁, hone, hsame⟩
      · obtain ⟨results, w', hend, hoff⟩ := hrun (bulkItem_of_ok _ hone) fun other hother p hp => by
          rw [hgone] at hp
          exact hrest other hother p (permissionIn?_of_erased hp).2
        exact ⟨_, w', hend, hoff.erased hfound hgone hcache⟩
      · obtain ⟨results, w', hend, hoff⟩ := hrun (bulkItem_of_refused _ hone) (by
          rw [(World.state_eq.mp hsame).1]
          exact hrest)
        exact ⟨_, w', hend, hoff.refused why hsame⟩

/-! ### Breaking off -/

theorem removeOne_faults (roleId : Uuid) (caller : Caller) (id : Uuid) :
    Work.Keeps World.faults (removeOne roleId caller id) := by
  have herase : Work.Keeps World.faults (erase roleId id) := fun w =>
    (World.supplies_eq.mp (erase_supplies roleId id w)).2.2
  exact Work.Keeps.bind herase fun p => Work.Keeps.bind (Work.Keeps.bind (Work.Keeps.ofFault _)
    fun s => Work.Keeps.bind (Audit.record_faults _) fun _ => Work.Keeps.pure ()) fun _ =>
      Work.Keeps.pure id

/-- A run over several permissions has broken off before the reload: a permission without names is
gone, and the cache is as it was. -/
structure BreaksOff (roleId : Uuid) (ids : List Uuid) (w w' : World) : Prop where
  gone : ∃ id ∈ ids, w.db.Nameless roleId id ∧ w'.db.permissionIn? roleId id = none
  cache : w'.cache = w.cache

/-- What a permission that is removed leaves of the others, and one that is refused of all. -/
structure Spares (roleId id : Uuid) (w w' : World) : Prop where
  others : ∀ other, other ≠ id → w'.db.permissionIn? roleId other = w.db.permissionIn? roleId other
  before : ∀ other p, w'.db.permissionIn? roleId other = some p →
    w.db.permissionIn? roleId other = some p
  cache : w'.cache = w.cache

theorem Spares.serves {other : Uuid} (h : Spares roleId id w w') (hserves : w.db.Serves roleId other) :
    w'.db.Serves roleId other := fun p hp => hserves p (h.before other p hp)

theorem Spares.breaksOff {ids : List Uuid} {w₁ : World} (h : Spares roleId id w w₁)
    (hoff : BreaksOff roleId ids w₁ w') : BreaksOff roleId (id :: ids) w w' := by
  obtain ⟨⟨other, hother, ⟨p, hp, hnames⟩, hgone⟩, hcache⟩ := hoff
  exact ⟨⟨other, List.mem_cons_of_mem _ hother, ⟨p, h.before other p hp, hnames⟩, hgone⟩,
    hcache.trans h.cache⟩

theorem bulkItem_spares (caller : Caller) (hshows : Shows w.db roleId id) :
    ∃ b w₁, bulkItem (.text id.text) (removeOne roleId caller id) w = (.ok b, w₁) ∧
      Spares roleId id w w₁ := by
  rcases removeOne_shown caller hshows with
    ⟨w₁, log, hone, -, hgone, hcache⟩ | ⟨why, w₁, hone, hsame⟩
  · refine ⟨_, w₁, bulkItem_of_ok _ hone, fun other hother => ?_, fun other p hp => ?_, hcache⟩
    · rw [hgone]
      show (w.db.deletePermission id).permissionIn? roleId other = _
      rw [Database.permissionIn?_deletePermission, if_neg hother]
    · rw [hgone] at hp
      exact (permissionIn?_of_erased hp).2
  · obtain ⟨hdb, hcache⟩ := World.state_eq.mp hsame
    exact ⟨_, w₁, bulkItem_of_refused _ hone, fun _ _ => by rw [hdb], fun _ _ hp => by rwa [hdb] at hp,
      hcache⟩

/-- A permission that states a rule but lacks its names is removed, and then the run breaks. -/
theorem removeOne_nameless (hsound : w.faults = FaultPlan.none) (caller : Caller)
    (hserves : w.db.Serves roleId id) (hnameless : w.db.Nameless roleId id) :
    ∃ w', removeOne roleId caller id w = (.error (.broke .wrongKind), w') ∧
      w'.db.permissionIn? roleId id = none ∧ w'.cache = w.cache := by
  obtain ⟨p, hfound, hnames⟩ := hnameless
  obtain ⟨r, hrule⟩ := hserves p hfound
  obtain ⟨w', hrun⟩ := erase_apply hsound hfound
  refine ⟨w', ?_, ?_, (erase_atomic roleId id).cache.after hrun⟩
  · unfold removeOne
    rw [Work.bind_of_ok hrun,
      Work.bind_of_error (recordErase_broke (Terms.snapshot_of_lacksNames hrule hnames) w')]
  · rw [(erase_found hrun).2, Database.permissionIn?_deletePermission, if_pos rfl]

theorem removeEach_breaksOff (roleId : Uuid) (caller : Caller) (ids : List Uuid) :
    ∀ w : World, w.faults = FaultPlan.none → (∀ id ∈ ids, w.db.Serves roleId id) →
      (∃ id ∈ ids, w.db.Nameless roleId id) →
      ∃ w', removeEach roleId caller ids w = (.error (.broke .wrongKind), w') ∧
        BreaksOff roleId ids w w' := by
  induction ids with
  | nil => exact fun w _ _ ⟨_, hid, _⟩ => absurd hid List.not_mem_nil
  | cons id rest ih =>
      intro w hsound hserves hnameless
      obtain ⟨hfirst, hrest⟩ := List.forall_mem_cons.mp hserves
      rw [(removeEach_each roleId caller).cons]
      by_cases hhere : w.db.Nameless roleId id
      · obtain ⟨w', hone, hgone, hcache⟩ := removeOne_nameless hsound caller hfirst hhere
        refine ⟨w', ?_, ⟨id, List.mem_cons_self, hhere, hgone⟩, hcache⟩
        rw [Work.bind_of_error (bulkItem_of_broke _ hone)]
      -- The permission without names is another one, and it is still there for the rest.
      · obtain ⟨b, w₁, hone, hspares⟩ := bulkItem_spares caller (shows_of_serves hfirst hhere)
        have hlater : ∃ other ∈ rest, w₁.db.Nameless roleId other := by
          obtain ⟨other, hother, p, hp, hnames⟩ := hnameless
          have hne : other ≠ id := by
            rintro rfl
            exact hhere ⟨p, hp, hnames⟩
          refine ⟨other, (List.mem_cons.mp hother).resolve_left hne, p, ?_, hnames⟩
          rw [hspares.others other hne]
          exact hp
        have hsound₁ : w₁.faults = FaultPlan.none :=
          ((bulkItem_keeps _ (removeOne_faults roleId caller id)).after hone).trans hsound
        obtain ⟨w', hend, hoff⟩ := ih w₁ hsound₁
          (fun other hother => hspares.serves (hrest other hother)) hlater
        refine ⟨w', ?_, hspares.breaksOff hoff⟩
        rw [Work.bind_of_ok hone, Work.bind_of_error hend]

/-! ### The run as a whole -/

theorem removePermissions_of_ok {ids : List Uuid} {results : List BulkItem} {w₁ : World}
    (h : removeEach roleId caller ids w = (.ok results, w₁)) :
    removePermissions roleId ids caller w = (.ok results, (Reload.refresh roleId w₁).2) := by
  unfold removePermissions
  rw [Work.bind_of_ok h]
  rfl

theorem removePermissions_of_error {ids : List Uuid} {f : Failure} {w₁ : World}
    (h : removeEach roleId caller ids w = (.error f, w₁)) :
    removePermissions roleId ids caller w = (.error f, w₁) := by
  unfold removePermissions
  rw [Work.bind_of_error h]

/-- Whether the reload at the end of a run over several permissions succeeds. -/
def ReloadsAfter (roleId : Uuid) (ids : List Uuid) (caller : Caller) (w : World) : Prop :=
  ((Operation.removePermissions roleId ids).stages caller).Reloads w

theorem reloadsAfter_iff {ids : List Uuid} {results : List BulkItem} {w₁ : World}
    (h : removeEach roleId caller ids w = (.ok results, w₁)) :
    ReloadsAfter roleId ids caller w ↔ (Reload.invalidate roleId w₁).1 = .ok () := by
  have hat : ((Operation.removePermissions roleId ids).stages caller).reloadAt w =
      some (roleId, w₁) := by
    unfold Stages.reloadAt Operation.stages
    dsimp only
    rw [h]
    rfl
  unfold ReloadsAfter Stages.Reloads
  rw [hat]
  constructor
  · exact fun hreloads => hreloads roleId w₁ rfl
  · intro hends id w₂ hsome
    obtain ⟨rfl, rfl⟩ := Prod.mk.inj (Option.some.inj hsome)
    exact hends

/-- What the removal of several permissions comes to when each of them that is there can be shown.
Every id has its result, the tables are those without what was removed, and the rules of other roles
are as they were. Those of the role itself are what the tables state, and nothing of what was
removed is left in them; but if they could not be loaded again, they are as they were. -/
structure BulkRemoval (roleId : Uuid) (ids : List Uuid) (caller : Caller) (w : World)
    (results : List BulkItem) (w' : World) : Prop where
  answers : List.Forall₂ (fun id b => b.Answers w.db roleId id) ids results
  gone : ∃ log, w'.db = (w.db.without (removed results)).withLog log
  others : ∀ other, other ≠ roleId → w'.cache.get? other = w.cache.get? other
  loaded : ReloadsAfter roleId ids caller w → w'.db.rulesFor roleId = .ok (w'.cache.get? roleId)
  kept : ¬ ReloadsAfter roleId ids caller w → w'.cache = w.cache
  forgotten : ReloadsAfter roleId ids caller w → ∀ other rules, w'.cache.get? other = some rules →
    other = roleId ∨ w.cache.Mirrors w.db →
      ∀ r ∈ rules, ∀ id ∈ removed results, r.permissionId ≠ .uuid id

theorem mem_removed {results : List BulkItem} :
    id ∈ removed results ↔ ∃ b ∈ results, b.outcome = .ok id := by
  have houtcome : ∀ b : BulkItem, b.outcome.toOption = some id ↔ b.outcome = .ok id := by
    intro b
    cases b.outcome <;> simp [Except.toOption]
  simp only [removed, List.mem_filterMap, houtcome]

theorem WorksOff.row {ids : List Uuid} {results : List BulkItem} (hdb : w.db.Typed)
    (h : WorksOff roleId ids w results w') (hid : id ∈ removed results) :
    ∃ row ∈ w.db.permissions, row.roleId = roleId ∧ row.id = id := by
  obtain ⟨b, hb, houtcome⟩ := mem_removed.mp hid
  obtain ⟨other, -, hanswers⟩ := exists_left_of_mem h.answers hb
  obtain ⟨rfl, hfound⟩ := hanswers.outcome id houtcome
  obtain ⟨p, hp⟩ := Option.ne_none_iff_exists'.mp hfound
  obtain ⟨hrow, hrole⟩ := hdb.permissionIn?_row hp
  exact ⟨p, hrow, hrole, (Database.permissionIn?_some hp).2.2⟩

/-- Nothing of what is gone is among the rules that the tables state of any role. -/
theorem not_removed_of_gone {db : Database} {gone : List Uuid} {log : List AuditEntry}
    {rules : List Rule} {r : Rule}
    (hrules : ((db.without gone).withLog log).rulesFor roleId = .ok (some rules)) (hr : r ∈ rules)
    (hid : id ∈ gone) : r.permissionId ≠ .uuid id := by
  intro hrule
  obtain ⟨row, hrow, -, hkey⟩ := Database.row_of_rule hrules hr
  have hspared : row.id ∉ gone := of_decide_eq_true (List.mem_filter.mp hrow).2
  rw [hrule, Value.uuid.injEq] at hkey
  exact hspared (hkey ▸ hid)

theorem WorksOff.not_removed_of_other {ids : List Uuid} {results : List BulkItem} {other : Uuid}
    {rules : List Rule} {r : Rule} (hdb : w.db.Typed) (h : WorksOff roleId ids w results w')
    (hne : other ≠ roleId) (hrules : w.db.rulesFor other = .ok (some rules)) (hr : r ∈ rules)
    (hid : id ∈ removed results) : r.permissionId ≠ .uuid id := by
  intro hrule
  obtain ⟨row, hrow, hother, hkey⟩ := Database.row_of_rule hrules hr
  obtain ⟨old, hold, hrole, hid⟩ := h.row hdb hid
  rw [hrule, Value.uuid.injEq] at hkey
  rw [Command.eq_of_key hdb hrow hold (hkey.symm.trans hid.symm), hrole] at hother
  exact hne hother.symm

theorem WorksOff.bulkRemoval {ids : List Uuid} {results : List BulkItem} {w₁ : World}
    (hdb : w.db.Typed) (hrun : removeEach roleId caller ids w = (.ok results, w₁))
    (h : WorksOff roleId ids w results w₁) :
    BulkRemoval roleId ids caller w results (Reload.refresh roleId w₁).2 := by
  obtain ⟨log, hgone⟩ := h.gone
  have hsame : (Reload.refresh roleId w₁).2.db = w₁.db := Reload.refresh_db roleId w₁
  have hothers : ∀ other, other ≠ roleId →
      (Reload.refresh roleId w₁).2.cache.get? other = w.cache.get? other := by
    intro other hne
    rw [← h.cache]
    exact Reload.invalidate_others hne w₁
  have hloaded : ReloadsAfter roleId ids caller w → (Reload.refresh roleId w₁).2.db.rulesFor roleId =
      .ok ((Reload.refresh roleId w₁).2.cache.get? roleId) := by
    intro hreloads
    rw [hsame]
    exact Reload.invalidate_own ((reloadsAfter_iff hrun).mp hreloads)
  refine ⟨h.answers, ⟨log, hsame.trans hgone⟩, hothers, hloaded, fun hfails => ?_,
    fun hreloads other rules hrules hwhere r hr id hid => ?_⟩
  · rw [← h.cache]
    exact Reload.invalidate_kept fun hends => hfails ((reloadsAfter_iff hrun).mpr hends)
  · by_cases hrole : other = roleId
    · have hstated := hloaded hreloads
      rw [hrole] at hrules
      rw [hrules, hsame, hgone] at hstated
      exact not_removed_of_gone hstated hr hid
    · have hstated := hwhere.resolve_left hrole other
      rw [← hothers other hrole, hrules] at hstated
      exact h.not_removed_of_other hdb hrole hstated hr hid

/-! ## All or nothing, but for names -/

/-- If nothing is in the way, removing a permission that states a rule is refused and leaves no
trace, or it is all of the removal, the reload and the record; only if it names no actions or no
subjects it breaks after the removal and the reload. And several such permissions are worked off
with a result for each, whatever becomes of the steps, and nothing that was removed stays in the
cache if the reload at the end succeeds; only if one of them lacks its names the run breaks off, and
the cache stays as it was. -/
theorem removal_whole_unless_nameless (roleId : Uuid) (caller : Caller) (hdb : w.db.Typed)
    (hreasons : ∀ p ∈ w.db.permissions, p.reason.isReason = true) :
    (∀ id, w.Calm → w.db.Serves roleId id →
      Removal roleId id caller w (removePermission roleId id caller w)) ∧
    ∀ ids, (∀ id ∈ ids, w.db.Serves roleId id) →
      ((∀ id ∈ ids, ¬ w.db.Nameless roleId id) →
        ∃ results w', removePermissions roleId ids caller w = (.ok results, w') ∧
          BulkRemoval roleId ids caller w results w') ∧
      ((∃ id ∈ ids, w.db.Nameless roleId id) → w.faults = FaultPlan.none →
        ∃ w', removePermissions roleId ids caller w = (.error (.broke .wrongKind), w') ∧
          BreaksOff roleId ids w w') := by
  refine ⟨fun id hw hserves => removePermission_calm caller hdb hreasons hw hserves,
    fun ids hserves => ⟨fun hnamed => ?_, fun hnameless hsound => ?_⟩⟩
  · obtain ⟨results, w₁, hrun, hoff⟩ := removeEach_worksOff roleId caller ids w fun id hid =>
      shows_of_serves (hserves id hid) (hnamed id hid)
    exact ⟨results, _, removePermissions_of_ok hrun, hoff.bulkRemoval hdb hrun⟩
  · obtain ⟨w', hrun, hoff⟩ := removeEach_breaksOff roleId caller ids w hsound hserves hnameless
    exact ⟨w', removePermissions_of_error hrun, hoff⟩

end Mutation

namespace World

/-- A permission of the clerks that names no actions. -/
def namelessPermission : Permission := { clerksMayRead with id := Uuid.ofNat 4, action := .null }

/-- The clerks with that permission too, and the rules of both in the cache. -/
def namelessClerks : World := (Reload.load none { sample .none with
  db := { (sample .none).db with permissions := [clerksMayRead, namelessPermission] } }).2

theorem namelessClerks_calm : namelessClerks.Calm := by
  have hruns : (namelessClerks.clock.now.add? namelessClerks.clock.tick).isSome = true := by
    decide +kernel
  exact ⟨(supplies_eq.mp (Reload.load_supplies none _)).2.2, hruns,
    by decide +kernel⟩

theorem namelessClerks_rows {p : Permission} (hp : p ∈ namelessClerks.db.permissions) :
    p = clerksMayRead ∨ p = namelessPermission := by
  have hdb : namelessClerks.db.permissions = [clerksMayRead, namelessPermission] :=
    congrArg Database.permissions (Reload.load_db none _)
  rw [hdb, List.mem_cons, List.mem_singleton] at hp
  exact hp

theorem namelessClerks_typed : namelessClerks.db.Typed := by
  refine ⟨by decide +kernel, fun p hp => ?_⟩
  rcases namelessClerks_rows hp with rfl | rfl <;> exact ⟨rfl, rfl, rfl, rfl, false, rfl⟩

theorem namelessClerks_reasons : ∀ p ∈ namelessClerks.db.permissions, p.reason.isReason = true := by
  intro p hp
  rcases namelessClerks_rows hp with rfl | rfl <;> rfl

theorem namelessClerks_log : namelessClerks.db.auditLog = [] :=
  congrArg Database.auditLog (Reload.load_db none _)

theorem namelessClerks_serves (id : Uuid) : namelessClerks.db.Serves clerks id := by
  intro p hp
  rcases namelessClerks_rows (namelessClerks_typed.permissionIn?_row hp).1 with rfl | rfl
  · exact ⟨_, rfl⟩
  · exact ⟨_, rfl⟩

theorem namelessClerks_nameless : namelessClerks.db.Nameless clerks (Uuid.ofNat 4) := by
  obtain ⟨p, hp⟩ := Option.isSome_iff_exists.mp (by decide +kernel :
    (namelessClerks.db.permissionIn? clerks (Uuid.ofNat 4)).isSome = true)
  refine ⟨p, hp, ?_⟩
  obtain ⟨hrow, -⟩ := namelessClerks_typed.permissionIn?_row hp
  rcases namelessClerks_rows hrow with rfl | rfl
  · exact absurd (Database.permissionIn?_some hp).2.2 (by decide +kernel)
  · rfl

end World

namespace Mutation

/-- Of the permissions of the clerks, the one with names is removed as a whole, with or without one
that is not there, and the one without is not: it breaks the run off. -/
theorem removal_whole_unless_nameless_clerks :
    (∃ w' p e, removePermission World.clerks (Uuid.ofNat 2) {} World.namelessClerks = (.ok p, w') ∧
      e.TellsOfRemoval {} p ∧ w'.db.auditLog = [e]) ∧
    (∃ results w', removePermissions World.clerks [Uuid.ofNat 2, Uuid.ofNat 7] {}
        World.namelessClerks = (.ok results, w') ∧
      BulkRemoval World.clerks [Uuid.ofNat 2, Uuid.ofNat 7] {} World.namelessClerks results w' ∧
      removed results = [Uuid.ofNat 2]) ∧
    ∃ w', removePermissions World.clerks [Uuid.ofNat 2, Uuid.ofNat 4] {} World.namelessClerks =
        (.error (.broke .wrongKind), w') ∧
      BreaksOff World.clerks [Uuid.ofNat 2, Uuid.ofNat 4] World.namelessClerks w' := by
  obtain ⟨hone, hseveral⟩ := removal_whole_unless_nameless World.clerks {}
    World.namelessClerks_typed World.namelessClerks_reasons
  refine ⟨?_, ?_, ?_⟩
  · have hremoval := hone (Uuid.ofNat 2) World.namelessClerks_calm (World.namelessClerks_serves _)
    have hends : (removePermission World.clerks (Uuid.ofNat 2) {}
        World.namelessClerks).1.isOk = true := by decide +kernel
    generalize removePermission World.clerks (Uuid.ofNat 2) {} World.namelessClerks = ended
      at hremoval hends
    cases hremoval with
    | refused => cases hends
    | untold => cases hends
    | @recorded p e w' _ _ hgone htold _ =>
        refine ⟨w', p, e, rfl, htold, ?_⟩
        rw [hgone, World.namelessClerks_log]
        rfl
  · have hnamed : ∀ id ∈ [Uuid.ofNat 2, Uuid.ofNat 7],
        ¬ World.namelessClerks.db.Nameless World.clerks id := by
      rintro id hid ⟨p, hp, hnames⟩
      obtain ⟨hrow, -⟩ := World.namelessClerks_typed.permissionIn?_row hp
      rcases World.namelessClerks_rows hrow with rfl | rfl
      · cases hnames
      · rw [← (Database.permissionIn?_some hp).2.2] at hid
        exact absurd hid (by decide +kernel)
    obtain ⟨results, w', hrun, hbulk⟩ := (hseveral [Uuid.ofNat 2, Uuid.ofNat 7]
      fun id _ => World.namelessClerks_serves id).1 hnamed
    have hremoved : (removePermissions World.clerks [Uuid.ofNat 2, Uuid.ofNat 7] {}
        World.namelessClerks).1.toOption.map removed = some [Uuid.ofNat 2] := by decide +kernel
    rw [hrun] at hremoved
    exact ⟨results, w', hrun, hbulk, Option.some.inj hremoved⟩
  · exact (hseveral [Uuid.ofNat 2, Uuid.ofNat 4] fun id _ => World.namelessClerks_serves id).2
      ⟨Uuid.ofNat 4, List.mem_cons_of_mem _ (List.mem_singleton_self _),
        World.namelessClerks_nameless⟩ World.namelessClerks_calm.faults

/-- What is served is not always removed as a whole: a permission that names no actions is gone and
its removal is an error that is no refusal, without an entry in the log. Among several, it leaves the
run without a result, and in the cache what is no longer in the tables. -/
theorem nameless_rule_left_behind :
    World.namelessClerks.Calm ∧ (Rule.ofPermission World.namelessPermission).isOk = true ∧
    (∃ w', removePermission World.clerks (Uuid.ofNat 4) {} World.namelessClerks =
        (.error (.broke .wrongKind), w') ∧
      w'.db.permissions.map Permission.id = [Uuid.ofNat 2] ∧ w'.db.auditLog = []) ∧
    ∃ w', removePermissions World.clerks [Uuid.ofNat 4] {} World.namelessClerks =
        (.error (.broke .wrongKind), w') ∧
      w'.db.permissions.map Permission.id = [Uuid.ofNat 2] ∧
      (w'.cache.get? World.clerks).any fun rules =>
        rules.any fun r => r.permissionId.equal (.uuid (Uuid.ofNat 4)) := by
  have hserves := World.namelessClerks_serves
  obtain ⟨q, hfound, hnames⟩ := World.namelessClerks_nameless
  refine ⟨World.namelessClerks_calm, by decide +kernel, ?_, ?_⟩
  · have hremoval := removePermission_calm {} World.namelessClerks_typed
      World.namelessClerks_reasons World.namelessClerks_calm (hserves (Uuid.ofNat 4))
    generalize removePermission World.clerks (Uuid.ofNat 4) {} World.namelessClerks = ended
      at hremoval ⊢
    cases hremoval with
    | refused absent => cases hfound.symm.trans absent
    | recorded found named =>
        cases hfound.symm.trans found
        cases hnames.symm.trans named
    | @untold _ w' _ _ gone =>
        refine ⟨w', rfl, ?_, ?_⟩
        · rw [gone]
          decide +kernel
        · rw [gone]
          exact World.namelessClerks_log
  · obtain ⟨w', hrun, -⟩ := removeEach_breaksOff World.clerks {} [Uuid.ofNat 4]
      World.namelessClerks World.namelessClerks_calm.faults (fun id _ => hserves id)
      ⟨Uuid.ofNat 4, List.mem_singleton_self _, q, hfound, hnames⟩
    have hrun := removePermissions_of_error hrun
    have hafter : w' = (removePermissions World.clerks [Uuid.ofNat 4] {} World.namelessClerks).2 := by
      rw [hrun]
    refine ⟨w', hrun, ?_⟩
    rw [hafter]
    exact ⟨by decide +kernel, by decide +kernel⟩

end Mutation

end Warrant
