import Warrant.Proofs.Frame
import Warrant.Proofs.Portraits

/-!
# Removing a permission

A permission that is removed is gone with the commit. Its role is loaded again
after that, and the log is told what the permission was. This last stage takes
the permission apart once more, and not in the way in which it is read as a
rule: actions or subjects that are null state a rule that covers nothing, but
there is nothing to list of them. Such a rule is served like any other, and its
removal breaks when nothing can be undone any more. Of a permission that is
served, this is the only way to be unfit for the log.

`Removal` says what removing one permission comes to when nothing is in its way,
case by case. What the tables and the log are after it is stated as one equation
each; of the cache it says what the role has then, loaded again or not.
-/

namespace Warrant

/-! ## Served and shown -/

namespace Terms

/-- Whether no actions are named at all, or no subjects. -/
def lacksNames (t : Terms) : Bool := t.action.isNull || t.subject.isNull

theorem items_of_members {v : Value} {vs : List Value} (h : Rule.members v = .ok vs)
    (hv : v.isNull = false) : ∃ items, v.items = .ok items := by
  cases v with
  | null => cases hv
  | text s => exact ⟨_, rfl⟩
  | _ => exact ⟨vs, h⟩

theorem fieldItems_of_read {v fields : Value} {limits : Option (List Value)}
    (hread : Rule.decode v = .ok fields) (hlimits : Rule.fieldMembers fields = .ok limits) :
    ∃ shown, fieldItems v = .ok shown := by
  cases v with
  | null | text | bytes | list | tuple | map => exact ⟨_, rfl⟩
  | bool | int | double | uuid | unresolved | object | entity | resource =>
      cases hread
      cases hlimits

theorem fieldItems_ok {v shown : Value} (h : fieldItems v = .ok shown) :
    shown = .null ∨ ∃ items, v.items = .ok items ∧ shown = .list items := by
  cases v with
  | null =>
      cases h
      exact Or.inl rfl
  | text | bytes | list | tuple | map =>
      cases h
      exact Or.inr ⟨_, rfl, rfl⟩
  | bool | int | double | uuid | unresolved | object | entity | resource => cases h

variable {t : Terms} {id key : Value} {r : Rule}

theorem exists_snapshot (h : Rule.ofTerms id t = .ok r) (hnames : t.lacksNames = false) :
    ∃ s, t.snapshot key = .ok s := by
  have hstates := Rule.states_of_ofTerms h
  obtain ⟨haction, hsubject⟩ := Bool.or_eq_false_iff.mp hnames
  obtain ⟨actions, hactions⟩ := items_of_members hstates.actions haction
  obtain ⟨subjects, hsubjects⟩ := items_of_members hstates.subjects hsubject
  obtain ⟨fields, hread, hlimits⟩ := hstates.fields
  obtain ⟨shown, hshown⟩ := fieldItems_of_read hread hlimits
  exact ⟨_, Fault.bind_ok.mpr ⟨actions, hactions, Fault.bind_ok.mpr ⟨subjects, hsubjects,
    Fault.bind_ok.mpr ⟨shown, hshown, rfl⟩⟩⟩⟩

theorem snapshot_of_lacksNames (h : Rule.ofTerms id t = .ok r) (hnames : t.lacksNames = true) :
    t.snapshot key = .error .wrongKind := by
  have hstates := Rule.states_of_ofTerms h
  have hnull : ∀ {v : Value}, v.isNull = true → v.items = .error .wrongKind := by
    intro v hv
    cases v <;> first | rfl | cases hv
  unfold snapshot
  cases haction : t.action.isNull with
  | true =>
      rw [hnull haction]
      rfl
  | false =>
      obtain ⟨actions, hactions⟩ := items_of_members hstates.actions haction
      rw [lacksNames, haction, Bool.false_or] at hnames
      rw [hactions, hnull hnames]
      rfl

end Terms

/-! ### What the log makes of it -/

theorem Value.stored_items {v : Value} {items : List Value} (hrest : v.stored = .ok v)
    (h : v.items = .ok items) : (Value.list items).stored = .ok (.list items) := by
  cases v with
  | text s =>
      cases h
      have htexts := stored_ofTexts (s.toList.map String.singleton)
      rw [Value.ofTexts, List.map_map] at htexts
      exact htexts
  | list vs =>
      cases h
      exact hrest
  | map es =>
      cases h
      have htexts := stored_ofTexts (es.map Prod.fst)
      rw [Value.ofTexts, List.map_map] at htexts
      exact htexts
  | tuple vs =>
      have hstored := Value.stored_eq_ok.mp hrest
      rw [Value.stored?] at hstored
      obtain ⟨ws, -, hws⟩ := Option.map_eq_some_iff.mp hstored
      cases hws
  | bytes => cases hrest
  | _ => cases h

namespace Permission

variable {p : Permission} {s : List (String × Value)}

/-- What a row shows of itself is kept by the log as it is. -/
theorem stored_snapshot (hrest : p.toTerms.AtRest) (hreason : p.reason.isReason = true)
    (h : p.snapshot = .ok s) : (Value.map s).stored = .ok (.map s) := by
  obtain ⟨actions, hactions, h⟩ := Fault.bind_ok.mp h
  obtain ⟨subjects, hsubjects, h⟩ := Fault.bind_ok.mp h
  obtain ⟨fields, hfields, h⟩ := Fault.bind_ok.mp h
  cases h
  obtain ⟨b, hb⟩ := hrest.inverted
  have hinverted : p.inverted.stored? = some p.inverted := by
    rw [hb]
    rfl
  have hshown : fields.stored = .ok fields := by
    rcases Terms.fieldItems_ok hfields with rfl | ⟨items, hitems, rfl⟩
    · rfl
    · exact Value.stored_items hrest.fields hitems
  refine Value.stored_eq_ok.mpr ?_
  rw [Value.stored?, Value.storedEntries?_cons rfl <| Value.storedEntries?_cons
    (Value.stored_eq_ok.mp (Value.stored_items hrest.action hactions)) <| Value.storedEntries?_cons
    (Value.stored_eq_ok.mp (Value.stored_items hrest.subject hsubjects)) <|
    Value.storedEntries?_cons (Value.stored_eq_ok.mp hshown) <|
    Value.storedEntries?_cons (Value.stored_eq_ok.mp hrest.conditions) <|
    Value.storedEntries?_cons hinverted <|
    Value.storedEntries?_cons (Value.stored_of_isReason hreason) rfl]
  rfl

theorem stored_revoked (caller : Caller) (roleId id : Value)
    (h : (Value.map s).stored = .ok (.map s)) :
    (AuditNote.revoked caller roleId id s).changes.stored = .ok (.map [("before", .map s)]) := by
  refine Value.stored_eq_ok.mpr ?_
  show (Value.map [("before", .map s)]).stored? = _
  rw [Value.stored?, Value.storedEntries?_cons (Value.stored_eq_ok.mp h) rfl]
  rfl

theorem revoked_storable (caller : Caller) (roleId id : Value)
    (h : (Value.map s).stored = .ok (.map s)) : (AuditNote.revoked caller roleId id s).Storable :=
  ⟨⟨_, stored_revoked caller roleId id h⟩, _, _, _, rfl, rfl, rfl⟩

end Permission

/-! ## The permission that is meant -/

namespace Database

/-- The permission of a role with an id, if the role is there and has it. -/
def permissionIn? (db : Database) (roleId id : Uuid) : Option Permission :=
  if db.hasRole roleId then (db.permissionsOf roleId).find? fun p => p.id = id else none

variable {db : Database} {roleId id : Uuid} {p : Permission}

theorem permissionIn?_some (h : db.permissionIn? roleId id = some p) :
    db.hasRole roleId = true ∧ p ∈ db.permissionsOf roleId ∧ p.id = id := by
  unfold permissionIn? at h
  split at h
  · next hrole =>
      exact ⟨hrole, List.mem_of_find?_eq_some h, by simpa using List.find?_some h⟩
  · cases h

theorem permissionIn?_of_role {r : Role} (h : db.role? roleId = some r) :
    db.permissionIn? roleId id = r.permissions.find? fun p => p.id = id := by
  obtain ⟨hrole, -, hpermissions⟩ := role?_some h
  rw [permissionIn?, if_pos hrole, hpermissions]

theorem Typed.permissionIn?_row (hdb : db.Typed) (h : db.permissionIn? roleId id = some p) :
    p ∈ db.permissions ∧ p.roleId = roleId := by
  obtain ⟨-, hmem, -⟩ := permissionIn?_some h
  obtain ⟨row, hrow, hrole, rfl⟩ := mem_permissionsOf hmem
  rw [readPermission_of_bool (hdb.rows row hrow).inverted]
  exact ⟨hrow, hrole⟩

theorem permissionsOf_deletePermission (db : Database) (roleId removed : Uuid) :
    (db.deletePermission removed).permissionsOf roleId =
      (db.permissionsOf roleId).filter fun p => p.id ≠ removed := by
  unfold permissionsOf deletePermission
  rw [List.filter_map, List.filter_filter, List.filter_filter]
  refine congrArg (List.map readPermission) (List.filter_congr fun p _ => ?_)
  exact Bool.and_comm _ _

theorem permissionIn?_deletePermission (db : Database) (roleId removed id : Uuid) :
    (db.deletePermission removed).permissionIn? roleId id =
      if id = removed then none else db.permissionIn? roleId id := by
  unfold permissionIn?
  rw [permissionsOf_deletePermission, List.find?_filter]
  show (if db.hasRole roleId then _ else none) = _
  split
  · by_cases hid : id = removed
    · rw [if_pos hid, List.find?_eq_none]
      intro p _
      simp [hid]
    · rw [if_neg hid]
      congr 1
      funext p
      by_cases hp : p.id = id <;> simp [hp, hid]
  · exact (ite_self none).symm

end Database

/-! ## Loading one role again -/

namespace World

/-- What a world draws on: its clock, its identifiers, and the fates of its steps. -/
def supplies (w : World) : Clock × Nat × FaultPlan := (w.clock, w.issued, w.faults)

theorem supplies_eq {w w' : World} : w'.supplies = w.supplies ↔
    w'.clock = w.clock ∧ w'.issued = w.issued ∧ w'.faults = w.faults := by
  simp only [supplies, Prod.mk.injEq]

end World

namespace Store

theorem roles_supplies (scope : Option (List Uuid)) : Work.Keeps World.supplies (roles scope) := by
  refine Work.Keeps.bind (Work.Keeps.queryBeside (fun _ _ => rfl) _ _) fun rows => ?_
  split
  · exact Work.Keeps.pure []
  · exact Work.Keeps.queryBeside (fun _ _ => rfl) _ _

theorem existingRole_supplies (id : Uuid) : Work.Keeps World.supplies (existingRole id) := by
  refine Work.Keeps.bind (Work.Keeps.bind (roles_supplies (some [id])) fun _ => Work.Keeps.pure _)
    fun found => ?_
  cases found with
  | none => exact Work.Keeps.refuse _
  | some r => exact Work.Keeps.pure r

end Store

/-- What a cache has for a role after one role was to be loaded again: for that role, what the
tables state of it, or what it had if they cannot be read. -/
def RuleCache.refreshed (c : RuleCache) (db : Database) (roleId id : Uuid) : Option (List Rule) :=
  if id = roleId then (db.rulesFor roleId).toOption.getD (c.get? roleId) else c.get? id

namespace Reload

theorem load_supplies (scope : Option (List Uuid)) : Work.Keeps World.supplies (load scope) := by
  have hfetch : Work.Keeps World.supplies (fetch scope) :=
    Work.Keeps.bind (Work.Keeps.transactBeside (fun _ _ => rfl) (fun _ _ => rfl)
      (Store.roles_supplies scope)) fun _ =>
        Work.Keeps.bind (Work.Keeps.ofFault _) fun _ => Work.Keeps.pure _
  refine Work.Keeps.bind hfetch.attempt fun found => ?_
  cases found with
  | error f => exact Work.Keeps.refuse _
  | ok reload => exact fun _ => rfl

theorem refresh_db (id : Uuid) : Work.Keeps World.db (refresh id) := load_db (some [id])

theorem refresh_supplies (id : Uuid) : Work.Keeps World.supplies (refresh id) :=
  load_supplies (some [id])

theorem refresh_run (id : Uuid) (w : World) : refresh id w = (.ok (), (refresh id w).2) := rfl

/-- If no step fails, only the rows of the role itself decide whether it is loaded again. -/
theorem refresh_cache {w : World} (hsound : w.faults = FaultPlan.none) (roleId id : Uuid) :
    (refresh roleId w).2.cache.get? id = w.cache.refreshed w.db roleId id := by
  show (invalidate roleId w).2.cache.get? id = _
  unfold RuleCache.refreshed
  split
  · next heq =>
      rw [heq]
      have hends : (invalidate roleId w).1 = .ok () ↔ ∃ rules, w.db.rulesFor roleId = .ok rules :=
        (load_succeeds_iff hsound).trans (by simp only [covers_one, forall_eq])
      cases hrules : w.db.rulesFor roleId with
      | ok rules =>
          have hown := invalidate_own (hends.mpr ⟨rules, hrules⟩)
          rw [hrules] at hown
          exact (Except.ok.inj hown).symm
      | error e =>
          rw [invalidate_kept fun h => by
            obtain ⟨rules, hread⟩ := hends.mp h
            cases hrules.symm.trans hread]
          rfl
  · next hne => exact invalidate_others hne w

end Reload

/-! ## What is in the way, and what is told -/

namespace World

/-- Nothing is in the way of an operation and of its record: no step of the database fails, the
clock can be read, and the next identifier is free in the log. -/
structure Calm (w : World) : Prop where
  faults : w.faults = FaultPlan.none
  clock : w.clock.Runs
  fresh : w.db.hasEntry (Work.freshId (w.issued + 1)) = false

/-- A recording is not disturbed in a world that draws on the same as a calm one and has the same
log. -/
theorem Calm.undisturbed {w w' : World} (h : w.Calm) (hsupplies : w'.supplies = w.supplies)
    (hlog : w'.db.auditLog = w.db.auditLog) {note : AuditNote} (hnote : note.Storable) :
    Recording.Undisturbed ⟨note, w'⟩ := by
  obtain ⟨hclock, hissued, hfaults⟩ := supplies_eq.mp hsupplies
  have hsound : w'.faults = FaultPlan.none := hfaults.trans h.faults
  have hfresh : w'.db.hasEntry (Work.freshId (w'.issued + 1)) = false := by
    rw [hissued, Database.hasEntry, hlog]
    exact h.fresh
  have hruns : w'.clock.Runs := hclock ▸ h.clock
  refine ⟨hruns, hnote, hfresh, ?_, ?_, ?_⟩ <;> (rw [hsound]; rfl)

end World

namespace Database

/-- The permission that is meant, if there is one, states a rule. -/
def Serves (db : Database) (roleId id : Uuid) : Prop :=
  ∀ p, db.permissionIn? roleId id = some p → ∃ r, Rule.ofPermission p = .ok r

end Database

/-- An entry tells of a removal: of the permission, as it was, and on whose behalf. -/
structure AuditEntry.TellsOfRemoval (e : AuditEntry) (caller : Caller) (p : Permission) : Prop where
  action : e.action = AuditAction.revokePermission.name
  entityId : e.entityId = some p.id.text
  caller : e.caller = caller
  changes : ∃ s, p.snapshot = .ok s ∧ e.changes = .map [("before", .map s)]

namespace Mutation

variable {w w' : World} {roleId id : Uuid} {caller : Caller}

/-! ## The removal itself -/

theorem erase_supplies (roleId id : Uuid) : Work.Keeps World.supplies (erase roleId id) := by
  have hbody : Work.Keeps World.supplies (eraseBody roleId id) := by
    refine Work.Keeps.bind (Store.existingRole_supplies roleId) fun role => ?_
    cases role.permissions.find? fun p => p.id = id with
    | none => exact Work.Keeps.refuse _
    | some p =>
        exact Work.Keeps.bind (Work.Keeps.writeBeside (fun _ _ => rfl) (fun _ _ => rfl) _ _)
          fun _ => Work.Keeps.pure p
  exact (Work.Keeps.transactBeside (fun _ _ => rfl) (fun _ _ => rfl) hbody).asMutation

theorem erase_found {p : Permission} (h : erase roleId id w = (.ok p, w')) :
    w.db.permissionIn? roleId id = some p ∧ w'.db = w.db.deletePermission id := by
  obtain ⟨-, -, hdb⟩ := (erase_atomic roleId id).ok h
  refine ⟨?_, hdb⟩
  obtain ⟨w₁, w₂, hstart, hbody, -⟩ := Work.transact_ok (Work.asMutation_ok.mp h)
  obtain ⟨role, w₃, hrole, hfrom⟩ := Work.bind_ok.mp hbody
  obtain ⟨hfound, -⟩ := Store.existingRole_ok hrole
  rw [(World.state_eq.mp hstart).1] at hfound
  rw [Database.permissionIn?_of_role hfound]
  cases hq : role.permissions.find? fun p => p.id = id with
  | none =>
      rw [hq] at hfrom
      exact absurd hfrom Work.refuse_ok
  | some q =>
      rw [hq] at hfrom
      obtain ⟨_, w₄, -, hfrom⟩ := Work.bind_ok.mp hfrom
      obtain ⟨rfl, -⟩ := Work.pure_ok.mp hfrom
      rfl

theorem erase_apply (hsound : w.faults = FaultPlan.none) {p : Permission}
    (h : w.db.permissionIn? roleId id = some p) : ∃ w', erase roleId id w = (.ok p, w') := by
  have hopen : ({ w with steps := w.steps + 1 } : World).faults = FaultPlan.none := hsound
  obtain ⟨r, w₁, hrole, hsound₁⟩ :=
    Store.existingRole_apply hopen (Database.permissionIn?_some h).1
  obtain ⟨hfound, -⟩ := Store.existingRole_ok hrole
  rw [Database.permissionIn?_of_role hfound] at h
  have hdelete : Store.deletePermission p.id w₁ =
      (.ok (), { w₁ with db := w₁.db.deletePermission p.id, steps := w₁.steps + 1 }) :=
    Work.write_apply hsound₁ _ rfl
  have hbody : eraseBody roleId id { w with steps := w.steps + 1 } =
      (.ok p, { w₁ with db := w₁.db.deletePermission p.id, steps := w₁.steps + 1 }) := by
    unfold eraseBody
    rw [Work.bind_of_ok hrole, h]
    show (Store.deletePermission p.id >>= fun _ => pure p) w₁ = _
    rw [Work.bind_of_ok hdelete]
    rfl
  exact ⟨_, Work.asMutation_ok.mpr (Work.transact_apply hsound hbody hsound₁)⟩

/-- What is not there cannot be removed, whatever becomes of the steps. -/
theorem erase_absent (h : w.db.permissionIn? roleId id = none) :
    ∃ why w', erase roleId id w = (.error (.refused why), w') ∧ w'.state = w.state := by
  rcases hrun : erase roleId id w with ⟨f | p, w'⟩
  · obtain ⟨⟨why, rfl⟩, hstate⟩ := (erase_atomic roleId id).error hrun
    exact ⟨why, w', rfl, hstate⟩
  · rw [(erase_found hrun).1] at h
    cases h

/-! ## One permission -/

section

variable {p : Permission} {s : List (String × Value)}

theorem recordErase_apply (roleId : Uuid) (caller : Caller) (h : p.snapshot = .ok s) (w : World) :
    recordErase caller roleId p w = (.ok (),
      Recording.after ⟨.revoked caller (.uuid roleId) (.uuid p.id) s, w⟩) := by
  exact Audit.record_run_snapshot h (.revoked caller (.uuid roleId) (.uuid p.id)) w

theorem recordErase_broke {why : Fault} (h : p.snapshot = .error why) (w : World) :
    recordErase caller roleId p w = (.error (.broke why), w) := by
  unfold recordErase
  rw [h]
  rfl

/-- A record of a removal that is not disturbed adds one entry, and that tells of it. -/
theorem recordErase_undisturbed (hs : p.snapshot = .ok s)
    (hstored : (Value.map s).stored = .ok (.map s))
    (h : Recording.Undisturbed ⟨.revoked caller (.uuid roleId) (.uuid p.id) s, w⟩) :
    ∃ e w', recordErase caller roleId p w = (.ok (), w') ∧ e.TellsOfRemoval caller p ∧
      w'.db = w.db.withLog (w.db.auditLog ++ [e]) ∧ w'.cache = w.cache := by
  obtain ⟨e, hentry, hdb⟩ := h.written
  obtain ⟨haction, hentityId, hcaller, hchanges⟩ := Recording.entry?_some hentry
  have hrun := recordErase_apply roleId caller hs w
  refine ⟨e, _, hrun, ⟨haction, hentityId, hcaller, s, hs, ?_⟩, hdb, ?_⟩
  · rw [Permission.stored_revoked _ _ _ hstored] at hchanges
    exact (Except.ok.inj hchanges).symm
  · exact (Work.Logs.ofSnapshot hs _).cache.after hrun

end

/-- What the removal of a permission may come to when nothing is in its way. There is no such
permission, and it is refused and leaves no trace. Or the permission is gone, its role is loaded
again, and the log has one entry about it. Or all of this but the entry, if the permission lacks its
names, and then the removal breaks. -/
inductive Removal (roleId id : Uuid) (caller : Caller) (w : World) :
    Except Failure Permission × World → Prop where
  | refused {why : Refusal} {w' : World} (absent : w.db.permissionIn? roleId id = none)
      (same : w'.state = w.state) : Removal roleId id caller w (.error (.refused why), w')
  | recorded {p : Permission} {e : AuditEntry} {w' : World}
      (found : w.db.permissionIn? roleId id = some p) (named : p.lacksNames = false)
      (gone : w'.db = (w.db.deletePermission id).withLog (w.db.auditLog ++ [e]))
      (told : e.TellsOfRemoval caller p)
      (loaded : ∀ other, w'.cache.get? other = w.cache.refreshed w'.db roleId other) :
      Removal roleId id caller w (.ok p, w')
  | untold {p : Permission} {w' : World} (found : w.db.permissionIn? roleId id = some p)
      (nameless : p.lacksNames = true) (gone : w'.db = w.db.deletePermission id)
      (loaded : ∀ other, w'.cache.get? other = w.cache.refreshed w'.db roleId other) :
      Removal roleId id caller w (.error (.broke .wrongKind), w')

theorem removePermission_of_erased {p : Permission} {w₁ : World}
    (h : erase roleId id w = (.ok p, w₁)) : removePermission roleId id caller w =
      (do recordErase caller roleId p; return p : Work Permission) (Reload.refresh roleId w₁).2 := by
  unfold removePermission
  rw [Work.bind_of_ok h]
  rfl

/-- After the reload the permission is gone, and all that a record takes is there. -/
theorem refresh_of_erased {p : Permission} {w₁ : World} (hsound : w.faults = FaultPlan.none)
    (h : erase roleId id w = (.ok p, w₁)) :
    (Reload.refresh roleId w₁).2.db = w.db.deletePermission id ∧
      (Reload.refresh roleId w₁).2.supplies = w.supplies ∧
      ∀ other, (Reload.refresh roleId w₁).2.cache.get? other =
        w.cache.refreshed (w.db.deletePermission id) roleId other := by
  have hdb : w₁.db = w.db.deletePermission id := (erase_found h).2
  have hsupplies : w₁.supplies = w.supplies := (erase_supplies roleId id).after h
  have hcache : w₁.cache = w.cache := (erase_atomic roleId id).cache.after h
  have hsound₁ : w₁.faults = FaultPlan.none :=
    (World.supplies_eq.mp hsupplies).2.2.trans hsound
  refine ⟨(Reload.refresh_db roleId w₁).trans hdb,
    (Reload.refresh_supplies roleId w₁).trans hsupplies, fun other => ?_⟩
  rw [Reload.refresh_cache hsound₁, hdb, hcache]

theorem removePermission_calm (caller : Caller) (hdb : w.db.Typed)
    (hreasons : ∀ p ∈ w.db.permissions, p.reason.isReason = true) (hw : w.Calm)
    (hserves : w.db.Serves roleId id) :
    Removal roleId id caller w (removePermission roleId id caller w) := by
  cases hfound : w.db.permissionIn? roleId id with
  | none =>
      obtain ⟨why, w', hrun, hsame⟩ := erase_absent hfound
      unfold removePermission
      rw [Work.bind_of_error hrun]
      exact .refused hfound hsame
  | some p =>
      obtain ⟨w₁, hrun⟩ := erase_apply hw.faults hfound
      obtain ⟨r, hrule⟩ := hserves p hfound
      obtain ⟨hrow, -⟩ := hdb.permissionIn?_row hfound
      obtain ⟨hgone, hsupplies, hloaded⟩ := refresh_of_erased hw.faults hrun
      rw [removePermission_of_erased hrun, Work.bind_apply]
      cases hnames : p.lacksNames with
      | true =>
          rw [recordErase_broke (Terms.snapshot_of_lacksNames hrule hnames)]
          refine .untold hfound hnames hgone ?_
          rw [hgone]
          exact hloaded
      | false =>
          obtain ⟨s, hs⟩ := Terms.exists_snapshot hrule hnames
          have hstored := Permission.stored_snapshot (hdb.rows p hrow) (hreasons p hrow) hs
          have hlog : (Reload.refresh roleId w₁).2.db.auditLog = w.db.auditLog := by
            rw [hgone]
            rfl
          obtain ⟨e, w', hend, htells, hdb', hcache⟩ := recordErase_undisturbed hs hstored
            (hw.undisturbed hsupplies hlog
              (Permission.revoked_storable caller (.uuid roleId) (.uuid p.id) hstored))
          rw [hend]
          rw [hgone] at hdb'
          refine .recorded hfound hnames hdb' htells fun other => ?_
          rw [hcache, hdb', hloaded other]
          rfl

end Mutation

end Warrant
