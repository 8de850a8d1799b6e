import Warrant.Proofs.Storing
import Warrant.Proofs.Supplies

/-!
# Several additions at once, and one after the other

A bulk addition makes one addition for each item, records it, and loads the role
once at the end. Made one by one, the same additions load the role each time.
That is the only difference between the two, and nothing comes of it: an
addition does not look at the cache, and what a load leaves in the cache is read
off the tables.

The two runs go abreast, item by item. In between their caches differ, but they
would be the same if the role were loaded now; this is kept because a role whose
permissions can be read stays so when a permission is added. Loading a role that
cannot be read changes nothing, so at such a role the caches never come apart.

An item that is refused when it is read is an item that the single additions do
without. An item that goes too deep is not refused: the bulk addition breaks off
there, after the items before it have been added and without a load of the role.
Any other item is refused by both or by neither, and with all that the draws
take it is refused only if there is no role.
-/

namespace Warrant

/-! ## Roles that can be read -/

namespace Database

variable {db db' : Database} {id : Uuid} {p : Permission}

theorem rulesFor_ok_iff : (∃ rules, db.rulesFor id = .ok rules) ↔
    (db.hasRole id = true → ∀ p ∈ db.permissionsOf id, ∃ r, Rule.ofPermission p = .ok r) := by
  unfold rulesFor
  split
  · next hrole =>
      rw [← Rule.ofPermissions_ok_iff]
      simp only [Fault.map_ok, hrole, forall_const]
      exact exists_comm.trans (exists_congr fun rules => ⟨fun ⟨_, h, _⟩ => h, fun h => ⟨_, h, rfl⟩⟩)
  · next hrole => exact ⟨fun _ h => absurd h hrole, fun _ => ⟨none, rfl⟩⟩

theorem mem_permissionsOf_append {row q : Permission}
    (h : q ∈ ({ db with permissions := db.permissions ++ [row] } : Database).permissionsOf id) :
    q ∈ db.permissionsOf id ∨ q = readPermission row := by
  rw [permissionsOf_append, List.mem_append] at h
  refine h.imp_right fun hnew => ?_
  split at hnew
  · exact List.mem_singleton.mp hnew
  · cases hnew

/-- A role that can be read can still be read when a permission in shape is added. -/
theorem rulesFor_ok_of_insertPermission (hp : p.toTerms.Shaped)
    (h : db.insertPermission p = .ok db') (hread : ∃ rules, db.rulesFor id = .ok rules) :
    ∃ rules, db'.rulesFor id = .ok rules := by
  obtain ⟨row, hrow, -, rfl⟩ := insertPermission_ok h
  obtain ⟨-, -, hshape⟩ := storedPermission_ok hp hrow
  rw [rulesFor_ok_iff] at hread ⊢
  intro hrole q hq
  rcases mem_permissionsOf_append hq with hold | rfl
  · exact hread hrole q hold
  · exact (readPermission_shaped hshape).rule _

end Database

/-! ## Caches that would be the same -/

namespace RuleCache

variable {c c' : RuleCache} {db db' : Database} {roleId : Uuid}

/-- To load a role twice is to load it once. -/
theorem refreshed_again (h : ∀ id, c'.get? id = c.refreshed db roleId id) (id : Uuid) :
    c'.refreshed db roleId id = c.refreshed db roleId id := by
  by_cases heq : id = roleId
  · have hown := h roleId
    simp only [refreshed, heq, if_true] at hown ⊢
    rw [hown]
    cases db.rulesFor roleId <;> rfl
  · rw [refreshed, if_neg heq]
    exact h id

/-- Caches that would be the same after a load would be so later too, if the role can still be
read. -/
theorem refreshed_congr (h : ∀ id, c'.refreshed db roleId id = c.refreshed db roleId id)
    (hread : (∃ rules, db.rulesFor roleId = .ok rules) → ∃ rules, db'.rulesFor roleId = .ok rules)
    (id : Uuid) : c'.refreshed db' roleId id = c.refreshed db' roleId id := by
  by_cases heq : id = roleId
  · have hown := h roleId
    simp only [refreshed, heq, if_true] at hown ⊢
    cases hnow : db'.rulesFor roleId with
    | ok rules => rfl
    | error e =>
        -- It could not be read before either, so the caches are the same as they are.
        cases hbefore : db.rulesFor roleId with
        | ok rules =>
            obtain ⟨later, hlater⟩ := hread ⟨rules, hbefore⟩
            cases hnow.symm.trans hlater
        | error e' =>
            rw [hbefore] at hown
            exact hown
  · have hother := h id
    simp only [refreshed, heq, if_false] at hother ⊢
    exact hother

end RuleCache

namespace Mutation

/-- Two worlds on a level whose caches would be the same if the rules of one role were loaded now. -/
structure Abreast (roleId : Uuid) (w v : World) : Prop where
  level : w.Level v
  cache : ∀ id, v.cache.refreshed v.db roleId id = w.cache.refreshed w.db roleId id

namespace Abreast

variable {α : Type} {roleId : Uuid} {w v : World}

theorem refl (hsound : w.faults = FaultPlan.none) : Abreast roleId w w :=
  ⟨.refl hsound, fun _ => rfl⟩

/-- Worlds stay abreast under an operation that neither sees nor changes the cache, unless it makes
the role one that cannot be read. -/
theorem after {t : Work α} (h : Abreast roleId w v) (hblind : Work.Blind t)
    (hcache : Work.Keeps World.cache t)
    (hread : (∃ rules, w.db.rulesFor roleId = .ok rules) →
      ∃ rules, (t w).2.db.rulesFor roleId = .ok rules) :
    (t v).1 = (t w).1 ∧ Abreast roleId (t w).2 (t v).2 := by
  obtain ⟨hresult, hlevel⟩ := hblind h.level
  refine ⟨hresult, hlevel, ?_⟩
  rw [hlevel.db, hcache w, hcache v]
  have hbefore := h.cache
  rw [h.level.db] at hbefore
  exact RuleCache.refreshed_congr hbefore hread

/-- Loading the role in one of two worlds leaves them abreast. -/
theorem refresh (h : Abreast roleId w v) : Abreast roleId w (Reload.refresh roleId v).2 := by
  have hdb : (Reload.refresh roleId v).2.db = v.db := Reload.refresh_db roleId v
  refine ⟨⟨h.level.sound, hdb.trans h.level.db, ?_⟩, fun id => ?_⟩
  · exact (Reload.refresh_supplies roleId v).trans h.level.supplies
  · rw [hdb, RuleCache.refreshed_again (Reload.refresh_cache h.level.sound_right roleId)]
    exact h.cache id

/-- Loading the role in both makes the caches the same. -/
theorem loaded (h : Abreast roleId w v) (id : Uuid) :
    (Reload.refresh roleId v).2.cache.get? id = (Reload.refresh roleId w).2.cache.get? id := by
  rw [Reload.refresh_cache h.level.sound_right, Reload.refresh_cache h.level.sound]
  exact h.cache id

end Abreast

/-! ## One addition -/

variable {roleId : Uuid} {caller : Caller} {item : Value} {items : List Value} {rule : RuleInput}
  {w v : World}

theorem insert_abreast (h : Abreast roleId w v) (rule : RuleInput) :
    (insert roleId rule v).1 = (insert roleId rule w).1 ∧
      Abreast roleId (insert roleId rule w).2 (insert roleId rule v).2 := by
  have hatomic := insert_atomic roleId rule
  refine h.after (insert_blind roleId rule) hatomic.cache fun hread => ?_
  rcases hrun : insert roleId rule w with ⟨f | p, w₁⟩
  · rw [(World.state_eq.mp (hatomic.error hrun).2).1]
    exact hread
  · have hwrites := hatomic.ok hrun
    exact Database.rulesFor_ok_of_insertPermission (Command.addPermission_shaped hwrites)
      hwrites.2.2 hread

theorem recordInsert_abreast (h : Abreast roleId w v) (caller : Caller) {p : Permission}
    (hp : p.toTerms.Shaped) : Abreast roleId (recordInsert caller roleId p w).2
      (recordInsert caller roleId p v).2 := by
  have hlogs := recordInsert_logs caller roleId hp
  refine (h.after (recordInsert_blind caller roleId p) hlogs.cache fun hread => ?_).2
  obtain ⟨log, hlog⟩ := (hlogs.log w).withLog
  rw [hlog]
  exact hread

/-- An item that is refused when it is read changes nothing. -/
theorem addOne_of_unread {why : Refusal} (h : RuleInput.ofValue item = .error (.refused why))
    (roleId : Uuid) (caller : Caller) (w : World) :
    bulkItem item (addOne roleId caller item) w = (.ok ⟨item, .error why⟩, w) := by
  refine bulkItem_of_refused item ?_
  unfold addOne
  rw [h]
  rfl

theorem addOne_of_rule (h : RuleInput.ofValue item = .ok rule) : addOne roleId caller item = do
    let p ← insert roleId rule
    recordInsert caller roleId p
    return p.id := by
  unfold addOne
  rw [h]
  rfl

/-- What the result of an item says of the outcome of the single addition. -/
inductive BulkItem.Tells (item : Value) : Except Failure Permission → BulkItem → Prop where
  | added (p : Permission) : Tells item (.ok p) ⟨item, .ok p.id⟩
  | declined (why : Refusal) : Tells item (.error (.refused why)) ⟨item, .error why⟩

/-- An item that is a rule comes to the same among others and by itself. Among others it leaves the
cache alone. -/
theorem addOne_abreast (h : Abreast roleId w v) (hrule : RuleInput.ofValue item = .ok rule)
    (caller : Caller) : ∃ b r w' v', bulkItem item (addOne roleId caller item) w = (.ok b, w') ∧
      Work.attempt (addPermission roleId rule caller) v = (.ok r, v') ∧
      BulkItem.Tells item r b ∧ Abreast roleId w' v' ∧ w'.cache = w.cache := by
  obtain ⟨hsame, habreast⟩ := insert_abreast h rule
  rcases hw : insert roleId rule w with ⟨f | p, w₁⟩ <;>
    rcases hv : insert roleId rule v with ⟨f' | p', v₁⟩ <;>
    rw [hw, hv] at hsame habreast <;> cases hsame
  · obtain ⟨⟨why, rfl⟩, hstate⟩ := (insert_atomic roleId rule).error hw
    refine ⟨_, _, w₁, v₁, bulkItem_of_refused item ?_, ?_, .declined why, habreast,
      (World.state_eq.mp hstate).2⟩
    · rw [addOne_of_rule hrule, Work.bind_of_error hw]
    · rw [Work.attempt_apply, addPermission, Work.bind_of_error hv]
  · have hp := Command.addPermission_shaped ((insert_atomic roleId rule).ok hw)
    have hlogs := recordInsert_logs caller roleId hp
    refine ⟨_, _, _, _, bulkItem_of_ok item ?_, ?_, .added p,
      recordInsert_abreast habreast.refresh caller hp,
      (hlogs.cache w₁).trans ((insert_atomic roleId rule).cache.after hw)⟩
    · rw [addOne_of_rule hrule, Work.bind_of_ok hw, Work.bind_of_ok (hlogs.run w₁)]
      rfl
    · rw [Work.attempt_apply, addPermission, Work.bind_of_ok hv,
        Work.bind_of_ok (Reload.refresh_run roleId v₁), Work.bind_of_ok (hlogs.run _)]
      rfl

/-! ## Many additions -/

/-- The rules among the items, in their order. -/
def accepted (items : List Value) : List RuleInput :=
  items.filterMap fun item => (RuleInput.ofValue item).toOption

theorem accepted_append (before after : List Value) :
    accepted (before ++ after) = accepted before ++ accepted after :=
  List.filterMap_append

/-- Adds permissions one after the other, each as an operation of its own, whatever becomes of the
others. -/
def addSingly (roleId : Uuid) (caller : Caller) :
    List RuleInput → Work (List (Except Failure Permission))
  | [] => return []
  | rule :: rest => do
      let outcome ← Work.attempt (addPermission roleId rule caller)
      let outcomes ← addSingly roleId caller rest
      return outcome :: outcomes

/-- Adds the permissions that items state one after the other, and then loads the role once more. -/
def addAccepted (roleId : Uuid) (items : List Value) (caller : Caller) :
    Work (List (Except Failure Permission)) := do
  let outcomes ← addSingly roleId caller (accepted items)
  Reload.refresh roleId
  return outcomes

theorem ofValue_error_of_not_overdeep {f : Failure} (h : ¬ Overdeep item)
    (hread : RuleInput.ofValue item = .error f) : ∃ why, f = .refused why := by
  obtain ⟨why, rfl⟩ | rfl := RuleInput.ofValue_error hread
  · exact ⟨_, rfl⟩
  · exact absurd hread h

/-- The results of a bulk addition beside the outcomes of single additions: an item that is not a
rule has the refusal of its reading, and any other tells of the outcome that is its own. -/
inductive Reports : List Value → List BulkItem → List (Except Failure Permission) → Prop where
  | nil : Reports [] [] []
  | unread {item : Value} {why : Refusal} {items : List Value} {results : List BulkItem}
      {outcomes : List (Except Failure Permission)}
      (reading : RuleInput.ofValue item = .error (.refused why))
      (rest : Reports items results outcomes) :
      Reports (item :: items) (⟨item, .error why⟩ :: results) outcomes
  | single {item : Value} {rule : RuleInput} {b : BulkItem} {r : Except Failure Permission}
      {items : List Value} {results : List BulkItem} {outcomes : List (Except Failure Permission)}
      (reading : RuleInput.ofValue item = .ok rule) (tells : BulkItem.Tells item r b)
      (rest : Reports items results outcomes) :
      Reports (item :: items) (b :: results) (r :: outcomes)

theorem Reports.map_item {results : List BulkItem} {outcomes : List (Except Failure Permission)}
    (h : Reports items results outcomes) : results.map BulkItem.item = items := by
  induction h with
  | nil => rfl
  | unread _ _ ih => rw [List.map_cons, ih]
  | single _ tells _ ih =>
      rw [List.map_cons, ih]
      cases tells <;> rfl

/-- Items none of which goes too deep come to the same together and one by one, and leave worlds
abreast. Together they leave the cache alone. -/
theorem addEach_abreast (caller : Caller) {items : List Value}
    (hitems : ∀ item ∈ items, ¬ Overdeep item) : ∀ {w v : World},
    Abreast roleId w v → ∃ results outcomes w' v',
      addEach roleId caller items w = (.ok results, w') ∧
      addSingly roleId caller (accepted items) v = (.ok outcomes, v') ∧
      Reports items results outcomes ∧ Abreast roleId w' v' ∧ w'.cache = w.cache := by
  induction items with
  | nil => exact fun h => ⟨[], [], _, _, rfl, rfl, .nil, h, rfl⟩
  | cons item rest ih =>
      intro w v h
      rw [List.forall_mem_cons] at hitems
      cases hread : RuleInput.ofValue item with
      | error f =>
          obtain ⟨why, rfl⟩ := ofValue_error_of_not_overdeep hitems.1 hread
          have hone := addOne_of_unread hread roleId caller w
          have haccepted : accepted (item :: rest) = accepted rest :=
            List.filterMap_cons_none (by rw [hread]; rfl)
          obtain ⟨results, outcomes, w', v', hbulk, hsingly, hreports, hafter⟩ := ih hitems.2 h
          exact ⟨_, outcomes, w', v', (addEach_each roleId caller).run_cons hone hbulk,
            haccepted ▸ hsingly, .unread hread hreports, hafter⟩
      | ok rule =>
          obtain ⟨b, r, w₁, v₁, hone, hsingle, htells, h₁, hcache⟩ := addOne_abreast h hread caller
          have haccepted : accepted (item :: rest) = rule :: accepted rest :=
            List.filterMap_cons_some (by rw [hread]; rfl)
          obtain ⟨results, outcomes, w', v', hbulk, hsingly, hreports, hafter, hsame⟩ :=
            ih hitems.2 h₁
          refine ⟨_, r :: outcomes, w', v', (addEach_each roleId caller).run_cons hone hbulk, ?_,
            .single hread htells hreports, hafter, hsame.trans hcache⟩
          rw [haccepted, addSingly, Work.bind_of_ok hsingle, Work.bind_of_ok hsingly]
          rfl

/-! ## Which items are added -/

/-- The result of an item when nothing is wanting: an item that is not a rule has the refusal of its
reading, and any other is added if there is the role. -/
inductive BulkItem.Settled (db : Database) (roleId : Uuid) : BulkItem → Prop where
  | unread {item : Value} {why : Refusal}
      (reading : RuleInput.ofValue item = .error (.refused why)) :
      Settled db roleId ⟨item, .error why⟩
  | roleless {item : Value} {rule : RuleInput} (reading : RuleInput.ofValue item = .ok rule)
      (absent : db.hasRole roleId = false) :
      Settled db roleId ⟨item, .error (.missing (.role roleId))⟩
  | added {item : Value} {rule : RuleInput} (reading : RuleInput.ofValue item = .ok rule)
      (there : db.hasRole roleId = true) (id : Uuid) : Settled db roleId ⟨item, .ok id⟩

theorem BulkItem.Settled.isOk {db : Database} {b : BulkItem} (h : b.Settled db roleId) :
    b.outcome.isOk = (db.hasRole roleId && (RuleInput.ofValue b.item).isOk) := by
  cases h with
  | unread reading => rw [reading, Bool.and_comm]; rfl
  | roleless reading absent => rw [absent]; rfl
  | added reading there id => rw [reading, there]; rfl

/-- With enough for two draws an item that does not go too deep is settled, and what is left is as
much as before, less those two. -/
theorem addOne_settled {n : Nat} (hsound : w.faults = FaultPlan.none) (hitem : item.IsJson)
    (hdeep : ¬ Overdeep item) (hw : w.Supplied (n + 2)) (caller : Caller) :
    ∃ b w', bulkItem item (addOne roleId caller item) w = (.ok b, w') ∧
      b.Settled w.db roleId ∧ w'.faults = FaultPlan.none ∧ w'.Supplied n ∧
      w'.db.roles = w.db.roles := by
  cases hread : RuleInput.ofValue item with
  | error f =>
      obtain ⟨why, rfl⟩ := ofValue_error_of_not_overdeep hdeep hread
      exact ⟨_, w, addOne_of_unread hread roleId caller w, .unread hread, hsound,
        hw.of_succ.of_succ, rfl⟩
  | ok rule =>
      cases hrole : w.db.hasRole roleId with
      | false =>
          obtain ⟨w', hrun, hstate, hsupplies⟩ := insert_absent hsound hrole
          have hdb := (World.state_eq.mp hstate).1
          refine ⟨_, w', bulkItem_of_refused item ?_, .roleless hread hrole, ?_,
            hw.of_succ.of_succ.unused hdb hsupplies, congrArg Database.roles hdb⟩
          · rw [addOne_of_rule hread, Work.bind_of_error hrun]
          · exact (World.supplies_eq.mp hsupplies).2.2.trans hsound
      | true =>
          obtain ⟨p, w₁, hrun, hdraws⟩ :=
            insert_apply hsound hrole
              (Value.stored_eq_ok.mpr (RuleInput.conditions_isJson hread hitem)) hw
          have hwrites := (insert_atomic roleId rule).ok hrun
          have hp := Command.addPermission_shaped hwrites
          obtain ⟨row, -, -, hafter⟩ := Database.insertPermission_ok hwrites.2.2
          obtain ⟨log, hlog⟩ := ((recordInsert_logs caller roleId hp).log w₁).withLog
          have hroles : (recordInsert caller roleId p w₁).2.db.roles = w.db.roles := by
            rw [hlog, hafter]
            rfl
          have hrecord := recordInsert_draws caller roleId hp (hw.drawn hdraws)
          have hsound₁ : w₁.faults = FaultPlan.none := by
            have hkept := (insert_blind roleId rule).sound hsound
            rw [hrun] at hkept
            exact hkept
          have hend := (recordInsert_logs caller roleId hp).run w₁
          refine ⟨_, _, bulkItem_of_ok item ?_, .added hread hrole p.id,
            (recordInsert_blind caller roleId p).sound hsound₁, (hw.drawn hdraws).drawn hrecord,
            hroles⟩
          rw [addOne_of_rule hread, Work.bind_of_ok hrun, Work.bind_of_ok hend]
          rfl

/-- With enough for two draws for each item every item is settled. -/
theorem addEach_settled (caller : Caller) {items : List Value}
    (hitems : ∀ item ∈ items, ¬ Overdeep item) (hjson : ∀ item ∈ items, item.IsJson) :
    ∀ {w : World}, w.faults = FaultPlan.none → w.Supplied (2 * items.length) →
    ∃ results w', addEach roleId caller items w = (.ok results, w') ∧
      ∀ b ∈ results, b.Settled w.db roleId := by
  induction items with
  | nil => exact fun _ _ => ⟨[], _, rfl, nofun⟩
  | cons item rest ih =>
      intro w hsound hw
      rw [List.forall_mem_cons] at hitems hjson
      obtain ⟨b, w₁, hone, hsettled, hsound₁, hw₁, hroles⟩ :=
        addOne_settled hsound hjson.1 hitems.1 hw caller
      obtain ⟨results, w', hbulk, hrest⟩ := ih hitems.2 hjson.2 hsound₁ hw₁
      refine ⟨b :: results, w', (addEach_each roleId caller).run_cons hone hbulk,
        List.forall_mem_cons.mpr ⟨hsettled, fun b hb => ?_⟩⟩
      have hsame : w₁.db.hasRole roleId = w.db.hasRole roleId := by
        rw [Database.hasRole, hroles, Database.hasRole]
      cases hrest b hb with
      | unread reading => exact .unread reading
      | roleless reading absent => exact .roleless reading (hsame ▸ absent)
      | added reading there id => exact .added reading (hsame ▸ there) id

/-- If all items are settled, single additions fail for want of the role alone. -/
theorem Reports.failures {db : Database} {results : List BulkItem}
    {outcomes : List (Except Failure Permission)} (h : Reports items results outcomes)
    (hsettled : ∀ b ∈ results, b.Settled db roleId) :
    ∀ r ∈ outcomes, ∀ f, r = .error f → f = .refused (.missing (.role roleId)) := by
  induction h with
  | nil => exact nofun
  | unread _ _ ih => exact ih (List.forall_mem_cons.mp hsettled).2
  | single reading tells _ ih =>
      rw [List.forall_mem_cons] at hsettled ⊢
      refine ⟨fun f hf => ?_, ih hsettled.2⟩
      cases tells with
      | added p => cases hf
      | declined why =>
          cases hf
          cases hsettled.1 with
          | unread unreadable => cases reading.symm.trans unreadable
          | roleless => rfl

/-! ## The whole -/

/-- Without an item that goes too deep a bulk addition ends with one result for each item, and with
the tables and the cache of the single additions. -/
theorem addPermissions_of_shallow (roleId : Uuid) (caller : Caller)
    (hitems : ∀ item ∈ items, ¬ Overdeep item) (hsound : w.faults = FaultPlan.none) :
    ∃ results outcomes w₁ w₂,
      addPermissions roleId (.list items) caller w = (.ok results, w₁) ∧
      addAccepted roleId items caller w = (.ok outcomes, w₂) ∧
      results.map BulkItem.item = items ∧ Reports items results outcomes ∧
      w₁.db = w₂.db ∧ (∀ id, w₁.cache.get? id = w₂.cache.get? id) ∧
      (w.Supplied (2 * items.length) → (∀ item ∈ items, item.IsJson) →
        (∀ b ∈ results,
          b.outcome.isOk = (w.db.hasRole roleId && (RuleInput.ofValue b.item).isOk)) ∧
        ∀ r ∈ outcomes, ∀ f, r = .error f → f = .refused (.missing (.role roleId))) := by
  obtain ⟨results, outcomes, w', v', hbulk, hsingly, hreports, hafter, -⟩ :=
    addEach_abreast caller hitems (show Abreast roleId w w from .refl hsound)
  have hrun : addPermissions roleId (.list items) caller w =
      (.ok results, (Reload.refresh roleId w').2) := by
    show (addEach roleId caller items >>= fun results => _) w = _
    rw [Work.bind_of_ok hbulk, Work.bind_of_ok (Reload.refresh_run roleId w')]
    rfl
  have hsingles : addAccepted roleId items caller w =
      (.ok outcomes, (Reload.refresh roleId v').2) := by
    rw [addAccepted, Work.bind_of_ok hsingly, Work.bind_of_ok (Reload.refresh_run roleId v')]
    rfl
  refine ⟨results, outcomes, _, _, hrun, hsingles, hreports.map_item, hreports, ?_,
    fun id => (hafter.loaded id).symm, fun hsupplied hjson => ?_⟩
  · rw [Reload.refresh_db roleId w', Reload.refresh_db roleId v', hafter.level.db]
  · obtain ⟨results', w'', hagain, hsettled⟩ := addEach_settled caller hitems hjson hsound hsupplied
    cases hbulk.symm.trans hagain
    exact ⟨fun b hb => (hsettled b hb).isOk, hreports.failures hsettled⟩

/-- At the first item that goes too deep a bulk addition fails. The additions before it stay, and
the cache is left as it was. -/
theorem addPermissions_of_overdeep (roleId : Uuid) (caller : Caller) {before : List Value}
    (hbefore : ∀ item ∈ before, ¬ Overdeep item) (hitem : Overdeep item) (after : List Value)
    (hsound : w.faults = FaultPlan.none) :
    ∃ outcomes w₁ w₂,
      addPermissions roleId (.list (before ++ item :: after)) caller w =
        (.error (.broke .tooDeep), w₁) ∧
      addSingly roleId caller (accepted before) w = (.ok outcomes, w₂) ∧
      w₁.db = w₂.db ∧ w₁.cache = w.cache := by
  obtain ⟨results, outcomes, w', v', hbulk, hsingly, -, hafter, hcache⟩ :=
    addEach_abreast caller hbefore (show Abreast roleId w w from .refl hsound)
  refine ⟨outcomes, w', v', ?_, hsingly, hafter.level.db.symm, hcache⟩
  show (addEach roleId caller (before ++ item :: after) >>= fun results => _) w = _
  rw [Work.bind_of_error (addEach_breaks_off caller hitem after hbulk)]

/-- To add several permissions at once is to add those that are rules one after the other, each with
a load of its own, and to load the role once more, unless an item goes too deep. It ends with one
result for each item, in the order of the items, which tells of the outcome of the single addition;
tables and cache are the same afterwards. With all that the draws take and with items that are JSON,
an item is added exactly if it is a rule and there is the role, and the only failure of a single
addition is that there is none. If an item does go too deep, the whole fails there without any
result: the tables are those after the single additions of the items before it, and the cache is the
one before. -/
theorem addPermissions_singly (roleId : Uuid) (items : List Value) (caller : Caller) {w : World}
    (hsound : w.faults = FaultPlan.none) :
    ((∀ item ∈ items, ¬ Overdeep item) → ∃ results outcomes w₁ w₂,
      addPermissions roleId (.list items) caller w = (.ok results, w₁) ∧
      addAccepted roleId items caller w = (.ok outcomes, w₂) ∧
      results.map BulkItem.item = items ∧ Reports items results outcomes ∧
      w₁.db = w₂.db ∧ (∀ id, w₁.cache.get? id = w₂.cache.get? id) ∧
      (w.Supplied (2 * items.length) → (∀ item ∈ items, item.IsJson) →
        (∀ b ∈ results,
          b.outcome.isOk = (w.db.hasRole roleId && (RuleInput.ofValue b.item).isOk)) ∧
        ∀ r ∈ outcomes, ∀ f, r = .error f → f = .refused (.missing (.role roleId)))) ∧
    ∀ before item after, items = before ++ item :: after →
      (∀ x ∈ before, ¬ Overdeep x) → Overdeep item → ∃ outcomes w₁ w₂,
        addPermissions roleId (.list items) caller w = (.error (.broke .tooDeep), w₁) ∧
        addSingly roleId caller (accepted before) w = (.ok outcomes, w₂) ∧
        w₁.db = w₂.db ∧ w₁.cache = w.cache := by
  refine ⟨fun hitems => addPermissions_of_shallow roleId caller hitems hsound, ?_⟩
  rintro before item after rfl hbefore hitem
  exact addPermissions_of_overdeep roleId caller hbefore hitem after hsound

/-- A rule with conditions, a text, and a rule that has no subjects. -/
def mixedItems : List Value :=
  [.map [("action", .text "update"), ("subject", .list [.text "account"]),
    ("conditions", .map [("team", .text "blue")])],
    .text "read", .map [("action", .text "update")]]

theorem mixedItems_supplied : (World.sample .none).Supplied (2 * mixedItems.length) :=
  ⟨by decide +kernel, by decide +kernel, by decide +kernel⟩

theorem mixedItems_isJson : ∀ item ∈ mixedItems, item.IsJson := by
  intro item hitem
  simp only [mixedItems, List.mem_cons, List.not_mem_nil, or_false] at hitem
  rcases hitem with rfl | rfl | rfl <;> exact rfl

theorem not_overdeep_of_isOk (h : (RuleInput.ofValue item).isOk = true) : ¬ Overdeep item := by
  intro hdeep
  rw [hdeep] at h
  cases h

theorem mixedItems_shallow : ∀ item ∈ mixedItems, ¬ Overdeep item := by
  intro item hitem
  simp only [mixedItems, List.mem_cons, List.not_mem_nil, or_false] at hitem
  rcases hitem with rfl | rfl | rfl
  · exact not_overdeep_of_isOk (by decide +kernel)
  · exact nofun
  · exact nofun

/-- Of three items the clerks get one, with one entry in the log, at once and one by one. -/
theorem addPermissions_singly_clerks :
    ∃ results outcomes w₁ w₂,
      addPermissions World.clerks (.list mixedItems) {} (World.sample .none) = (.ok results, w₁) ∧
      addAccepted World.clerks mixedItems {} (World.sample .none) = (.ok outcomes, w₂) ∧
      results.map (fun b => b.outcome.isOk) = [true, false, false] ∧ outcomes.length = 1 ∧
      w₁.db = w₂.db ∧ w₂.db.permissions.length = 2 ∧ w₂.db.auditLog.length = 1 ∧
      (w₁.cache.get? World.clerks).map List.length = some 2 := by
  obtain ⟨results, outcomes, w₁, w₂, hrun, hsingles, hitems, -, hdb, hcache, hadded⟩ :=
    (addPermissions_singly World.clerks mixedItems {}
      (show (World.sample .none).faults = FaultPlan.none from rfl)).1 mixedItems_shallow
  obtain ⟨hresults, -⟩ := hadded mixedItems_supplied mixedItems_isJson
  have hafter : w₂ = (addAccepted World.clerks mixedItems {} (World.sample .none)).2 := by
    rw [hsingles]
  have houtcomes : (addAccepted World.clerks mixedItems {} (World.sample .none)).1.toOption.map
      List.length = some 1 := by decide +kernel
  rw [hsingles] at houtcomes
  refine ⟨results, outcomes, w₁, w₂, hrun, hsingles, ?_, Option.some.inj houtcomes, hdb, ?_, ?_, ?_⟩
  · have hread : mixedItems.map (fun item => (World.sample .none).db.hasRole World.clerks &&
        (RuleInput.ofValue item).isOk) = [true, false, false] := by decide +kernel
    rw [List.map_congr_left hresults, ← hread, ← hitems, List.map_map]
    rfl
  · rw [hafter]
    decide +kernel
  · rw [hafter]
    decide +kernel
  · rw [hcache, hafter]
    decide +kernel

/-- A rule that lets update accounts, without more. -/
def plainItem : Value := .map [("action", .text "update"), ("subject", .text "account")]

/-- This rule, and one with conditions that open a thousand arrays. -/
def brokenItems : List Value := [plainItem, .map RuleInput.bracketsRule]

theorem brokenItems_isJson : ∀ item ∈ brokenItems, item.IsJson := by
  intro item hitem
  simp only [brokenItems, List.mem_cons, List.not_mem_nil, or_false] at hitem
  rcases hitem with rfl | rfl <;> exact rfl

/-- Of these two items the clerks get the first, but there is no result, and the cache is not told.
Added by itself it is in the cache as well. -/
theorem addPermissions_brackets :
    (∀ item ∈ brokenItems, item.IsJson) ∧
      (∃ w₁, addPermissions World.clerks (.list brokenItems) {} (World.sample .none) =
          (.error (.broke .tooDeep), w₁) ∧
        w₁.db.permissions.length = 2 ∧ w₁.cache.get? World.clerks = none) ∧
      ∃ outcomes w₂, addAccepted World.clerks brokenItems {} (World.sample .none) =
          (.ok outcomes, w₂) ∧
        w₂.db.permissions.length = 2 ∧ (w₂.cache.get? World.clerks).map List.length = some 2 := by
  have hdeep : Overdeep (.map RuleInput.bracketsRule) :=
    RuleInput.ofValue_overdeep_iff.mpr ⟨_, rfl, RuleInput.bracketsRule.overdeep⟩
  have hplain : ∀ item ∈ [plainItem], ¬ Overdeep item :=
    List.forall_mem_singleton.mpr (not_overdeep_of_isOk (by decide +kernel))
  refine ⟨brokenItems_isJson, ?_, ?_⟩
  · obtain ⟨outcomes, w₁, w₂, hrun, hsingly, hdb, hcache⟩ :=
      addPermissions_of_overdeep World.clerks {} hplain hdeep []
        (show (World.sample .none).faults = FaultPlan.none from rfl)
    refine ⟨w₁, hrun, ?_, ?_⟩
    · have hafter :
          w₂ = (addSingly World.clerks {} (accepted [plainItem]) (World.sample .none)).2 := by
        rw [hsingly]
      rw [hdb, hafter]
      decide +kernel
    · rw [hcache]
      rfl
  · have hdropped : accepted [.map RuleInput.bracketsRule] = [] :=
      List.filterMap_cons_none (by rw [hdeep]; rfl)
    have haccepted : accepted brokenItems = accepted [plainItem] := by
      show accepted ([plainItem] ++ [.map RuleInput.bracketsRule]) = _
      rw [accepted_append, hdropped, List.append_nil]
    have hsame : addAccepted World.clerks brokenItems = addAccepted World.clerks [plainItem] := by
      funext caller
      rw [addAccepted, haccepted, addAccepted]
    obtain ⟨outcomes, hrun⟩ := Work.exists_of_isOk (show (addAccepted World.clerks [plainItem] {}
      (World.sample .none)).1.isOk = true by decide +kernel)
    rw [hsame]
    exact ⟨outcomes, _, hrun, by decide +kernel, by decide +kernel⟩

end Mutation

end Warrant
