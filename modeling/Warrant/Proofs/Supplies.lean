import Warrant.Proofs.Abreast
import Warrant.Proofs.Storing

/-!
# What an addition draws on

A permission that is added has an identifier that is drawn for it and the time
that the clock shows, and so has its entry in the log. Nothing else that an
addition takes from outside can be wanting: the identifier may be taken already,
and a clock at the end of the calendar cannot be read.

`World.Supplied` says that neither will happen for so many draws. An addition
and its record draw once each, and what remains is as good as before: the
identifier of the new permission is not among those that are still to come.
-/

namespace Warrant

namespace Clock

/-- The clock after it has been read, if it can be read. -/
def next? (c : Clock) : Option Clock := (c.now.add? c.tick).map fun now => { c with now }

/-- Whether a clock can be read so many times. -/
def lasts : Nat → Clock → Bool
  | 0, _ => true
  | n + 1, c => c.next?.any (lasts n)

theorem lasts_succ_iff {n : Nat} {c : Clock} :
    lasts (n + 1) c = true ↔ ∃ c', c.next? = some c' ∧ lasts n c' = true := by
  rw [lasts, Option.any_eq_true]

theorem lasts_of_succ {n : Nat} : ∀ {c : Clock}, lasts (n + 1) c = true → lasts n c = true := by
  induction n with
  | zero => exact fun _ => rfl
  | succ n ih =>
      intro c h
      obtain ⟨c', hnext, hrest⟩ := lasts_succ_iff.mp h
      exact lasts_succ_iff.mpr ⟨c', hnext, ih hrest⟩

end Clock

namespace World

/-- The identifiers that will be drawn next. -/
def coming (w : World) (n : Nat) : List Uuid := (List.range' (w.issued + 1) n).map Work.freshId

/-- A world that has all that so many draws take: the clock can be read so many times, and the
identifiers that come are all different and none of them is that of a permission. -/
structure Supplied (w : World) (n : Nat) : Prop where
  clock : w.clock.lasts n = true
  distinct : (w.coming n).Nodup
  free : ∀ id ∈ w.coming n, w.db.hasPermission id = false

/-- One identifier has been drawn and the clock has been read once, and roles and permissions that
were not there before have that identifier. -/
structure Draws (w w' : World) : Prop where
  clock : w.clock.next? = some w'.clock
  issued : w'.issued = w.issued + 1
  roles : ∀ id, w'.db.hasRole id = true →
    w.db.hasRole id = true ∨ id = Work.freshId (w.issued + 1)
  permissions : ∀ id, w'.db.hasPermission id = true →
    w.db.hasPermission id = true ∨ id = Work.freshId (w.issued + 1)

variable {w w' : World} {n : Nat}

theorem coming_succ (w : World) (n : Nat) :
    w.coming (n + 1) = Work.freshId (w.issued + 1) :: (List.range' (w.issued + 1 + 1) n).map
      Work.freshId := rfl

theorem coming_sublist (w : World) (n : Nat) : (w.coming n).Sublist (w.coming (n + 1)) := by
  refine List.Sublist.map _ ?_
  rw [List.range'_concat]
  exact List.sublist_append_left _ _

theorem coming_congr (h : w'.issued = w.issued) (n : Nat) : w'.coming n = w.coming n := by
  rw [coming, h, coming]

namespace Supplied

theorem of_succ (h : w.Supplied (n + 1)) : w.Supplied n := by
  have hcoming := w.coming_sublist n
  exact ⟨Clock.lasts_of_succ h.clock, h.distinct.sublist hcoming,
    fun id hid => h.free id (hcoming.subset hid)⟩

theorem runs (h : w.Supplied (n + 1)) : w.clock.Runs := by
  obtain ⟨c, hnext, -⟩ := Clock.lasts_succ_iff.mp h.clock
  obtain ⟨next, hnext, -⟩ := Option.map_eq_some_iff.mp hnext
  exact Option.isSome_of_eq_some hnext

theorem head (h : w.Supplied (n + 1)) : w.db.hasPermission (Work.freshId (w.issued + 1)) = false :=
  h.free _ List.mem_cons_self

/-- What is not used stays. -/
theorem unused (h : w.Supplied n) (hdb : w'.db = w.db) (hsupplies : w'.supplies = w.supplies) :
    w'.Supplied n := by
  obtain ⟨hclock, hissued, -⟩ := supplies_eq.mp hsupplies
  have hcoming := coming_congr hissued n
  refine ⟨hclock ▸ h.clock, hcoming ▸ h.distinct, ?_⟩
  rw [hcoming, hdb]
  exact h.free

/-- What is known of none of the coming identifiers, and after a draw at most of the one that was
drawn, is known of none that is still to come. -/
theorem free_of_draws (h : w.Supplied (n + 1)) (hdraws : w.Draws w') {known known' : Uuid → Bool}
    (hfree : ∀ id ∈ w.coming (n + 1), known id = false)
    (hknown : ∀ id, known' id = true → known id = true ∨ id = Work.freshId (w.issued + 1)) :
    ∀ id ∈ w'.coming n, known' id = false := by
  have hcoming : w'.coming n = (List.range' (w.issued + 1 + 1) n).map Work.freshId := by
    rw [coming, hdraws.issued]
  have hdistinct := h.distinct
  rw [coming_succ, ← hcoming] at hdistinct hfree
  rw [List.nodup_cons] at hdistinct
  refine fun id hid => Bool.eq_false_iff.mpr fun htaken => ?_
  rcases hknown id htaken with hold | rfl
  · rw [hfree id (List.mem_cons_of_mem _ hid)] at hold
    cases hold
  · exact hdistinct.1 hid

/-- After a draw there is enough for one draw less. -/
theorem drawn (h : w.Supplied (n + 1)) (hdraws : w.Draws w') : w'.Supplied n := by
  have hcoming : w.coming (n + 1) = Work.freshId (w.issued + 1) :: w'.coming n := by
    rw [coming_succ, coming, hdraws.issued]
  refine ⟨?_, (hcoming ▸ h.distinct).of_cons, h.free_of_draws hdraws h.free hdraws.permissions⟩
  obtain ⟨c, hnext, hrest⟩ := Clock.lasts_succ_iff.mp h.clock
  rw [Option.some.inj (hdraws.clock.symm.trans hnext)]
  exact hrest

end Supplied

end World

/-! ## An addition -/

namespace Database

variable {db : Database} {p : Permission}

/-- A permission in shape is added if its conditions can be stored and its identifier is free. -/
theorem insertPermission_of_shaped (hp : p.toTerms.Shaped) {conditions : Value}
    (hconditions : p.conditions.stored = .ok conditions) (hfree : db.hasPermission p.id = false) :
    db.insertPermission p = .ok { db with permissions := db.permissions ++ [{ p with conditions }] } := by
  refine Fault.bind_ok.mpr ⟨_, storedPermission_of_shaped hp hconditions, ?_⟩
  rw [if_neg (Bool.eq_false_iff.mp hfree)]

theorem hasPermission_append (db : Database) (row : Permission) (id : Uuid) :
    ({ db with permissions := db.permissions ++ [row] } : Database).hasPermission id = true ↔
      db.hasPermission id = true ∨ row.id = id := by
  simp [hasPermission]

end Database

namespace Store

/-- If no step fails, a role that is not there is told to be missing. -/
theorem existingRole_absent {w : World} (hsound : w.faults = FaultPlan.none) {id : Uuid}
    (hrole : w.db.hasRole id = false) :
    ∃ w', existingRole id w = (.error (.refused (.missing (.role id))), w') := by
  obtain ⟨w', hread, -⟩ := role_apply hsound id
  have hnone : w.db.role? id = none := by
    cases hfound : w.db.role? id with
    | none => rfl
    | some r => exact absurd (Database.role?_some hfound).1 (Bool.eq_false_iff.mp hrole)
  refine ⟨w', ?_⟩
  unfold existingRole
  rw [Work.bind_apply, hread, hnone]
  rfl

end Store

namespace Audit

/-- A record draws once, whatever becomes of it, and adds neither roles nor permissions. -/
theorem record_draws {note : AuditNote} (hmetadata : note.metadata = .map []) {w : World} {n : Nat}
    (hw : w.Supplied (n + 1)) : w.Draws (Recording.after ⟨note, w⟩) := by
  obtain ⟨next, hnext⟩ := Option.isSome_iff_exists.mp hw.runs
  have hcompose : compose note w =
      (.ok (entryOf note [] (Work.freshId (w.issued + 1)) w.clock.now),
        { w with issued := w.issued + 1, clock := { w.clock with now := next } }) :=
    compose_ok_iff.mpr ⟨[], next, [], by rw [hmetadata]; rfl, hnext, rfl, rfl, rfl⟩
  have halike := record_alike note w
  rw [hcompose] at halike
  refine ⟨?_, halike.issued, fun id hid => Or.inl ?_, fun id hid => Or.inl ?_⟩
  · rw [Clock.next?, hnext, halike.clock]
    rfl
  · rw [Database.hasRole, halike.roles] at hid
    exact hid
  · rw [Database.hasPermission, halike.permissions] at hid
    exact hid

end Audit

namespace Mutation

variable {w : World} {roleId : Uuid} {rule : RuleInput} {conditions : Value} {n : Nat}

/-- Without its role a permission is refused, and nothing is drawn for it. -/
theorem insert_absent (hsound : w.faults = FaultPlan.none) (hrole : w.db.hasRole roleId = false) :
    ∃ w', insert roleId rule w = (.error (.refused (.missing (.role roleId))), w') ∧
      w'.state = w.state ∧ w'.supplies = w.supplies := by
  have hopen : ({ w with steps := w.steps + 1 } : World).faults = FaultPlan.none := hsound
  obtain ⟨w₁, habsent⟩ := Store.existingRole_absent hopen hrole
  have hsupplies := (Store.existingRole_supplies roleId).after habsent
  have hrun : Work.transact (insertBody roleId rule) w =
      (.error (.refused (.missing (.role roleId))), { w₁ with db := w.db }) :=
    Work.transact_apply_error hsound (Work.bind_of_error habsent)
  have hinsert : insert roleId rule w =
      (.error (.refused (.missing (.role roleId))), { w₁ with db := w.db }) := by
    show Work.asMutation _ (Work.transact (insertBody roleId rule)) w = _
    unfold Work.asMutation
    rw [hrun]
  exact ⟨_, hinsert, ((insert_atomic roleId rule).error hinsert).2, hsupplies⟩

theorem insertBody_apply (hsound : w.faults = FaultPlan.none) (hrole : w.db.hasRole roleId = true)
    (hrule : (Value.ofOption .map rule.conditions).stored = .ok conditions)
    (hw : w.Supplied (n + 1)) :
    ∃ p w', insertBody roleId rule w = (.ok p, w') ∧ w.Draws w' ∧ w'.faults = FaultPlan.none := by
  obtain ⟨r, w₁, hread, hsound₁⟩ := Store.existingRole_apply hsound hrole
  have hdb : w₁.db = w.db := (World.state_eq.mp (Store.existingRole_ok hread).2).1
  obtain ⟨hclock, hissued, -⟩ :=
    World.supplies_eq.mp ((Store.existingRole_supplies roleId).after hread)
  obtain ⟨next, hnext⟩ := Option.isSome_iff_exists.mp hw.runs
  let p := rule.toPermission (Work.freshId (w.issued + 1)) roleId w.clock.now
  let row : Permission := { p with conditions }
  let after : Database := { w.db with permissions := w.db.permissions ++ [row] }
  let w₂ : World := { w₁ with issued := w.issued + 1, clock := { w.clock with now := next } }
  have hsound₂ : w₂.faults = FaultPlan.none := hsound₁
  have hdraw : Work.drawId w₁ =
      (.ok (Work.freshId (w.issued + 1)), { w₁ with issued := w.issued + 1 }) :=
    Work.drawId_ok.mpr ⟨by rw [hissued], by rw [hissued]⟩
  have htime : Work.readClock { w₁ with issued := w.issued + 1 } = (.ok w.clock.now, w₂) :=
    Work.readClock_ok.mpr ⟨next, by rw [hclock]; exact hnext, by rw [hclock], by rw [hclock]⟩
  have hinsert : w₂.db.insertPermission p = .ok after := by
    rw [show w₂.db = w.db from hdb]
    exact Database.insertPermission_of_shaped (rule.toPermission_shaped _ _ _) hrule hw.head
  have hstore : Store.insertPermission p w₂ =
      (.ok (), { w₂ with db := after, steps := w₂.steps + 1 }) :=
    Work.write_apply hsound₂ .permissionInsert hinsert
  refine ⟨p, _, Work.bind_ok.mpr ⟨r, w₁, hread, Work.bind_ok.mpr ⟨_, _, hdraw, Work.bind_ok.mpr
    ⟨_, _, htime, Work.bind_ok.mpr ⟨(), _, hstore, rfl⟩⟩⟩⟩, ⟨?_, rfl, fun _ => .inl, fun id hid => ?_⟩, hsound₁⟩
  · rw [Clock.next?, hnext]
    rfl
  · exact ((Database.hasPermission_append w.db row id).mp hid).imp_right Eq.symm

/-- With its role there and enough to draw on, a permission whose conditions can be stored is
added. -/
theorem insert_apply (hsound : w.faults = FaultPlan.none) (hrole : w.db.hasRole roleId = true)
    (hrule : (Value.ofOption .map rule.conditions).stored = .ok conditions)
    (hw : w.Supplied (n + 1)) :
    ∃ p w', insert roleId rule w = (.ok p, w') ∧ w.Draws w' := by
  have hopen : ({ w with steps := w.steps + 1 } : World).faults = FaultPlan.none := hsound
  obtain ⟨p, w₁, hbody, hdraws, hsound₁⟩ :=
    insertBody_apply hopen hrole hrule ⟨hw.clock, hw.distinct, hw.free⟩
  exact ⟨p, _, Work.asMutation_ok.mpr (Work.transact_apply hsound hbody hsound₁), hdraws.clock,
    hdraws.issued, hdraws.roles, hdraws.permissions⟩

/-- The record of an addition draws once. -/
theorem recordInsert_draws (caller : Caller) (roleId : Uuid) {p : Permission}
    (hp : p.toTerms.Shaped) (hw : w.Supplied (n + 1)) :
    w.Draws (recordInsert caller roleId p w).2 := by
  have hrun : recordInsert caller roleId p w = (.ok (),
      Recording.after ⟨.granted caller (.uuid roleId) (p.toTerms.shown (.uuid p.id)), w⟩) :=
    Audit.record_run_snapshot (hp.snapshot_eq _) (.granted caller (.uuid roleId)) w
  rw [hrun]
  exact Audit.record_draws rfl hw

end Mutation

end Warrant
