import Warrant.Proofs.Removal

/-!
# Runs abreast

The same change can be made in two worlds that have the same tables, the same
clock and the same identifiers to draw, and yet differ: the cache of one is
behind, and the other has taken more steps because it has loaded rules in
between. While no step of the database fails, the number of a step makes no
difference, and the cache is looked at by checks alone. An operation that makes
use of neither has the same result in both worlds and leaves them on a level.

`Work.Blind` says this of an operation and is closed under the parts that
operations are built from. The transaction that adds a permission is blind, and
so is its record, which is what is needed to set a bulk run and single additions
side by side.
-/

namespace Warrant

namespace World

/-- Two worlds on a level: no step of the database fails in them, they have the same tables, and they
draw on the same. Their caches may differ, and so may the number of steps that have been taken. -/
structure Level (w v : World) : Prop where
  sound : w.faults = FaultPlan.none
  db : v.db = w.db
  supplies : v.supplies = w.supplies

namespace Level

variable {w v : World}

theorem refl (hsound : w.faults = FaultPlan.none) : w.Level w := ⟨hsound, rfl, rfl⟩

theorem clock (h : w.Level v) : v.clock = w.clock := (supplies_eq.mp h.supplies).1

theorem issued (h : w.Level v) : v.issued = w.issued := (supplies_eq.mp h.supplies).2.1

theorem sound_right (h : w.Level v) : v.faults = FaultPlan.none :=
  (supplies_eq.mp h.supplies).2.2.trans h.sound

end Level

end World

/-! ## Operations that see neither cache nor steps -/

namespace Work

variable {α β : Type}

/-- An operation that makes no use of the cache, nor of the number of steps: in worlds on a level it
has the same result, and it leaves them on a level. -/
def Blind (t : Work α) : Prop :=
  ∀ ⦃w v : World⦄, w.Level v → (t v).1 = (t w).1 ∧ (t w).2.Level (t v).2

namespace Blind

theorem sound {t : Work α} (ht : Blind t) {w : World} (hsound : w.faults = FaultPlan.none) :
    (t w).2.faults = FaultPlan.none := (ht (.refl hsound)).2.sound

theorem ofResult (r : Except Failure α) : Blind (ofResult r) := by
  intro w v h
  cases r <;> exact ⟨rfl, h⟩

theorem pure (a : α) : Blind (Pure.pure a : Work α) := ofResult (.ok a)

theorem fail (f : Failure) : Blind (fail f : Work α) := ofResult (.error f)

theorem refuse (why : Refusal) : Blind (refuse why : Work α) := fail _

theorem bind {t : Work α} {next : α → Work β} (ht : Blind t) (hnext : ∀ a, Blind (next a)) :
    Blind (t >>= next) := by
  intro w v h
  obtain ⟨hresult, hafter⟩ := ht h
  rcases hrun : t w with ⟨f | a, w₁⟩ <;> rcases hrun' : t v with ⟨f' | a', v₁⟩ <;>
    rw [hrun, hrun'] at hresult hafter <;> cases hresult
  · rw [bind_of_error hrun, bind_of_error hrun']
    exact ⟨rfl, hafter⟩
  · rw [bind_of_ok hrun, bind_of_ok hrun']
    exact hnext a hafter

theorem attempt {t : Work α} (ht : Blind t) : Blind (attempt t) := by
  intro w v h
  obtain ⟨hresult, hafter⟩ := ht h
  exact ⟨congrArg Except.ok hresult, hafter⟩

theorem asMutation {change : Change} {t : Work α} (ht : Blind t) :
    Blind (asMutation change t) := by
  intro w v h
  obtain ⟨hresult, hafter⟩ := ht h
  rcases hrun : t w with ⟨r, w₁⟩
  rcases hrun' : t v with ⟨r', v₁⟩
  rw [hrun, hrun'] at hresult hafter
  obtain rfl : r' = r := hresult
  unfold Work.asMutation
  rw [hrun, hrun']
  rcases r' with (_ | _) | _ <;> exact ⟨rfl, hafter⟩

theorem drawId : Blind drawId := by
  intro w v h
  refine ⟨?_, h.sound, h.db, ?_⟩
  · exact congrArg (fun n => Except.ok (freshId (n + 1))) h.issued
  · exact World.supplies_eq.mpr
      ⟨h.clock, congrArg (· + 1) h.issued, h.sound_right.trans h.sound.symm⟩

theorem readClock : Blind readClock := by
  intro w v h
  unfold Work.readClock
  rw [h.clock]
  cases w.clock.now.add? w.clock.tick with
  | none => exact ⟨rfl, h⟩
  | some next =>
      exact ⟨rfl, h.sound, h.db,
        World.supplies_eq.mpr ⟨rfl, h.issued, h.sound_right.trans h.sound.symm⟩⟩

theorem step (s : DbStep) : Blind (step s) := by
  intro w v h
  rw [step_apply h.sound, step_apply h.sound_right]
  exact ⟨rfl, h.sound, h.db, h.supplies⟩

theorem query (s : DbStep) (read : Database → α) : Blind (query s read) :=
  bind (step s) fun _ _ _ h => ⟨congrArg (fun db => Except.ok (read db)) h.db, h⟩

theorem write (s : DbStep) (change : Database → Except Fault Database) :
    Blind (write s change) := by
  rw [write_eq]
  refine bind (step s) fun _ w v h => ?_
  unfold overwrite
  rw [h.db]
  cases change w.db with
  | error e => exact ⟨rfl, h⟩
  | ok db => exact ⟨rfl, h.sound, rfl, h.supplies⟩

theorem transact {body : Work α} (hbody : Blind body) : Blind (transact body) := by
  have hrun : Blind (unsettled body) :=
    bind (step .connect) fun _ => bind hbody fun a => bind (step .commit) fun _ => pure a
  intro w v h
  obtain ⟨hresult, hafter⟩ := hrun h
  rcases hends : unsettled body w with ⟨f | a, w₁⟩ <;>
    rcases hends' : unsettled body v with ⟨f' | a', v₁⟩ <;>
    rw [hends, hends'] at hresult hafter <;> cases hresult
  -- A failure takes back the tables, and those were the same to begin with.
  · rw [transact_of_error hends, transact_of_error hends']
    exact ⟨rfl, hafter.sound, h.db, hafter.supplies⟩
  · rw [transact_of_ok hends, transact_of_ok hends']
    exact ⟨rfl, hafter⟩

end Blind

end Work

/-! ## Adding a permission -/

namespace Store

theorem roles_blind (scope : Option (List Uuid)) : Work.Blind (roles scope) := by
  refine Work.Blind.bind (Work.Blind.query _ _) fun rows => ?_
  split
  · exact Work.Blind.pure []
  · exact Work.Blind.query _ _

theorem existingRole_blind (id : Uuid) : Work.Blind (existingRole id) := by
  refine Work.Blind.bind (Work.Blind.bind (roles_blind (some [id])) fun _ => Work.Blind.pure _)
    fun found => ?_
  cases found with
  | none => exact Work.Blind.refuse _
  | some r => exact Work.Blind.pure r

end Store

namespace Audit

theorem part_blind {α : Type} (found : Option α) : Work.Blind (part found) := by
  cases found with
  | none => exact Work.Blind.fail _
  | some a => exact Work.Blind.pure a

theorem append_blind (note : AuditNote) : Work.Blind (append note) := by
  have hcompose : Work.Blind (compose note) :=
    Work.Blind.bind Work.Blind.drawId fun _ => Work.Blind.bind (part_blind _) fun _ =>
      Work.Blind.bind Work.Blind.readClock fun _ => Work.Blind.bind (part_blind _) fun _ =>
        Work.Blind.pure _
  exact Work.Blind.bind hcompose fun _ =>
    Work.Blind.bind (Work.Blind.transact (Work.Blind.write _ _)) fun _ => Work.Blind.pure _

theorem record_blind (note : AuditNote) : Work.Blind (record note) := by
  refine Work.Blind.bind (append_blind note).attempt fun r => ?_
  cases r with
  | error f => exact Work.Blind.pure none
  | ok entry => exact Work.Blind.pure (some entry)

end Audit

namespace Mutation

theorem insert_blind (roleId : Uuid) (rule : RuleInput) : Work.Blind (insert roleId rule) := by
  have hbody : Work.Blind (insertBody roleId rule) :=
    Work.Blind.bind (Store.existingRole_blind roleId) fun _ =>
      Work.Blind.bind Work.Blind.drawId fun _ => Work.Blind.bind Work.Blind.readClock fun _ =>
        Work.Blind.bind (Work.Blind.write _ _) fun _ => Work.Blind.pure _
  exact hbody.transact.asMutation

theorem recordInsert_blind (caller : Caller) (roleId : Uuid) (p : Permission) :
    Work.Blind (recordInsert caller roleId p) :=
  Work.Blind.bind (Work.Blind.ofResult _) fun _ =>
    Work.Blind.bind (Audit.record_blind _) fun _ => Work.Blind.pure ()

end Mutation

end Warrant
