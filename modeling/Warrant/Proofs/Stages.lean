import Warrant.Proofs.Loading
import Warrant.Proofs.Recording

/-!
# A change and what follows it

Every change to permissions, roles and accounts goes through the same stages.
The change itself comes first and is the only stage that can fail. After it the
rules of the role that it touched are loaded again, and the change is recorded;
neither of the two can fail any more. A change that fails is not followed by
either.

A change is *whole* if it is made as a whole or not at all. Then no failure of
any step, in any stage, can leave a part of it behind or turn it into an error
once it is made. A change is *tracked* if the role that it names for loading is
the only one whose rules it may have touched. Then loading that role again is
enough: if the cache mirrored the tables before, it mirrors them after. A change
of many parts may break off between them, and then nothing is loaded: the role
that it exposes is left behind until it is loaded again.
-/

namespace Warrant.Mutation

/-- A change in its stages: what is done to the tables, the role that is to be loaded again, what
is recorded, and what the caller is told. If it fails there is nothing of this, but for the role
whose rules it may have touched by then. -/
structure Stages (α : Type) where
  Changed : Type
  change : Work Changed
  touched : Changed → Option Uuid
  close : Changed → Work Unit
  result : Changed → α
  exposed : Failure → Option Uuid := fun _ => none

namespace Stages

variable {α : Type}

/-- Loads the rules of a role again, if one is named. -/
def reload : Option Uuid → Work Unit
  | some id => Reload.refresh id
  | none => pure ()

/-- One stage after the other. -/
def run (s : Stages α) : Work α := do
  let done ← s.change
  reload (s.touched done)
  s.close done
  return s.result done

/-- The reload that a run comes to: the role, and the world in which it is loaded. There is none
if the change fails or touches no role. -/
def reloadAt (s : Stages α) (w : World) : Option (Uuid × World) :=
  match s.change w with
  | (.ok done, w₁) => (s.touched done).map fun id => (id, w₁)
  | (.error _, _) => none

/-- Whether the reload of a run succeeds, if it comes to one. -/
def Reloads (s : Stages α) (w : World) : Prop :=
  ∀ id w₁, s.reloadAt w = some (id, w₁) → (Reload.invalidate id w₁).1 = .ok ()

instance (s : Stages α) (w : World) : Decidable (s.Reloads w) :=
  decidable_of_iff
    ((s.reloadAt w).all fun reload => (Reload.invalidate reload.1 reload.2).1.isOk) (by
      constructor
      · intro h id w₁ hreload
        rw [hreload] at h
        exact eq_ok_of_isOk h
      · intro h
        cases hreload : s.reloadAt w with
        | none => rfl
        | some reload =>
            rw [Option.all_some, h reload.1 reload.2 hreload]
            rfl)

/-- The roles at which the cache may be behind the tables after a run, if before it there were
some: the role that is loaded again is no longer among them, and one that a failed change exposes
joins them. -/
def behind (s : Stages α) (w : World) (ids : List Uuid) : List Uuid :=
  match s.change w with
  | (.ok done, _) => ids.filter fun id => some id ≠ s.touched done
  | (.error f, _) => (s.exposed f).toList ++ ids

/-! ## What a change must be -/

/-- What follows the change, if it is made, ends well and at most adds to the log. -/
def Closes (s : Stages α) (w : World) : Prop :=
  ∀ {w₁ : World} {done : s.Changed}, s.change w = (.ok done, w₁) → Work.Logs (s.close done)

/-- A change that is made as a whole, as `writes` says of the tables before, the result and the
tables after, or is refused. Only a clock that stands still for good is not answered. What follows
needs rows that can be shown, but no keys. -/
structure Whole (s : Stages α) (writes : Database → α → Database → Prop) : Prop where
  closes : ∀ {w : World}, (∀ p ∈ w.db.permissions, p.toTerms.Shaped) → s.Closes w
  ok : ∀ {w w₁ : World} {done : s.Changed}, s.change w = (.ok done, w₁) →
    writes w.db (s.result done) w₁.db ∧ w₁.cache = w.cache
  error : ∀ {w w₁ : World} {f : Failure}, s.change w = (.error f, w₁) →
    (w.clock.Runs → ∃ why, f = .refused why) ∧ w₁.state = w.state

/-- A transaction is a whole change. -/
theorem whole_of_atomic {s : Stages α} {writes : Database → α → Database → Prop}
    {does : Database → s.Changed → Database → Prop} (hatomic : Work.Atomic s.change does)
    (hwrites : ∀ {db db' : Database} {done : s.Changed}, does db done db' →
      writes db (s.result done) db')
    (hcloses : ∀ {db db' : Database} {done : s.Changed},
      (∀ p ∈ db.permissions, p.toTerms.Shaped) → does db done db' → Work.Logs (s.close done)) :
    s.Whole writes where
  closes hrows _ _ hrun := hcloses hrows (hatomic.ok hrun)
  ok hrun := ⟨hwrites (hatomic.ok hrun), hatomic.cache.after hrun⟩
  error hrun := ⟨fun _ => (hatomic.error hrun).1, (hatomic.error hrun).2⟩

/-- A change that touches no rules but those of the role that is loaded again afterwards, or that
is exposed if it fails. -/
structure Tracked (s : Stages α) : Prop where
  closes : ∀ {w : World}, w.db.Shaped → s.Closes w
  ok : ∀ {w w₁ : World} {done : s.Changed}, w.db.Shaped → s.change w = (.ok done, w₁) →
    w₁.cache = w.cache ∧ Database.ChangesOnly (s.touched done) w.db w₁.db
  error : ∀ {w w₁ : World} {f : Failure}, w.db.Shaped → s.change w = (.error f, w₁) →
    w₁.cache = w.cache ∧ Database.ChangesOnly (s.exposed f) w.db w₁.db

/-- A whole change is tracked if what it writes touches no role but the one it names. -/
theorem Whole.tracked {s : Stages α} {writes : Database → α → Database → Prop}
    (h : s.Whole writes)
    (htouches : ∀ {db db' : Database} {done : s.Changed}, db.Shaped →
      writes db (s.result done) db' → Database.ChangesOnly (s.touched done) db db') :
    s.Tracked where
  closes hdb := h.closes hdb.rows
  ok hdb hrun := ⟨(h.ok hrun).2, htouches hdb (h.ok hrun).1⟩
  error hdb hrun := by
    obtain ⟨hsame, hcache⟩ := World.state_eq.mp (h.error hrun).2
    rw [hsame]
    exact ⟨hcache, Database.ChangesOnly.refl hdb⟩

/-! ## What a run comes to -/

theorem reload_apply (touched : Option Uuid) (w : World) :
    reload touched w = (.ok (), (reload touched w).2) := by
  cases touched <;> rfl

theorem reload_db (touched : Option Uuid) : Work.Keeps World.db (reload touched) := by
  cases touched with
  | none => exact Work.Keeps.pure ()
  | some id => exact Reload.load_db (some [id])

/-- After a change that was made, the other stages follow and end well. -/
theorem run_of_ok {s : Stages α} {w w₁ : World} {done : s.Changed}
    (hchange : s.change w = (.ok done, w₁)) (hclose : Work.Logs (s.close done)) :
    s.run w = (.ok (s.result done), (s.close done (reload (s.touched done) w₁).2).2) := by
  unfold run
  rw [Work.bind_of_ok hchange, Work.bind_of_ok (reload_apply _ w₁), Work.bind_of_ok (hclose.run _)]
  rfl

theorem run_of_error {s : Stages α} {w w₁ : World} {f : Failure}
    (hchange : s.change w = (.error f, w₁)) : s.run w = (.error f, w₁) := by
  unfold run
  rw [Work.bind_apply, hchange]

/-- What a run says that ends with a result: the change was made, and what followed it added at
most an entry to the log. -/
theorem run_ok {s : Stages α} {w w' : World} {a : α} (hcloses : s.Closes w)
    (hrun : s.run w = (.ok a, w')) :
    ∃ done w₁, s.change w = (.ok done, w₁) ∧ a = s.result done ∧ w₁.db.Logged w'.db := by
  rcases hchange : s.change w with ⟨f | done, w₁⟩
  · rw [run_of_error hchange] at hrun
    cases hrun
  · have hclose := hcloses hchange
    have hlog := hclose.log (reload (s.touched done) w₁).2
    rw [reload_db] at hlog
    rw [run_of_ok hchange hclose] at hrun
    cases hrun
    exact ⟨done, w₁, rfl, rfl, hlog⟩

/-- A run fails only where the change fails. -/
theorem run_error {s : Stages α} {w w' : World} {f : Failure} (hcloses : s.Closes w)
    (hrun : s.run w = (.error f, w')) : s.change w = (.error f, w') := by
  rcases hchange : s.change w with ⟨g | done, w₁⟩
  · rw [run_of_error hchange] at hrun
    cases hrun
    rfl
  · rw [run_of_ok hchange (hcloses hchange)] at hrun
    cases hrun

/-- A whole change that fails was refused and has left no trace. -/
theorem Whole.run_error {s : Stages α} {writes : Database → α → Database → Prop}
    (h : s.Whole writes) {w w' : World} {f : Failure}
    (hrows : ∀ p ∈ w.db.permissions, p.toTerms.Shaped) (hrun : s.run w = (.error f, w')) :
    (w.clock.Runs → ∃ why, f = .refused why) ∧ w'.state = w.state :=
  h.error (Stages.run_error (h.closes hrows) hrun)

/-- A whole change that succeeds was made. -/
theorem Whole.run_ok {s : Stages α} {writes : Database → α → Database → Prop}
    (h : s.Whole writes) {w w' : World} {a : α}
    (hrows : ∀ p ∈ w.db.permissions, p.toTerms.Shaped) (hrun : s.run w = (.ok a, w')) :
    ∃ db₁, writes w.db a db₁ ∧ db₁.Logged w'.db := by
  obtain ⟨done, w₁, hchange, rfl, hlog⟩ := Stages.run_ok (h.closes hrows) hrun
  exact ⟨w₁.db, (h.ok hchange).1, hlog⟩

/-- A tracked change leaves a shaped database, however it ends. -/
theorem Tracked.shaped {s : Stages α} (h : s.Tracked) {w : World} (hdb : w.db.Shaped) :
    (s.run w).2.db.Shaped := by
  rcases hrun : s.run w with ⟨f | a, w'⟩
  · exact (h.error hdb (run_error (h.closes hdb) hrun)).2.shaped
  · obtain ⟨done, w₁, hchange, -, hlog⟩ := run_ok (h.closes hdb) hrun
    exact (hlog.changesOnly (h.ok hdb hchange).2.shaped).shaped

/-- If the reload works out, a tracked change leaves the cache a mirror of the tables where it was
one, and at the role that is loaded again. -/
theorem Tracked.mirrorsBut {s : Stages α} (h : s.Tracked) {w : World} {ids : List Uuid}
    (hdb : w.db.Shaped) (hmirrors : w.cache.MirrorsBut w.db ids) (hreloads : s.Reloads w) :
    (s.run w).2.cache.MirrorsBut (s.run w).2.db (s.behind w ids) := by
  rcases hchange : s.change w with ⟨f | done, w₁⟩
  · obtain ⟨hcache, honly⟩ := h.error hdb hchange
    rw [run_of_error hchange, behind, hchange]
    intro id hid
    rw [List.mem_append, Option.mem_toList, not_or] at hid
    dsimp only
    rw [honly.rules id fun heq => hid.1 heq, hcache]
    exact hmirrors id hid.2
  · obtain ⟨hcache, honly⟩ := h.ok hdb hchange
    have hclose := h.closes hdb hchange
    rw [run_of_ok hchange hclose, behind, hchange]
    dsimp only
    -- Whatever is recorded at the end, the rules and the cache are those after the reload.
    have hafter : (reload (s.touched done) w₁).2.cache.MirrorsBut
        (reload (s.touched done) w₁).2.db (ids.filter fun id => some id ≠ s.touched done) := by
      cases htouched : s.touched done with
      | none =>
          intro id hid
          show w₁.db.rulesFor id = .ok (w₁.cache.get? id)
          rw [honly.rules id (by rw [htouched]; exact nofun), hcache]
          exact hmirrors id fun hmem => hid (List.mem_filter.mpr ⟨hmem, rfl⟩)
      | some id =>
          have hothers : w₁.cache.MirrorsBut w₁.db (id :: ids) := by
            intro other hother
            rw [List.mem_cons, not_or] at hother
            rw [honly.rules other (by
              rw [htouched]
              exact fun heq => hother.1 (Option.some.inj heq).symm), hcache]
            exact hmirrors other hother.2
          have hloaded := Reload.invalidate_mirrorsBut hothers (hreloads id w₁ (by
            simp only [reloadAt, hchange, htouched, Option.map_some]))
          simp only [ne_eq, Option.some.injEq]
          exact hloaded
    have hshaped : (reload (s.touched done) w₁).2.db.Shaped := by
      rw [reload_db]
      exact honly.shaped
    have hlogged := (hclose.log (reload (s.touched done) w₁).2).changesOnly hshaped
    intro id hid
    rw [hlogged.rules id nofun, hclose.cache]
    exact hafter id hid

end Stages

end Warrant.Mutation
