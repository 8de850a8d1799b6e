import Warrant.World

/-!
# Taking operations apart

An operation is a function of a world, and the operations of this library are
built from a few parts: one after another, steps of the database, transactions,
and the two wrappers that answer a failure. Every later argument about an
operation is a walk through these parts, so each part says here, once, what it
means that it ended one way or the other. No later proof unfolds them.

What an operation leaves alone is said through an observation of the world: an
operation keeps an observation if it is the same before and after, whichever
way the operation ends. Two observations matter. Most operations keep the
tables and the cache; a change keeps at least the cache, up to the moment when
it loads rules again.

A transaction is where the tables can change and still come back. It keeps the
cache if its body does, and if it fails the tables are as they were, whatever
the body did to them.
-/

namespace Warrant

namespace World

/-- What a world is about, apart from its clock, its identifiers and the fate of its steps. -/
def state (w : World) : Database × RuleCache := (w.db, w.cache)

theorem state_eq {w w' : World} : w'.state = w.state ↔ w'.db = w.db ∧ w'.cache = w.cache := by
  simp only [state, Prod.mk.injEq]

end World

/-- A clock that can be read: it does not stand at the end of the calendar. -/
def Clock.Runs (c : Clock) : Prop := (c.now.add? c.tick).isSome

theorem eq_ok_of_isOk {ε : Type} {r : Except ε Unit} (h : r.isOk = true) : r = .ok () := by
  cases r with
  | error e => cases h
  | ok u => rfl

namespace Work

variable {α β σ : Type}

/-! ## One after another -/

theorem bind_apply (t : Work α) (next : α → Work β) (w : World) :
    (t >>= next) w =
      match t w with
      | (.ok a, w₁) => next a w₁
      | (.error f, w₁) => (.error f, w₁) := rfl

theorem bind_of_ok {t : Work α} {next : α → Work β} {w w₁ : World} {a : α}
    (h : t w = (.ok a, w₁)) : (t >>= next) w = next a w₁ := by
  rw [bind_apply, h]

theorem bind_of_error {t : Work α} {next : α → Work β} {w w₁ : World} {f : Failure}
    (h : t w = (.error f, w₁)) : (t >>= next) w = (.error f, w₁) := by
  rw [bind_apply, h]

theorem pure_apply (a : α) (w : World) : (pure a : Work α) w = (.ok a, w) := rfl

theorem ask_bind_apply (f : World → α) (next : α → Work β) (w : World) :
    (ask f >>= next) w = next (f w) w := rfl

instance : LawfulMonad Work := LawfulMonad.mk' Work
  (by
    intro α t
    funext w
    simp only [Functor.map]
    rcases h : t w with ⟨_ | a, w₁⟩ <;> simp only [andThen, h, Function.comp, done, id])
  (by intro α β a next; rfl)
  (by
    intro α β γ t next last
    funext w
    simp only [bind_apply]
    rcases t w with ⟨_ | a, w₁⟩ <;> rfl)

theorem bind_ok {t : Work α} {next : α → Work β} {w w' : World} {b : β} :
    (t >>= next) w = (.ok b, w') ↔
      ∃ a w₁, t w = (.ok a, w₁) ∧ next a w₁ = (.ok b, w') := by
  rw [bind_apply]
  constructor
  · intro h
    split at h
    · next a w₁ ht => exact ⟨a, w₁, ht, h⟩
    · next f w₁ ht => cases h
  · rintro ⟨a, w₁, ht, h⟩
    rw [ht]
    exact h

theorem bind_error {t : Work α} {next : α → Work β} {w w' : World} {f : Failure} :
    (t >>= next) w = (.error f, w') ↔
      t w = (.error f, w') ∨
        ∃ a w₁, t w = (.ok a, w₁) ∧ next a w₁ = (.error f, w') := by
  rw [bind_apply]
  constructor
  · intro h
    split at h
    · next a w₁ ht => exact Or.inr ⟨a, w₁, ht, h⟩
    · next g w₁ ht =>
        cases h
        exact Or.inl ht
  · rintro (ht | ⟨a, w₁, ht, h⟩)
    · rw [ht]
    · rw [ht]
      exact h

theorem pure_ok {a b : α} {w w' : World} :
    (pure a : Work α) w = (.ok b, w') ↔ a = b ∧ w = w' := by
  rw [pure_apply]
  simp only [Prod.mk.injEq, Except.ok.injEq]

theorem ofFault_ok {r : Except Fault α} {w w' : World} {a : α} :
    ofFault r w = (.ok a, w') ↔ r = .ok a ∧ w = w' := by
  cases r <;> simp [ofFault, Failure.ofFault, ofResult, done, fail]

theorem ofResult_ok {r : Except Failure α} {w w' : World} {a : α} :
    ofResult r w = (.ok a, w') ↔ r = .ok a ∧ w = w' := by
  cases r <;> simp [ofResult, done, fail]

theorem ofResult_error {r : Except Failure α} {w w' : World} {f : Failure} :
    ofResult r w = (.error f, w') ↔ r = .error f ∧ w = w' := by
  cases r <;> simp [ofResult, done, fail]

theorem ofRefusal_error {r : Except Refusal α} {w w' : World} {f : Failure} :
    ofResult (Failure.ofRefusal r) w = (.error f, w') ↔
      ∃ why, r = .error why ∧ f = .refused why ∧ w = w' := by
  cases r <;> simp [Failure.ofRefusal, ofResult, done, fail, eq_comm]

theorem ofRefusal_ok {r : Except Refusal α} {w w' : World} {a : α} :
    ofResult (Failure.ofRefusal r) w = (.ok a, w') ↔ r = .ok a ∧ w = w' := by
  cases r <;> simp [Failure.ofRefusal, ofResult, done, fail]

theorem ask_ok {f : World → α} {w w' : World} {a : α} :
    ask f w = (.ok a, w') ↔ f w = a ∧ w = w' := by
  simp only [ask, Prod.mk.injEq, Except.ok.injEq]

/-- An attempt never fails: what the operation came to is its result. -/
theorem attempt_apply (t : Work α) (w : World) : attempt t w = (.ok (t w).1, (t w).2) := rfl

theorem attempt_ok {t : Work α} {r : Except Failure α} {w w' : World} :
    attempt t w = (.ok r, w') ↔ t w = (r, w') := by
  rw [attempt_apply, Prod.mk.injEq, Except.ok.injEq, Prod.ext_iff]

/-- An operation that ends well has a result. -/
theorem exists_of_isOk {t : Work α} {w : World} (h : (t w).1.isOk = true) :
    ∃ a, t w = (.ok a, (t w).2) := by
  rcases hrun : t w with ⟨f | a, w'⟩
  · rw [hrun] at h
    cases h
  · exact ⟨a, rfl⟩

theorem refuse_ok {why : Refusal} {w w' : World} {a : α} :
    (refuse why : Work α) w ≠ (.ok a, w') := by
  intro h
  cases h

/-! ## What is kept -/

/-- An operation keeps an observation: it is the same afterwards, however the operation ends. -/
def Keeps (see : World → σ) (t : Work α) : Prop := ∀ w, see (t w).2 = see w

variable {see : World → σ}

theorem Keeps.after {t : Work α} (ht : Keeps see t) {w w' : World} {r : Except Failure α}
    (h : t w = (r, w')) : see w' = see w := by
  have hw := ht w
  rw [h] at hw
  exact hw

theorem Keeps.pure (a : α) : Keeps see (Pure.pure a : Work α) := fun _ => rfl

theorem Keeps.fail (f : Failure) : Keeps see (fail f : Work α) := fun _ => rfl

theorem Keeps.refuse (why : Refusal) : Keeps see (refuse why : Work α) := fun _ => rfl

theorem Keeps.ask (f : World → α) : Keeps see (ask f) := fun _ => rfl

theorem Keeps.ofResult (r : Except Failure α) : Keeps see (ofResult r) := by
  intro w
  cases r <;> rfl

theorem Keeps.ofFault (r : Except Fault α) : Keeps see (ofFault r) := Keeps.ofResult _

theorem Keeps.bind {t : Work α} {next : α → Work β} (ht : Keeps see t)
    (hnext : ∀ a, Keeps see (next a)) : Keeps see (t >>= next) := by
  intro w
  rw [bind_apply]
  split
  · next a w₁ hr => exact (hnext a w₁).trans (ht.after hr)
  · next f w₁ hr => exact ht.after hr

theorem Keeps.attempt {t : Work α} (ht : Keeps see t) : Keeps see (attempt t) := by
  intro w
  rw [attempt_apply]
  exact ht w

theorem Keeps.asMutation {change : Change} {t : Work α} (ht : Keeps see t) :
    Keeps see (asMutation change t) := by
  intro w
  unfold Work.asMutation
  split
  · next why after hr => exact ht.after hr
  · exact ht w

/-- What keeps tables and cache keeps the cache. -/
theorem Keeps.cache {t : Work α} (ht : Keeps World.state t) : Keeps World.cache t :=
  fun w => congrArg Prod.snd (ht w)

theorem Keeps.drawId : Keeps World.state drawId := fun _ => rfl

theorem Keeps.readClock : Keeps World.state readClock := by
  intro w
  unfold Work.readClock
  split <;> rfl

/-- A step of the database is counted, and that is all. -/
theorem Keeps.counted (hsteps : ∀ (w : World) n, see { w with steps := n } = see w) (s : DbStep) :
    Keeps see (step s) := by
  intro w
  unfold Work.step
  dsimp only
  split <;> exact hsteps w _

theorem Keeps.step (s : DbStep) : Keeps World.state (step s) := Keeps.counted (fun _ _ => rfl) s

theorem Keeps.queryBeside (hsteps : ∀ (w : World) n, see { w with steps := n } = see w) (s : DbStep)
    (read : Database → α) : Keeps see (query s read) :=
  Keeps.bind (Keeps.counted hsteps s) fun _ => Keeps.ask _

theorem Keeps.query (s : DbStep) (read : Database → α) : Keeps World.state (query s read) :=
  Keeps.queryBeside (fun _ _ => rfl) s read

/-- A write keeps what has nothing to do with tables and steps. -/
theorem Keeps.writeBeside (hsteps : ∀ (w : World) n, see { w with steps := n } = see w)
    (hdb : ∀ (w : World) db, see { w with db } = see w) (s : DbStep)
    (change : Database → Except Fault Database) : Keeps see (write s change) :=
  Keeps.bind (Keeps.counted hsteps s) fun _ => Keeps.bind (Keeps.ask _) fun _ =>
    Keeps.bind (Keeps.ofFault _) fun db w => hdb w db

theorem Keeps.write (s : DbStep) (change : Database → Except Fault Database) :
    Keeps World.cache (write s change) :=
  Keeps.writeBeside (fun _ _ => rfl) (fun _ _ => rfl) s change

/-! ## Steps of the database -/

theorem step_ok_iff {s : DbStep} {w w' : World} {u : Unit} :
    step s w = (.ok u, w') ↔
      w.faults w.steps s = false ∧ w' = { w with steps := w.steps + 1 } := by
  simp only [step]
  split
  · next hfails => simp only [hfails, Prod.mk.injEq, reduceCtorEq, false_and, Bool.true_eq_false]
  · next hgoes =>
      rw [Bool.not_eq_true] at hgoes
      simp only [hgoes, Prod.mk.injEq, true_and, eq_comm]

theorem step_ok {s : DbStep} {w w' : World} {u : Unit} (h : step s w = (.ok u, w')) :
    w' = { w with steps := w.steps + 1 } := (step_ok_iff.mp h).2

theorem drawId_ok {w w' : World} {id : Uuid} :
    drawId w = (.ok id, w') ↔
      id = freshId (w.issued + 1) ∧ w' = { w with issued := w.issued + 1 } := by
  simp only [drawId, Prod.mk.injEq, Except.ok.injEq, eq_comm]

theorem readClock_ok {w w' : World} {t : Instant} :
    readClock w = (.ok t, w') ↔ ∃ next, w.clock.now.add? w.clock.tick = some next ∧
      t = w.clock.now ∧ w' = { w with clock := { w.clock with now := next } } := by
  unfold readClock
  cases w.clock.now.add? w.clock.tick with
  | none => simp only [Prod.mk.injEq, reduceCtorEq, false_and, exists_false]
  | some next =>
      simp only [Prod.mk.injEq, Except.ok.injEq, Option.some.injEq, exists_eq_left', eq_comm]

theorem write_ok_iff {s : DbStep} {change : Database → Except Fault Database} {w w' : World}
    {u : Unit} :
    write s change w = (.ok u, w') ↔ w.faults w.steps s = false ∧
      ∃ db, change w.db = .ok db ∧ w' = { w with db, steps := w.steps + 1 } := by
  simp only [write, bind_ok, step_ok_iff, ask_ok, ofFault_ok, modify, Prod.mk.injEq, true_and]
  constructor
  · rintro ⟨_, _, ⟨hgoes, rfl⟩, _, _, ⟨rfl, rfl⟩, db, _, ⟨hdb, rfl⟩, rfl⟩
    exact ⟨hgoes, db, hdb, rfl⟩
  · rintro ⟨hgoes, db, hdb, rfl⟩
    exact ⟨(), _, ⟨hgoes, rfl⟩, _, _, ⟨rfl, rfl⟩, db, _, ⟨hdb, rfl⟩, rfl⟩

theorem query_ok {s : DbStep} {read : Database → α} {w w' : World} {a : α}
    (h : query s read w = (.ok a, w')) : a = read w.db ∧ w'.state = w.state := by
  have hkeep := (Keeps.query s read).after h
  obtain ⟨u, w₁, hs, hr⟩ := bind_ok.mp h
  obtain ⟨hread, rfl⟩ := ask_ok.mp hr
  rw [step_ok hs] at hread
  exact ⟨hread.symm, hkeep⟩

theorem write_ok {s : DbStep} {change : Database → Except Fault Database} {w w' : World}
    {u : Unit} (h : write s change w = (.ok u, w')) :
    change w.db = .ok w'.db ∧ w'.cache = w.cache := by
  obtain ⟨-, db, hdb, rfl⟩ := write_ok_iff.mp h
  exact ⟨hdb, rfl⟩

/-! ## Transactions -/

theorem transact_ok_iff {body : Work α} {w w' : World} {a : α} :
    transact body w = (.ok a, w') ↔ w.faults w.steps .connect = false ∧
      ∃ w₁, body { w with steps := w.steps + 1 } = (.ok a, w₁) ∧
        w₁.faults w₁.steps .commit = false ∧ w' = { w₁ with steps := w₁.steps + 1 } := by
  have hrun : transact body w = (.ok a, w') ↔
      (do step .connect; let a ← body; commit a : Work α) w = (.ok a, w') := by
    unfold transact
    split
    · next b after hr => rw [hr]
    · next f after hr =>
        rw [hr]
        constructor <;> intro h <;> cases h
  rw [hrun]
  simp only [bind_ok, commit, step_ok_iff]
  constructor
  · rintro ⟨_, _, ⟨hconnect, rfl⟩, b, w₁, hbody, _, _, ⟨hcommit, rfl⟩, hdone⟩
    cases hdone
    exact ⟨hconnect, w₁, hbody, hcommit, rfl⟩
  · rintro ⟨hconnect, w₁, hbody, hcommit, rfl⟩
    exact ⟨(), _, ⟨hconnect, rfl⟩, a, w₁, hbody, (), _, ⟨hcommit, rfl⟩, rfl⟩

/-- A transaction that succeeds did what its body did, and nothing else to tables and cache. -/
theorem transact_ok {body : Work α} {w w' : World} {a : α} (h : transact body w = (.ok a, w')) :
    ∃ w₁ w₂, w₁.state = w.state ∧ body w₁ = (.ok a, w₂) ∧ w'.state = w₂.state := by
  obtain ⟨-, w₂, hbody, -, rfl⟩ := transact_ok_iff.mp h
  exact ⟨{ w with steps := w.steps + 1 }, w₂, rfl, hbody, rfl⟩

/-- A transaction that fails has left the tables as they were. -/
theorem transact_error {body : Work α} {w w' : World} {f : Failure}
    (h : transact body w = (.error f, w')) : w'.db = w.db := by
  simp only [transact] at h
  split at h
  · cases h
  · cases h
    rfl

/-- A transaction keeps what has nothing to do with tables and steps, if its body does. -/
theorem Keeps.transactBeside (hsteps : ∀ (w : World) n, see { w with steps := n } = see w)
    (hdb : ∀ (w : World) db, see { w with db } = see w) {body : Work α} (hbody : Keeps see body) :
    Keeps see (transact body) := by
  intro w
  have hrun : Keeps see (do Work.step .connect; let a ← body; Work.commit a : Work α) :=
    Keeps.bind (Keeps.counted hsteps .connect) fun _ => Keeps.bind hbody fun a =>
      Keeps.bind (Keeps.counted hsteps .commit) fun _ => Keeps.pure a
  unfold Work.transact
  split
  · next a after hr => exact hrun.after hr
  · next f after hr => exact (hdb after w.db).trans (hrun.after hr)

theorem Keeps.transact {body : Work α} (hbody : Keeps World.cache body) :
    Keeps World.cache (transact body) :=
  Keeps.transactBeside (fun _ _ => rfl) (fun _ _ => rfl) hbody

/-- A transaction that only reads changes nothing at all. -/
theorem Keeps.transactReading {body : Work α} (hbody : Keeps World.state body) :
    Keeps World.state (Work.transact body) := by
  intro w
  rcases h : Work.transact body w with ⟨f | a, w'⟩
  · exact World.state_eq.mpr ⟨transact_error h, (Keeps.transact hbody.cache).after h⟩
  · obtain ⟨w₁, w₂, h₁, hrun, h₂⟩ := transact_ok h
    exact h₂.trans ((hbody.after hrun).trans h₁)

/-! ## When no step fails -/

section

variable {w : World} (hsound : w.faults = FaultPlan.none)

include hsound

theorem step_apply (s : DbStep) : step s w = (.ok (), { w with steps := w.steps + 1 }) := by
  unfold step
  rw [hsound]
  rfl

theorem query_apply (s : DbStep) (read : Database → α) :
    query s read w = (.ok (read w.db), { w with steps := w.steps + 1 }) := by
  unfold query
  rw [bind_of_ok (step_apply hsound s)]
  rfl

theorem write_apply (s : DbStep) {change : Database → Except Fault Database} {db : Database}
    (hchange : change w.db = .ok db) :
    write s change w = (.ok (), { w with db, steps := w.steps + 1 }) := by
  unfold write
  rw [bind_of_ok (step_apply hsound s), ask_bind_apply, hchange]
  rfl

theorem transact_apply {body : Work α} {a : α} {w₁ : World}
    (hbody : body { w with steps := w.steps + 1 } = (.ok a, w₁))
    (hsound₁ : w₁.faults = FaultPlan.none) :
    transact body w = (.ok a, { w₁ with steps := w₁.steps + 1 }) := by
  have hcommit : commit a w₁ = (.ok a, { w₁ with steps := w₁.steps + 1 }) := by
    unfold commit
    rw [bind_of_ok (step_apply hsound₁ .commit)]
    rfl
  unfold transact
  rw [bind_of_ok (step_apply hsound .connect), bind_of_ok hbody, hcommit]

/-- What fails within a transaction fails as a whole. -/
theorem transact_apply_error {body : Work α} {f : Failure} {w₁ : World}
    (hbody : body { w with steps := w.steps + 1 } = (.error f, w₁)) :
    transact body w = (.error f, { w₁ with db := w.db }) := by
  unfold transact
  rw [bind_of_ok (step_apply hsound .connect), bind_of_error hbody]

theorem transact_query_apply (s : DbStep) (read : Database → α) :
    transact (query s read) w = (.ok (read w.db), { w with steps := w.steps + 1 + 1 + 1 }) := by
  have hopen : ({ w with steps := w.steps + 1 } : World).faults = FaultPlan.none := hsound
  exact transact_apply hsound (query_apply hopen s read) hopen

end

theorem asMutation_ok {change : Change} {t : Work α} {w w' : World} {a : α} :
    asMutation change t w = (.ok a, w') ↔ t w = (.ok a, w') := by
  unfold asMutation
  split
  · next why after hr =>
      rw [hr]
      simp only [Prod.mk.injEq, reduceCtorEq, false_and]
  · exact Iff.rfl

/-- A refusal within a change is answered as it is. -/
theorem asMutation_refused {change : Change} {t : Work α} {w w' : World} {why : Refusal}
    (h : t w = (.error (.refused why), w')) :
    asMutation change t w = (.error (.refused why), w') := by
  unfold asMutation
  rw [h]

/-- A change that is answered as such is refused when it fails. -/
theorem asMutation_error {change : Change} {t : Work α} {w w' : World} {f : Failure}
    (h : asMutation change t w = (.error f, w')) :
    (∃ why, f = .refused why) ∧ ∃ g, t w = (.error g, w') := by
  unfold asMutation at h
  split at h
  · next why after hr =>
      cases h
      exact ⟨⟨_, rfl⟩, _, hr⟩
  · next hr =>
      cases f with
      | refused why => exact ⟨⟨why, rfl⟩, _, h⟩
      | broke why => exact absurd h (hr why w')

/-- An operation that changes the tables as a whole or not at all: if it succeeds, its result and
the tables after it are related to the tables before; if it fails, the caller is refused, and tables
and cache show nothing of the attempt. Either way the cache is left to others. -/
structure Atomic (t : Work α) (change : Database → α → Database → Prop) : Prop where
  cache : Keeps World.cache t
  ok : ∀ {w w' : World} {a : α}, t w = (.ok a, w') → change w.db a w'.db
  error : ∀ {w w' : World} {f : Failure}, t w = (.error f, w') →
    (∃ why, f = .refused why) ∧ w'.state = w.state

/-- A transaction behind a change is atomic, whatever its body does on the way to a failure. -/
theorem Atomic.transaction {what : Change} {body : Work α}
    {change : Database → α → Database → Prop} (hcache : Keeps World.cache body)
    (hbody : ∀ {w w' : World} {a : α}, body w = (.ok a, w') → change w.db a w'.db) :
    Atomic (asMutation what (transact body)) change := by
  refine ⟨(Keeps.transact hcache).asMutation, fun h => ?_, fun h => ?_⟩
  · obtain ⟨w₁, w₂, hstart, hrun, hend⟩ := transact_ok (asMutation_ok.mp h)
    have hchange := hbody hrun
    rw [(World.state_eq.mp hstart).1, ← (World.state_eq.mp hend).1] at hchange
    exact hchange
  · obtain ⟨hwhy, g, hg⟩ := asMutation_error h
    exact ⟨hwhy, World.state_eq.mpr ⟨transact_error hg, (Keeps.transact hcache).after hg⟩⟩

/-- A check beforehand can only refuse. -/
theorem Atomic.checked {r : Except Refusal β} {next : β → Work α}
    {change : Database → α → Database → Prop} (hnext : ∀ b, r = .ok b → Atomic (next b) change) :
    Atomic (ofResult (Failure.ofRefusal r) >>= next) change := by
  cases r with
  | error why =>
      refine ⟨fun _ => rfl, fun h => ?_, fun h => ?_⟩
      · cases h
      · cases h
        exact ⟨⟨why, rfl⟩, rfl⟩
  | ok b => exact ⟨(hnext b rfl).cache, (hnext b rfl).ok, (hnext b rfl).error⟩

end Work

end Warrant
