import Warrant.Proofs.Coherence

/-!
# Reloads that overlap

A reload waits between reading and installing, and while it waits other requests
go on. One may change a permission, have the rules of its role read again and
install them, all before the first reload comes to install what it had read. Then
it puts the old rules back, and nothing is left to correct that.

Traffic is the state of such a service between two steps: the world, the roles
that were changed and wait to be read again, the reloads that were read and wait
to be installed, and two histories, of what was read and of what was installed.
Its invariant says where both sides stand. The tables state for a role what the
reload of it that was read last has read, once no change waits; the cache holds
what the reload of it that was installed last has read. So when all is done the
two agree exactly if the last to be read and the last to be installed have read
the same.
-/

namespace Warrant

/-! ## Traffic -/

/-- A reload that has been read, and the world in which it was. -/
structure Fetched where
  reload : Reload
  world : World

namespace Fetched

/-- Whether a reload is about a role. -/
def covers (id : Uuid) (f : Fetched) : Bool := decide (Reload.Covers f.reload.scope id)

/-- What was read of the roles is what their rows said. -/
def Faithful (f : Fetched) : Prop :=
  ∀ id, Reload.Covers f.reload.scope id →
    f.world.db.rulesFor id = .ok (RuleCache.lookup id f.reload.found)

/-- What the rows said of a role when the first of some reloads that are about it was read, or at
the start, if there is none. -/
def rulesBy (start : World) (reloads : List Fetched) (id : Uuid) :
    Except Fault (Option (List Rule)) :=
  match reloads.find? (covers id) with
  | some f => f.world.db.rulesFor id
  | none => start.db.rulesFor id

theorem rulesBy_cons (start : World) (f : Fetched) (rest : List Fetched) (id : Uuid) :
    rulesBy start (f :: rest) id =
      if Reload.Covers f.reload.scope id then f.world.db.rulesFor id
      else rulesBy start rest id := by
  unfold rulesBy
  rw [List.find?_cons, covers]
  by_cases hcovers : Reload.Covers f.reload.scope id
  · rw [decide_eq_true hcovers, if_pos hcovers]
  · rw [decide_eq_false hcovers, if_neg hcovers]

end Fetched

/-- A service between two steps. Both histories have the newest first. -/
structure Traffic where
  world : World
  /-- The roles that were changed, once for each change that was not followed up yet. -/
  due : List Uuid
  /-- What was read and not installed yet. -/
  held : List Fetched
  fetched : List Fetched
  installed : List Fetched

namespace Traffic

def atRest (w : World) : Traffic := ⟨w, [], [], [], []⟩

def changed (t : Traffic) (touched : Option Uuid) (w : World) : Traffic :=
  { t with world := w, due := touched.toList ++ t.due }

/-- After a reload was read that follows up as much as `due` leaves out. -/
def read (t : Traffic) (due : List Uuid) (reload : Reload) (w : World) : Traffic :=
  { t with
    world := w, due, held := ⟨reload, t.world⟩ :: t.held
    fetched := ⟨reload, t.world⟩ :: t.fetched }

/-- After a reload was installed that leaves others waiting. -/
def install (t : Traffic) (f : Fetched) (others : List Fetched) : Traffic :=
  { t with
    world := (Reload.install f.reload t.world).2, held := others, installed := f :: t.installed }

/-- The traffic that can come about from a world. Changes are committed, reloads are read and what
was read is installed, in any order, except that each change is followed up by a reload of its role
and nothing is installed before it was read. In between time may pass and something may be
recorded. -/
inductive From (start : World) : Traffic → Prop where
  | atRest : From start (atRest start)
  | meanwhile {t : Traffic} {w : World} (before : From start t) (same : w.cache = t.world.cache)
      (logged : t.world.db.Logged w.db) : From start { t with world := w }
  | change {t : Traffic} (before : From start t) (c : Mutation.Command) (caller : Caller)
      {done : (c.stages caller).Changed} {w : World}
      (made : (c.stages caller).change t.world = (.ok done, w)) :
      From start (t.changed ((c.stages caller).touched done) w)
  | read {t : Traffic} (before : From start t) {scope : Option (List Uuid)} {reload : Reload}
      {w : World} (made : Reload.fetch scope t.world = (.ok reload, w)) :
      From start (t.read t.due reload w)
  | followUp {t : Traffic} (before : From start t) {id : Uuid} (due : id ∈ t.due)
      {reload : Reload} {w : World} (made : Reload.fetch (some [id]) t.world = (.ok reload, w)) :
      From start (t.read (t.due.erase id) reload w)
  | install {t : Traffic} (before : From start t) (earlier : List Fetched) (f : Fetched)
      (later : List Fetched) (held : t.held = earlier ++ f :: later) :
      From start (t.install f (earlier ++ later))

/-! ## What the histories say -/

/-- Where tables and cache stand. -/
structure Sound (start : World) (t : Traffic) : Prop where
  shaped : t.world.db.Shaped
  faithful : ∀ f ∈ t.held, f.Faithful
  all : t.fetched.Perm (t.held ++ t.installed)
  tables : ∀ id, id ∉ t.due → t.world.db.rulesFor id = Fetched.rulesBy start t.fetched id
  cache : ∀ id, Fetched.rulesBy start t.installed id = .ok (t.world.cache.get? id)

namespace Sound

variable {start : World} {t : Traffic}

theorem atRest (hstart : start.Coherent) : Sound start (atRest start) where
  shaped := hstart.shaped
  faithful := nofun
  all := .refl _
  tables _ _ := rfl
  cache := hstart.mirrors

theorem meanwhile (h : Sound start t) {w : World} (hcache : w.cache = t.world.cache)
    (hlogged : t.world.db.Logged w.db) : Sound start { t with world := w } := by
  have hlog := hlogged.changesOnly h.shaped
  refine ⟨hlog.shaped, h.faithful, h.all, fun id hid => ?_, fun id => ?_⟩
  · exact (hlog.rules id nofun).trans (h.tables id hid)
  · show _ = Except.ok (w.cache.get? id)
    rw [hcache]
    exact h.cache id

/-- A change leaves the rules of every role that does not come to wait because of it. -/
theorem change (h : Sound start t) {c : Mutation.Command} {caller : Caller}
    {done : (c.stages caller).Changed} {w : World}
    (hmade : (c.stages caller).change t.world = (.ok done, w)) :
    Sound start (t.changed ((c.stages caller).touched done) w) := by
  obtain ⟨hcache, honly⟩ := (c.stages_tracked caller).ok h.shaped hmade
  refine ⟨honly.shaped, h.faithful, h.all, fun id hid => ?_, fun id => ?_⟩
  · have hwaits : id ∉ ((c.stages caller).touched done).toList ∧ id ∉ t.due := by
      rw [← not_or, ← List.mem_append]
      exact hid
    have htouched : (c.stages caller).touched done ≠ some id := fun heq =>
      hwaits.1 (Option.mem_toList.mpr heq)
    exact (honly.rules id htouched).trans (h.tables id hwaits.2)
  · show _ = Except.ok (w.cache.get? id)
    rw [hcache]
    exact h.cache id

/-- What is read last of a role is what the tables state of it, whether or not a change to it was
waiting for that. -/
theorem read (h : Sound start t) {scope : Option (List Uuid)} {reload : Reload} {w : World}
    (hmade : Reload.fetch scope t.world = (.ok reload, w)) {due : List Uuid}
    (hdue : ∀ id, id ∉ due → id ∉ t.due ∨ Reload.Covers scope id) :
    Sound start (t.read due reload w) := by
  obtain ⟨hdb, hcache⟩ := World.state_eq.mp ((Reload.fetch_keeps scope).after hmade)
  obtain ⟨hscope, hfound⟩ := Reload.fetch_ok hmade
  refine ⟨?_, ?_, h.all.cons _, fun id hid => ?_, fun id => ?_⟩
  · show w.db.Shaped
    rw [hdb]
    exact h.shaped
  · refine List.forall_mem_cons.mpr ⟨fun id hid => hfound id ?_, h.faithful⟩
    rw [← hscope]
    exact hid
  · show w.db.rulesFor id = Fetched.rulesBy start (⟨reload, t.world⟩ :: t.fetched) id
    rw [hdb, Fetched.rulesBy_cons]
    split
    · rfl
    · next hother =>
        rw [hscope] at hother
        exact h.tables id ((hdue id hid).resolve_right hother)
  · show _ = Except.ok (w.cache.get? id)
    rw [hcache]
    exact h.cache id

/-- What is installed last of a role is what the cache holds of it. -/
theorem install (h : Sound start t) {earlier later : List Fetched} {f : Fetched}
    (hheld : t.held = earlier ++ f :: later) : Sound start (t.install f (earlier ++ later)) := by
  have hfaithful := h.faithful
  have hall := h.all
  rw [hheld] at hfaithful hall
  have hothers : earlier ++ later ⊆ earlier ++ f :: later :=
    ((List.sublist_cons_self f later).append_left earlier).subset
  refine ⟨h.shaped, fun g hg => hfaithful g (hothers hg), ?_, h.tables, fun id => ?_⟩
  · show t.fetched.Perm (earlier ++ later ++ f :: t.installed)
    rw [List.append_assoc] at hall ⊢
    refine hall.trans ((List.perm_append_left_iff earlier).mpr ?_)
    exact List.perm_middle.symm
  · show Fetched.rulesBy start (f :: t.installed) id =
      .ok ((t.world.cache.install f.reload).get? id)
    rw [Fetched.rulesBy_cons, Reload.get?_install]
    split
    · next hcovers => exact hfaithful f (List.mem_append_right _ List.mem_cons_self) id hcovers
    · exact h.cache id

end Sound

/-- Whatever the order of the steps, tables and cache stand where the histories say. -/
theorem From.sound {start : World} {t : Traffic} (hstart : start.Coherent) (h : From start t) :
    Sound start t := by
  induction h with
  | atRest => exact Sound.atRest hstart
  | meanwhile _ same logged ih => exact ih.meanwhile same logged
  | change _ c caller made ih => exact ih.change made
  | read _ made ih => exact ih.read made fun id hid => .inl hid
  | followUp _ due made ih =>
      -- Of the changes that wait, one was to the role that is read, and others may be as well.
      refine ih.read made fun id hid => ?_
      rw [Reload.covers_one]
      by_contra hother
      rw [not_or, not_not] at hother
      exact hid ((List.mem_erase_of_ne hother.2).mpr hother.1)
  | install _ earlier f later held ih => exact ih.install held

/-- When every change was followed up and everything that was read is installed, the cache holds of
a role what its rows state exactly if the reloads of it that were read last and installed last have
read the same; so it mirrors the tables if these two are always one. -/
theorem From.converges_iff {start : World} {t : Traffic} (hstart : start.Coherent)
    (h : From start t) (hdue : t.due = []) (hheld : t.held = []) :
    t.fetched.Perm t.installed ∧
      (∀ id, t.world.db.rulesFor id = .ok (t.world.cache.get? id) ↔
        Fetched.rulesBy start t.fetched id = Fetched.rulesBy start t.installed id) ∧
      ((∀ id, t.installed.find? (Fetched.covers id) = t.fetched.find? (Fetched.covers id)) →
        t.world.cache.Mirrors t.world.db) := by
  have hsound := h.sound hstart
  have htables : ∀ id, t.world.db.rulesFor id = Fetched.rulesBy start t.fetched id := fun id =>
    hsound.tables id (by rw [hdue]; exact List.not_mem_nil)
  have hall := hsound.all
  rw [hheld] at hall
  refine ⟨hall, fun id => ?_, fun hlast id => ?_⟩
  · rw [htables, hsound.cache]
  · rw [htables, ← hsound.cache]
    unfold Fetched.rulesBy
    rw [hlast id]

end Traffic

/-! ## A permission that comes back

The sample has been loaded. All roles are read, then the one permission of the clerks is removed and
the removal is followed up; both reloads are still to be installed. -/

/-- Takes the right to read accounts away from the clerks. -/
def Mutation.Command.revocation : Mutation.Command :=
  .removePermission World.clerks (Uuid.ofNat 2)

namespace World

def sampleRead : World := (Reload.fetch none sampleLoaded).2

def sampleRevoked : World := ((Mutation.Command.revocation.stages {}).change sampleRead).2

def sampleFollowed : World := (Reload.fetch (some [clerks]) sampleRevoked).2

theorem sampleLoaded_coherent : sampleLoaded.Coherent :=
  coherent_of_load (sample_shaped _) sample_loads

end World

def countRules : Except Fault (Option (List Rule)) → Option Nat
  | .ok (some rules) => some rules.length
  | _ => none

namespace Traffic

/-- Both reloads wait: the one of all roles, which found one rule for the clerks, and the one that
followed up the removal, after which there is none. -/
structure Revoking (t : Traffic) (first second : Fetched) : Prop where
  comes : From World.sampleLoaded t
  due : t.due = []
  held : t.held = [second, first]
  fetched : t.fetched = [second, first]
  installed : t.installed = []
  full : first.reload.scope = none
  own : second.reload.scope = some [World.clerks]
  granted : countRules (first.world.db.rulesFor World.clerks) = some 1
  revoked : countRules (t.world.db.rulesFor World.clerks) = some 0

theorem exists_revoking : ∃ t first second, Revoking t first second := by
  obtain ⟨all, hall⟩ : ∃ all, Reload.fetch none World.sampleLoaded = (.ok all, World.sampleRead) :=
    Work.exists_of_isOk (by decide +kernel)
  obtain ⟨done, hdone⟩ : ∃ done, (Mutation.Command.revocation.stages {}).change World.sampleRead =
      (.ok done, World.sampleRevoked) := Work.exists_of_isOk (by decide +kernel)
  obtain ⟨own, hown⟩ : ∃ own, Reload.fetch (some [World.clerks]) World.sampleRevoked =
      (.ok own, World.sampleFollowed) := Work.exists_of_isOk (by decide +kernel)
  have hgranted : countRules (World.sampleLoaded.db.rulesFor World.clerks) = some 1 := by
    decide +kernel
  have hrevoked : countRules (World.sampleFollowed.db.rulesFor World.clerks) = some 0 := by
    decide +kernel
  have hfollowed := ((From.atRest.read hall).change .revocation {} hdone).followUp
    List.mem_cons_self hown
  exact ⟨_, ⟨all, World.sampleLoaded⟩, ⟨own, World.sampleRevoked⟩,
    { comes := hfollowed
      due := rfl
      held := rfl
      fetched := rfl
      installed := rfl
      full := (Reload.fetch_ok hall).1
      own := (Reload.fetch_ok hown).1
      granted := hgranted
      revoked := hrevoked }⟩

/-- If what was read first is installed first, the removal stays. -/
theorem converges_iff_in_order :
    ∃ t, From World.sampleLoaded t ∧ t.due = [] ∧ t.held = [] ∧
      countRules (t.world.db.rulesFor World.clerks) = some 0 ∧
      t.world.cache.Mirrors t.world.db := by
  obtain ⟨t, first, second, h⟩ := exists_revoking
  have hboth : From World.sampleLoaded ((t.install first [second]).install second []) :=
    (h.comes.install [second] first [] h.held).install [] second [] rfl
  have hinstalled : ((t.install first [second]).install second []).installed = t.fetched := by
    rw [h.fetched]
    exact congrArg (second :: first :: ·) h.installed
  obtain ⟨-, -, hconverges⟩ := hboth.converges_iff World.sampleLoaded_coherent h.due rfl
  refine ⟨_, hboth, h.due, rfl, h.revoked, hconverges fun id => ?_⟩
  rw [hinstalled]
  rfl

/-- If it is installed last, the removed permission comes back: not every traffic of full reloads,
changes and the reloads that follow them up ends with a cache that mirrors the tables. -/
theorem revoked_comes_back :
    ¬ ∀ (start : World) (t : Traffic), start.Coherent → From start t → t.due = [] → t.held = [] →
      (∀ f ∈ t.fetched, f.reload.scope = none ∨ ∃ id, f.reload.scope = some [id]) →
      t.world.cache.Mirrors t.world.db := by
  intro hclaim
  obtain ⟨t, first, second, h⟩ := exists_revoking
  have hboth : From World.sampleLoaded ((t.install second [first]).install first []) :=
    (h.comes.install [] second [first] h.held).install [] first [] rfl
  have hscopes : ∀ f ∈ t.fetched, f.reload.scope = none ∨ ∃ id, f.reload.scope = some [id] := by
    rw [h.fetched, List.forall_mem_cons, List.forall_mem_singleton]
    exact ⟨.inr ⟨_, h.own⟩, .inl h.full⟩
  have hmirrors := hclaim _ _ World.sampleLoaded_coherent hboth h.due rfl hscopes World.clerks
  have hcache := (hboth.sound World.sampleLoaded_coherent).cache World.clerks
  have hlast : Fetched.rulesBy World.sampleLoaded (first :: second :: t.installed) World.clerks =
      first.world.db.rulesFor World.clerks := by
    rw [Fetched.rulesBy_cons, h.full, if_pos (Reload.covers_none _)]
  have hsame : first.world.db.rulesFor World.clerks = t.world.db.rulesFor World.clerks :=
    hlast.symm.trans (hcache.trans hmirrors.symm)
  have hcount := congrArg countRules hsame
  rw [h.granted, h.revoked] at hcount
  cases hcount

end Traffic

end Warrant
