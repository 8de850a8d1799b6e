import Warrant.Proofs.Command

/-!
# Where the rules in the cache come from

The cache is loaded as a whole, loaded again for some roles, and emptied, in any
order, and each time the tables are what they are by then. So the rules that it
holds for a role are as old as the last load that was about the role and
succeeded, and this file says that they are nothing else: not a mixture of two
loads, not what a load had read that failed, and nothing from before the cache
was emptied.

A history is the list of the steps that were taken, newest first, each with the
world in which it was taken. What the cache holds is read off the history by
looking for one step in it, and the invariant of a run is that this is true. A
step that fails adds to the history and to nothing else, so it cannot be found
that way.
-/

namespace Warrant

/-! ## Steps and histories -/

/-- What is done to the cache: the roles in a scope are loaded, one role is loaded again, or the
cache is emptied. -/
inductive CacheStep where
  | load (scope : Option (List Uuid))
  | invalidate (id : Uuid)
  | clear
  deriving DecidableEq

namespace CacheStep

/-- Takes a step. -/
def take : CacheStep → Work Unit
  | load scope => Reload.load scope
  | invalidate id => Reload.invalidate id
  | clear => Reload.clear

/-- The scope that a step loads, if it loads anything. -/
def scope? : CacheStep → Option (Option (List Uuid))
  | load scope => some scope
  | invalidate id => some (some [id])
  | clear => none

/-- Whether a step is to load a role. -/
def covers (s : CacheStep) (id : Uuid) : Bool :=
  match s.scope? with
  | some none => true
  | some (some ids) => ids.contains id
  | none => false

end CacheStep

/-- A step that was taken, and the world in which it was. -/
structure CacheEvent where
  step : CacheStep
  world : World

namespace CacheEvent

/-- Whether the step succeeded. -/
def succeeded (e : CacheEvent) : Bool := (e.step.take e.world).1.isOk

/-- Whether the step emptied the cache. -/
def cleared (e : CacheEvent) : Bool := e.step = .clear

/-- Whether the step loaded a role. -/
def loaded (e : CacheEvent) (id : Uuid) : Bool := e.step.covers id && e.succeeded

/-- Whether the step loaded all roles. -/
def loadedAll (e : CacheEvent) : Bool := e.step = .load none && e.succeeded

end CacheEvent

/-- What has happened since the cache was emptied, or all if it never was. -/
def sinceCleared (history : List CacheEvent) : List CacheEvent :=
  history.takeWhile fun e => !e.cleared

/-- The course of a cache: it starts empty and goes from step to step, and nothing else changes it.
Between two steps the tables may become any other, and so may the fate of the steps to come. -/
inductive Course : List CacheEvent → World → Prop where
  | fresh {w : World} (unused : w.cache = RuleCache.empty) : Course [] w
  | meanwhile {history : List CacheEvent} {w w' : World} (before : Course history w)
      (same : w'.cache = w.cache) : Course history w'
  | step {history : List CacheEvent} {w : World} (before : Course history w) (s : CacheStep) :
      Course (⟨s, w⟩ :: history) (s.take w).2

theorem sinceCleared_cons (e : CacheEvent) (history : List CacheEvent) :
    sinceCleared (e :: history) = if e.cleared then [] else e :: sinceCleared history := by
  unfold sinceCleared
  rw [List.takeWhile_cons]
  cases e.cleared <;> rfl

/-! ## What one step does -/

namespace Reload

/-- Only a load of all roles makes the cache count as loaded. -/
theorem load_initialized {scope : Option (List Uuid)} {w w' : World} {u : Unit}
    (h : load scope w = (.ok u, w')) :
    w'.cache.initialized = (scope.isNone || w.cache.initialized) := by
  obtain ⟨r, w₁, hr, h⟩ := Work.bind_ok.mp h
  have hr := Work.attempt_ok.mp hr
  have hcache := (World.state_eq.mp ((fetch_keeps scope).after hr)).2
  cases r with
  | error f => exact absurd h Work.refuse_ok
  | ok reload =>
      cases h
      obtain ⟨hscope, -⟩ := fetch_ok hr
      show (RuleCache.install _ reload).initialized = _
      unfold RuleCache.install
      rw [hscope, hcache]
      cases scope <;> rfl

/-- Rows that all state rules are read, whatever else is in the tables. -/
theorem rulesOf_ok {db : Database} {rows : List RoleRow}
    (h : ∀ row ∈ rows, ∃ rules, Rule.ofPermissions (db.permissionsOf row.id) = .ok rules) :
    ∃ found, rulesOf (db.attach rows) = .ok found := by
  induction rows with
  | nil => exact ⟨[], rfl⟩
  | cons row rest ih =>
      obtain ⟨rules, hrules⟩ := h row List.mem_cons_self
      obtain ⟨more, hmore⟩ := ih fun other hother => h other (List.mem_cons_of_mem _ hother)
      refine ⟨(row.id, rules) :: more, Fault.bind_ok.mpr ⟨rules, hrules, ?_⟩⟩
      exact Fault.bind_ok.mpr ⟨more, hmore, rfl⟩

/-- If no step fails, a load fails only on a rule that cannot be read. -/
theorem load_apply {w : World} (hsound : w.faults = FaultPlan.none) {scope : Option (List Uuid)}
    (hread : ∀ id, Covers scope id → ∃ rules, w.db.rulesFor id = .ok rules) :
    ∃ w', load scope w = (.ok (), w') := by
  have hopen : ({ w with steps := w.steps + 1 } : World).faults = FaultPlan.none := hsound
  obtain ⟨w₁, hroles, hsound₁⟩ := Store.roles_apply hopen scope
  have htransact := Work.transact_apply hsound hroles hsound₁
  obtain ⟨found, hfound⟩ : ∃ found, rulesOf (w.db.attach (w.db.roleRows scope)) = .ok found := by
    refine rulesOf_ok fun row hrow => ?_
    obtain ⟨hmem, hids⟩ := Database.mem_roleRows.mp hrow
    obtain ⟨rules, hrules⟩ := hread row.id hids
    rw [Database.rulesFor, if_pos (Database.hasRole_iff.mpr ⟨row, hmem, rfl⟩)] at hrules
    cases hone : Rule.ofPermissions (w.db.permissionsOf row.id) with
    | ok rules => exact ⟨rules, rfl⟩
    | error e =>
        rw [hone] at hrules
        cases hrules
  have hfetch : ∃ reload w₂, fetch scope w = (.ok reload, w₂) := by
    unfold fetch
    rw [Work.bind_apply, htransact]
    dsimp only
    rw [hfound]
    exact ⟨_, _, rfl⟩
  obtain ⟨reload, w₂, hfetch⟩ := hfetch
  unfold load
  rw [Work.bind_apply, Work.attempt_apply, hfetch]
  exact ⟨_, rfl⟩

/-- If no step fails, a load succeeds exactly if the rules of every role in its scope can be
read. -/
theorem load_succeeds_iff {w : World} (hsound : w.faults = FaultPlan.none)
    {scope : Option (List Uuid)} :
    (load scope w).1 = .ok () ↔
      ∀ id, Covers scope id → ∃ rules, w.db.rulesFor id = .ok rules := by
  constructor
  · intro h id hid
    have hload : load scope w = (.ok (), (load scope w).2) := Prod.ext h rfl
    exact ⟨_, (load_ok hload).2.1 id hid⟩
  · intro hread
    obtain ⟨w', hload⟩ := load_apply hsound hread
    rw [hload]

end Reload

namespace CacheStep

variable {s : CacheStep} {scope : Option (List Uuid)} {w w' : World}

/-- A step with a scope is the load of that scope, by whatever name. -/
theorem take_of_scope (h : s.scope? = some scope) : s.take = Reload.load scope := by
  cases s with
  | load other =>
      cases h
      rfl
  | invalidate id =>
      cases h
      rfl
  | clear => cases h

theorem eq_clear_iff : s = clear ↔ s.scope? = none := by
  cases s <;> simp [scope?]

theorem kept_of_scope (h : s.scope? = some scope) : (⟨s, w⟩ : CacheEvent).cleared = false := by
  rw [CacheEvent.cleared, decide_eq_false_iff_not, eq_clear_iff, h]
  exact Option.some_ne_none scope

theorem eq_loadAll_iff (h : s.scope? = some scope) : s = load none ↔ scope = none := by
  cases s with
  | load other =>
      cases h
      rw [load.injEq]
  | invalidate id =>
      cases h
      simp
  | clear => cases h

theorem covers_iff (h : s.scope? = some scope) {id : Uuid} :
    s.covers id = true ↔ Reload.Covers scope id := by
  unfold covers
  rw [h]
  cases scope <;> simp [Reload.Covers]

/-- A step that fails is a load that is refused, and leaves no trace. -/
theorem take_error {f : Failure} (h : s.take w = (.error f, w')) :
    f = .refused .rulesUnavailable ∧ w'.state = w.state := by
  cases hscope : s.scope? with
  | none =>
      rw [eq_clear_iff.mpr hscope] at h
      cases h
  | some scope =>
      rw [take_of_scope hscope] at h
      exact Reload.load_error h

/-- If no step of the database fails, a step fails only on a role that it is to load. -/
theorem take_succeeds_iff (hsound : w.faults = FaultPlan.none) :
    (s.take w).1 = .ok () ↔
      ∀ id, s.covers id = true → ∃ rules, w.db.rulesFor id = .ok rules := by
  cases hscope : s.scope? with
  | none =>
      obtain rfl := eq_clear_iff.mpr hscope
      exact ⟨fun _ _ hid => (by cases hid), fun _ => rfl⟩
  | some scope =>
      simp only [take_of_scope hscope, covers_iff hscope]
      exact Reload.load_succeeds_iff hsound

end CacheStep

/-! ## What a history says of the cache -/

/-- A cache holds what a history says: for every role what the tables stated in the world of the
last load of the role, or nothing without such a load, and whether all roles were loaded. -/
structure RuleCache.Recalls (c : RuleCache) (history : List CacheEvent) : Prop where
  rules : ∀ id, match (sinceCleared history).find? (·.loaded id) with
    | some e => e.world.db.rulesFor id = .ok (c.get? id)
    | none => c.get? id = none
  initialized : c.initialized = (sinceCleared history).any CacheEvent.loadedAll

namespace RuleCache.Recalls

variable {c : RuleCache} {history : List CacheEvent} {w w' : World}

theorem empty : RuleCache.empty.Recalls [] := ⟨fun _ => rfl, rfl⟩

/-- A load that was not made changes nothing in what the history says. -/
theorem of_failed (h : c.Recalls history) {e : CacheEvent} (hkept : e.cleared = false)
    (hfailed : e.succeeded = false) : c.Recalls (e :: history) := by
  have hloaded : ∀ id, e.loaded id = false := fun id => by
    rw [CacheEvent.loaded, hfailed, Bool.and_false]
  have hall : e.loadedAll = false := by rw [CacheEvent.loadedAll, hfailed, Bool.and_false]
  have hsince : sinceCleared (e :: history) = e :: sinceCleared history := by
    rw [sinceCleared_cons, hkept, if_neg Bool.false_ne_true]
  refine ⟨fun id => ?_, ?_⟩
  · rw [hsince, List.find?_cons, hloaded id]
    exact h.rules id
  · rw [hsince, List.any_cons, hall, Bool.false_or]
    exact h.initialized

/-- A load that was made is the last of the roles that it covers, and of no others. -/
theorem of_load (h : w.cache.Recalls history) {s : CacheStep} {scope : Option (List Uuid)}
    (hscope : s.scope? = some scope) (hload : Reload.load scope w = (.ok (), w')) :
    w'.cache.Recalls (⟨s, w⟩ :: history) := by
  obtain ⟨-, hin, hout⟩ := Reload.load_ok hload
  have hdone : (⟨s, w⟩ : CacheEvent).succeeded = true := by
    unfold CacheEvent.succeeded
    rw [CacheStep.take_of_scope hscope, hload]
    rfl
  have hsince : sinceCleared (⟨s, w⟩ :: history) = ⟨s, w⟩ :: sinceCleared history := by
    rw [sinceCleared_cons, CacheStep.kept_of_scope hscope, if_neg Bool.false_ne_true]
  refine ⟨fun id => ?_, ?_⟩
  · rw [hsince, List.find?_cons, CacheEvent.loaded, hdone, Bool.and_true]
    cases hcovers : s.covers id with
    | true => exact hin id ((CacheStep.covers_iff hscope).mp hcovers)
    | false =>
        have hid : ¬ Reload.Covers scope id := fun hid => by
          rw [(CacheStep.covers_iff hscope).mpr hid] at hcovers
          cases hcovers
        rw [hout id hid]
        exact h.rules id
  · rw [hsince, List.any_cons, CacheEvent.loadedAll, hdone, Bool.and_true,
      Reload.load_initialized hload, h.initialized]
    simp only [CacheStep.eq_loadAll_iff hscope]
    cases scope <;> rfl

/-- An empty cache remembers nothing. -/
theorem of_clear (w : World) : (Reload.clear w).2.cache.Recalls (⟨.clear, w⟩ :: history) := by
  have hsince : sinceCleared (⟨.clear, w⟩ :: history) = [] := by
    rw [sinceCleared_cons]
    rfl
  refine ⟨fun id => ?_, ?_⟩
  · rw [hsince]
    exact empty.rules id
  · rw [hsince]
    exact empty.initialized

/-- A step leaves a cache that remembers it too. -/
theorem step (h : w.cache.Recalls history) (s : CacheStep) :
    (s.take w).2.cache.Recalls (⟨s, w⟩ :: history) := by
  cases hscope : s.scope? with
  | none =>
      obtain rfl := CacheStep.eq_clear_iff.mpr hscope
      exact of_clear w
  | some scope =>
      rcases hrun : s.take w with ⟨f | u, w'⟩
      · have hfailed : (⟨s, w⟩ : CacheEvent).succeeded = false := by
          unfold CacheEvent.succeeded
          rw [hrun]
          rfl
        rw [(World.state_eq.mp (CacheStep.take_error hrun).2).2]
        exact h.of_failed (CacheStep.kept_of_scope hscope) hfailed
      · rw [CacheStep.take_of_scope hscope] at hrun
        exact h.of_load hscope hrun

end RuleCache.Recalls

/-- At any point of its course a cache holds what its history says. -/
theorem Course.recalls {history : List CacheEvent} {w : World} (h : Course history w) :
    w.cache.Recalls history := by
  induction h with
  | fresh unused =>
      rw [unused]
      exact RuleCache.Recalls.empty
  | meanwhile _ same ih =>
      rw [same]
      exact ih
  | step _ s ih => exact ih.step s

/-- After any steps in any order: the rules that the cache holds for a role are those that the
tables stated at the last load of the role that succeeded since the cache was emptied; it holds
nothing for a role without such a load, or that was not there then; and it counts as loaded exactly
if all roles were loaded since. The next step, if it fails, is refused and changes nothing, and
fails on its own account only if there is a rule in its scope that cannot be read. -/
theorem Course.last_load {history : List CacheEvent} {w : World} (h : Course history w) :
    w.cache.Recalls history ∧ ∀ s : CacheStep,
      (∀ f w', s.take w = (.error f, w') →
        f = .refused .rulesUnavailable ∧ w'.cache = w.cache ∧ w'.db = w.db) ∧
      (w.faults = FaultPlan.none → ((s.take w).1 = .ok () ↔
        ∀ id, s.covers id = true → ∃ rules, w.db.rulesFor id = .ok rules)) := by
  refine ⟨h.recalls, fun s => ⟨fun f w' hrun => ?_, CacheStep.take_succeeds_iff⟩⟩
  obtain ⟨hwhy, hstate⟩ := CacheStep.take_error hrun
  obtain ⟨hdb, hcache⟩ := World.state_eq.mp hstate
  exact ⟨hwhy, hcache, hdb⟩

/-- The sample after it was loaded, when its tables are gone and the database does not respond. -/
def World.sampleCutOff : World :=
  { (Reload.load none (World.sample FaultPlan.none)).2 with
    db := Database.empty
    faults := FaultPlan.on [.connect] }

/-- The clerks keep the rules that they had at the only load that succeeded. -/
theorem Course.last_load_cut_off :
    Course [⟨.invalidate World.clerks, World.sampleCutOff⟩,
        ⟨.load none, World.sample FaultPlan.none⟩]
      (Reload.invalidate World.clerks World.sampleCutOff).2 ∧
    (World.sample FaultPlan.none).db.rulesFor World.clerks =
      .ok ((Reload.invalidate World.clerks World.sampleCutOff).2.cache.get? World.clerks) := by
  have hfirst : Course [⟨.load none, World.sample FaultPlan.none⟩]
      (Reload.load none (World.sample FaultPlan.none)).2 :=
    Course.step (Course.fresh rfl) (.load none)
  have hcut : Course [⟨.load none, World.sample FaultPlan.none⟩] World.sampleCutOff :=
    hfirst.meanwhile rfl
  have hcourse : Course [⟨.invalidate World.clerks, World.sampleCutOff⟩,
      ⟨.load none, World.sample FaultPlan.none⟩]
      (Reload.invalidate World.clerks World.sampleCutOff).2 :=
    hcut.step (.invalidate World.clerks)
  have hlater : (⟨.invalidate World.clerks, World.sampleCutOff⟩ : CacheEvent).loaded
      World.clerks = false := by decide +kernel
  have hloaded : (⟨.load none, World.sample FaultPlan.none⟩ : CacheEvent).loaded
      World.clerks = true := by decide +kernel
  have hrules := hcourse.last_load.1.rules World.clerks
  rw [sinceCleared_cons, CacheStep.kept_of_scope rfl, if_neg Bool.false_ne_true, List.find?_cons,
    hlater, sinceCleared_cons, CacheStep.kept_of_scope rfl, if_neg Bool.false_ne_true,
    List.find?_cons, hloaded] at hrules
  exact ⟨hcourse, hrules⟩

end Warrant
