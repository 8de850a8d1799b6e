import Warrant.Proofs.Reading
import Warrant.Reload

/-!
# What a reload leaves in the cache

A reload reads the rules of the roles in a scope and then installs them. What it
read is, for every role in the scope, what the rows say of that role: its rules,
or that it is not there. Installing puts exactly that in the place of what the
cache had for the scope, and leaves the other roles alone. A reload that fails
leaves both tables and cache as they were, at whichever step it failed.

So a cache that mirrors the tables except at some roles mirrors them at one more
after this one has been loaded again, and everywhere if it was the last.
-/

namespace Warrant

namespace RuleCache

/-- A cache mirrors a database: it holds for every role exactly the rules that its rows state, and
nothing for a role that is not there. -/
def Mirrors (c : RuleCache) (db : Database) : Prop := ∀ id, db.rulesFor id = .ok (c.get? id)

/-- A cache mirrors a database except, perhaps, at some roles. -/
def MirrorsBut (c : RuleCache) (db : Database) (ids : List Uuid) : Prop :=
  ∀ id, id ∉ ids → db.rulesFor id = .ok (c.get? id)

theorem mirrorsBut_nil {c : RuleCache} {db : Database} : c.MirrorsBut db [] ↔ c.Mirrors db := by
  simp [MirrorsBut, Mirrors]

/-- One role after a refresh is as it was found, and the others are as they were. -/
theorem lookup_refresh (found entries : List (Uuid × List Rule)) (id other : Uuid) :
    lookup other (refresh found entries id) =
      if other = id then lookup id found else lookup other entries := by
  unfold refresh
  split
  · next rules hfound =>
      split
      · next heq => rw [lookup, if_pos heq.symm, hfound]
      · next hne => rw [lookup, if_neg (Ne.symm hne), lookup_without_of_ne hne]
  · next hfound =>
      split
      · next heq => rw [heq, lookup_without_self, hfound]
      · next hne => rw [lookup_without_of_ne hne]

theorem lookup_foldl_refresh (found : List (Uuid × List Rule)) (ids : List Uuid) (id : Uuid) :
    ∀ entries : List (Uuid × List Rule), lookup id (ids.foldl (refresh found) entries) =
      if id ∈ ids then lookup id found else lookup id entries := by
  induction ids with
  | nil =>
      intro entries
      rw [List.foldl_nil, if_neg List.not_mem_nil]
  | cons first rest ih =>
      intro entries
      rw [List.foldl_cons, ih, lookup_refresh]
      by_cases hrest : id ∈ rest
      · rw [if_pos hrest, if_pos (List.mem_cons_of_mem _ hrest)]
      · rw [if_neg hrest]
        by_cases hfirst : id = first
        · rw [if_pos hfirst, if_pos (by rw [hfirst]; exact List.mem_cons_self), hfirst]
        · rw [if_neg hfirst, if_neg (by rw [List.mem_cons, not_or]; exact ⟨hfirst, hrest⟩)]

end RuleCache

namespace Reload

/-- Whether a reload of a scope is about a role. -/
def Covers (scope : Option (List Uuid)) (id : Uuid) : Prop := ∀ ids, scope = some ids → id ∈ ids

instance (scope : Option (List Uuid)) (id : Uuid) : Decidable (Covers scope id) :=
  match scope with
  | none => isTrue nofun
  | some ids =>
      decidable_of_iff (id ∈ ids)
        ⟨fun h _ hids => Option.some.inj hids ▸ h, fun h => h ids rfl⟩

theorem covers_none (id : Uuid) : Covers none id := nofun

theorem covers_some {ids : List Uuid} {id : Uuid} : Covers (some ids) id ↔ id ∈ ids := by
  simp only [Covers, Option.some.injEq, forall_eq']

theorem covers_one {id other : Uuid} : Covers (some [id]) other ↔ other = id := by
  rw [covers_some, List.mem_singleton]

/-- Installing puts what was found in the place of what the cache had for the roles in the scope,
and leaves the others alone. -/
theorem get?_install (c : RuleCache) (reload : Reload) (id : Uuid) :
    (c.install reload).get? id =
      if Covers reload.scope id then RuleCache.lookup id reload.found else c.get? id := by
  obtain ⟨scope, found⟩ := reload
  cases scope with
  | none => exact (if_pos (covers_none id)).symm
  | some ids =>
      show RuleCache.lookup id (ids.foldl (RuleCache.refresh found) c.entries) = _
      rw [RuleCache.lookup_foldl_refresh]
      simp only [covers_some]
      rfl

theorem rulesOf_cons {r : Role} {rest : List Role} {found : List (Uuid × List Rule)}
    (h : rulesOf (r :: rest) = .ok found) :
    ∃ rules more, Rule.ofPermissions r.permissions = .ok rules ∧ rulesOf rest = .ok more ∧
      found = (r.id, rules) :: more := by
  obtain ⟨rules, hrules, h⟩ := Fault.bind_ok.mp h
  obtain ⟨more, hmore, h⟩ := Fault.bind_ok.mp h
  cases h
  exact ⟨rules, more, hrules, hmore, rfl⟩

/-- Reading roles one by one finds for each id what its rows say. Rows with one id would all say
the same, so it does not matter which of them is found. -/
theorem lookup_rulesOf {db : Database} {rows : List RoleRow} {found : List (Uuid × List Rule)}
    (h : rulesOf (db.attach rows) = .ok found) (id : Uuid) :
    (if rows.any fun row => row.id = id then (Rule.ofPermissions (db.permissionsOf id)).map some
      else .ok none) = .ok (RuleCache.lookup id found) := by
  induction rows generalizing found with
  | nil =>
      cases h
      rfl
  | cons row rest ih =>
      obtain ⟨rules, more, hrules, hmore, rfl⟩ := rulesOf_cons h
      by_cases heq : row.id = id
      · have hrules : Rule.ofPermissions (db.permissionsOf id) = .ok rules := by
          rw [← heq]
          exact hrules
        rw [List.any_cons, decide_eq_true heq, Bool.true_or, if_pos rfl, hrules]
        exact congrArg Except.ok (if_pos heq).symm
      · rw [List.any_cons, decide_eq_false heq, Bool.false_or, ih hmore]
        exact congrArg Except.ok (if_neg heq).symm

theorem fetch_keeps (scope : Option (List Uuid)) : Work.Keeps World.state (fetch scope) :=
  Work.Keeps.bind (Store.roles_answers scope).transact.keeps fun _ =>
    Work.Keeps.bind (Work.Keeps.ofFault _) fun _ => Work.Keeps.pure _

/-- What has been read of a role in the scope is what its rows say. -/
theorem fetch_ok {scope : Option (List Uuid)} {w w' : World} {reload : Reload}
    (h : fetch scope w = (.ok reload, w')) :
    reload.scope = scope ∧
      ∀ id, Covers scope id → w.db.rulesFor id = .ok (RuleCache.lookup id reload.found) := by
  obtain ⟨roles, w₁, hroles, h⟩ := Work.bind_ok.mp h
  obtain ⟨found, w₂, hfound, h⟩ := Work.bind_ok.mp h
  obtain ⟨hfound, -⟩ := Work.ofFault_ok.mp hfound
  obtain ⟨rfl, -⟩ := Work.pure_ok.mp h
  rw [(Store.roles_answers scope).transact.result hroles] at hfound
  refine ⟨rfl, fun id hid => ?_⟩
  rw [← lookup_rulesOf hfound id]
  have hany : ((w.db.roleRows scope).any fun row => row.id = id) = w.db.hasRole id := by
    rw [Bool.eq_iff_iff, Database.hasRole_iff, List.any_eq_true]
    simp only [decide_eq_true_eq, Database.mem_roleRows]
    constructor
    · rintro ⟨row, ⟨hrow, -⟩, heq⟩
      exact ⟨row, hrow, heq⟩
    · rintro ⟨row, hrow, rfl⟩
      exact ⟨row, ⟨hrow, hid⟩, rfl⟩
  rw [hany]
  rfl

/-- A reload that succeeds: the roles in its scope are as the rows say, the others as before. -/
theorem load_ok {scope : Option (List Uuid)} {w w' : World} {u : Unit}
    (h : load scope w = (.ok u, w')) :
    w'.db = w.db ∧
      (∀ id, Covers scope id → w.db.rulesFor id = .ok (w'.cache.get? id)) ∧
      ∀ id, ¬ Covers scope id → w'.cache.get? id = w.cache.get? id := by
  obtain ⟨r, w₁, hr, h⟩ := Work.bind_ok.mp h
  have hr := Work.attempt_ok.mp hr
  obtain ⟨hdb, hcache⟩ := World.state_eq.mp ((fetch_keeps scope).after hr)
  cases r with
  | error f => exact absurd h Work.refuse_ok
  | ok reload =>
      cases h
      obtain ⟨hscope, hfound⟩ := fetch_ok hr
      refine ⟨hdb, fun id hid => ?_, fun id hid => ?_⟩
      · rw [hfound id hid]
        show _ = Except.ok (RuleCache.get? (RuleCache.install _ reload) id)
        rw [get?_install, hscope, if_pos hid]
      · show RuleCache.get? (RuleCache.install _ reload) id = _
        rw [get?_install, hscope, if_neg hid, hcache]

/-- A reload that fails refuses and changes nothing. -/
theorem load_error {scope : Option (List Uuid)} {w w' : World} {f : Failure}
    (h : load scope w = (.error f, w')) :
    f = .refused .rulesUnavailable ∧ w'.state = w.state := by
  rcases Work.bind_error.mp h with h | ⟨r, w₁, hr, h⟩
  · cases h
  · have hkeep := (fetch_keeps scope).after (Work.attempt_ok.mp hr)
    cases r with
    | error g =>
        cases h
        exact ⟨rfl, hkeep⟩
    | ok reload => cases h

theorem load_db (scope : Option (List Uuid)) : Work.Keeps World.db (load scope) := by
  intro w
  rcases h : load scope w with ⟨f | u, w'⟩
  · exact (World.state_eq.mp (load_error h).2).1
  · exact (load_ok h).1

/-- Loading one role again leaves the others alone, whether it succeeds or not. -/
theorem invalidate_others {id other : Uuid} (hne : other ≠ id) (w : World) :
    (invalidate id w).2.cache.get? other = w.cache.get? other := by
  show (load (some [id]) w).2.cache.get? other = _
  rcases h : load (some [id]) w with ⟨f | u, w'⟩
  · rw [(World.state_eq.mp (load_error h).2).2]
  · exact (load_ok h).2.2 other fun hcovers => hne (covers_one.mp hcovers)

/-- If one role is loaded again, it is as the rows say. -/
theorem invalidate_own {id : Uuid} {w : World} (h : (invalidate id w).1 = .ok ()) :
    w.db.rulesFor id = .ok ((invalidate id w).2.cache.get? id) := by
  have hload : load (some [id]) w = (.ok (), (invalidate id w).2) := Prod.ext h rfl
  exact (load_ok hload).2.1 id (covers_one.mpr rfl)

/-- If it could not be, the cache is as before. -/
theorem invalidate_kept {id : Uuid} {w : World} (h : (invalidate id w).1 ≠ .ok ()) :
    (invalidate id w).2.cache = w.cache := by
  rcases hrun : invalidate id w with ⟨f | u, w'⟩
  · exact (World.state_eq.mp (load_error hrun).2).2
  · rw [hrun] at h
    exact absurd rfl h

/-- Loading everything makes the cache a mirror of the tables. -/
theorem load_mirrors {w w' : World} {u : Unit} (h : load none w = (.ok u, w')) :
    w'.cache.Mirrors w'.db := by
  obtain ⟨hdb, hall, -⟩ := load_ok h
  intro id
  rw [hdb]
  exact hall id fun ids hids => by cases hids

/-! ## After a change -/

/-- Loading a role again makes the cache a mirror there too. -/
theorem invalidate_mirrorsBut {id : Uuid} {ids : List Uuid} {w : World}
    (hothers : w.cache.MirrorsBut w.db (id :: ids)) (h : (invalidate id w).1 = .ok ()) :
    (invalidate id w).2.cache.MirrorsBut (invalidate id w).2.db (ids.filter (· ≠ id)) := by
  intro other hother
  rw [show (invalidate id w).2.db = w.db from load_db (some [id]) w]
  by_cases heq : other = id
  · rw [heq]
    exact invalidate_own h
  · rw [invalidate_others heq]
    refine hothers other fun hmem => hother (List.mem_filter.mpr ⟨?_, decide_eq_true heq⟩)
    exact (List.mem_cons.mp hmem).resolve_left heq

end Reload

end Warrant
