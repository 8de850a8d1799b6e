import Warrant.Proofs.Tables
import Warrant.Proofs.Work
import Warrant.Store

/-!
# What operations learn from the tables

An operation that only reads can fail at any of its steps, but when it answers,
its answer is a function of the tables as they stood, and it leaves tables and
cache alone. `Answers` says this for one operation and one function, and it goes
through sequences: the second operation answers from the same tables as the
first, whatever steps lie between them.

With that every reader of the store is described by the function that it
answers, and nothing about connections or numbers of steps is left to say.
-/

namespace Warrant

namespace Work

variable {α β : Type}

/-- An operation answers a question about the tables: it changes neither tables nor cache, and if
it has a result, that is the answer. -/
structure Answers (t : Work α) (answer : Database → α) : Prop where
  keeps : Keeps World.state t
  result : ∀ {w w' : World} {a : α}, t w = (.ok a, w') → a = answer w.db

theorem Answers.state {t : Work α} {answer : Database → α} (h : Answers t answer) {w w' : World}
    {r : Except Failure α} (hrun : t w = (r, w')) : w'.state = w.state :=
  h.keeps.after hrun

theorem Answers.query (s : DbStep) (read : Database → α) : Answers (query s read) read :=
  ⟨Keeps.query s read, fun h => (query_ok h).1⟩

theorem Answers.pure (a : α) : Answers (Pure.pure a) fun _ => a :=
  ⟨Keeps.pure a, fun h => (pure_ok.mp h).1.symm⟩

theorem Answers.bind {t : Work α} {next : α → Work β} {answer : Database → α}
    {answers : α → Database → β} (ht : Answers t answer)
    (hnext : ∀ a, Answers (next a) (answers a)) :
    Answers (t >>= next) fun db => answers (answer db) db := by
  refine ⟨Keeps.bind ht.keeps fun a => (hnext a).keeps, fun h => ?_⟩
  obtain ⟨a, w₁, hrun, h⟩ := bind_ok.mp h
  have hdb := (World.state_eq.mp (ht.state hrun)).1
  rw [(hnext a).result h, hdb, ht.result hrun]

theorem Answers.transact {body : Work α} {answer : Database → α} (h : Answers body answer) :
    Answers (Work.transact body) answer := by
  refine ⟨Keeps.transactReading h.keeps, fun hrun => ?_⟩
  obtain ⟨w₁, w₂, hstart, hbody, -⟩ := transact_ok hrun
  rw [h.result hbody, (World.state_eq.mp hstart).1]

end Work

namespace Database

/-- The role with an id, its permissions with it. -/
def role? (db : Database) (id : Uuid) : Option Role := (db.attach (db.roleRows (some [id]))).head?

theorem mem_roleRows {db : Database} {scope : Option (List Uuid)} {row : RoleRow} :
    row ∈ db.roleRows scope ↔ row ∈ db.roles ∧ ∀ ids, scope = some ids → row.id ∈ ids := by
  unfold roleRows
  rw [List.mem_mergeSort, List.mem_filter]
  cases scope with
  | none => simp only [reduceCtorEq, false_implies, implies_true]
  | some ids => simp only [List.contains_iff_mem, Option.some.injEq, forall_eq']

theorem hasRole_iff {db : Database} {id : Uuid} :
    db.hasRole id = true ↔ ∃ row ∈ db.roles, row.id = id := by
  simp only [hasRole, List.any_eq_true, decide_eq_true_eq]

/-- A role that is found is a row with the permissions of its id. -/
theorem role?_row {db : Database} {id : Uuid} {r : Role} (h : db.role? id = some r) :
    ∃ row ∈ db.roles, row.id = id ∧ r = row.withPermissions (db.permissionsOf row.id) := by
  obtain ⟨row, hrow, rfl⟩ := List.mem_map.mp (List.mem_of_mem_head? h)
  obtain ⟨hmem, hids⟩ := mem_roleRows.mp hrow
  exact ⟨row, hmem, List.mem_singleton.mp (hids _ rfl), rfl⟩

/-- A role that is found has the id that was asked for, and the permissions of that id. -/
theorem role?_some {db : Database} {id : Uuid} {r : Role} (h : db.role? id = some r) :
    db.hasRole id = true ∧ r.id = id ∧ r.permissions = db.permissionsOf id := by
  obtain ⟨row, hrow, rfl, rfl⟩ := role?_row h
  exact ⟨hasRole_iff.mpr ⟨row, hrow, rfl⟩, rfl, rfl⟩

/-- A role that is there is found. -/
theorem exists_role? {db : Database} {id : Uuid} (h : db.hasRole id = true) :
    ∃ r, db.role? id = some r := by
  obtain ⟨row, hrow, hid⟩ := hasRole_iff.mp h
  have hmem : row ∈ db.roleRows (some [id]) := by
    refine mem_roleRows.mpr ⟨hrow, fun ids hids => ?_⟩
    cases hids
    exact List.mem_singleton.mpr hid
  obtain ⟨first, rest, hrows⟩ := List.exists_cons_of_ne_nil (List.ne_nil_of_mem hmem)
  refine ⟨first.withPermissions (db.permissionsOf first.id), ?_⟩
  unfold role?
  rw [hrows]
  rfl

end Database

namespace Store

theorem account_answers (id : Uuid) : Work.Answers (account id) fun db => db.account? id :=
  Work.Answers.query _ _

theorem permission_answers (id : Uuid) :
    Work.Answers (permission id) fun db => db.permission? id :=
  Work.Answers.query _ _

/-- Without roles there is nothing to attach, so leaving the second step out changes no answer. -/
theorem roles_answers (scope : Option (List Uuid)) :
    Work.Answers (roles scope) fun db => db.attach (db.roleRows scope) := by
  have hnext : ∀ rows : List RoleRow,
      Work.Answers (if rows.isEmpty then return []
        else Work.query .permissionList fun db => db.attach rows) fun db => db.attach rows := by
    intro rows
    split
    · next hempty =>
        rw [List.isEmpty_iff.mp hempty]
        exact Work.Answers.pure []
    · exact Work.Answers.query _ _
  exact Work.Answers.bind (Work.Answers.query _ _) hnext

theorem role_answers (id : Uuid) : Work.Answers (role id) fun db => db.role? id :=
  Work.Answers.bind (roles_answers (some [id])) fun found => Work.Answers.pure found.head?

theorem roleNamed_answers (name : Value) :
    Work.Answers (roleNamed name) fun db =>
      (name.text?.bind db.roleNamed?).bind db.role? := by
  refine Work.Answers.bind (Work.Answers.query _ _) (fun found => ?_ :
    ∀ found : Option Uuid, Work.Answers _ fun db => found.bind db.role?)
  cases found with
  | none => exact Work.Answers.pure none
  | some id => exact role_answers id

theorem existingRole_keeps (id : Uuid) : Work.Keeps World.state (existingRole id) := by
  refine Work.Keeps.bind (role_answers id).keeps fun found => ?_
  cases found with
  | none => exact Work.Keeps.refuse _
  | some r => exact Work.Keeps.pure r

theorem existingRole_ok {id : Uuid} {w w' : World} {r : Role}
    (h : existingRole id w = (.ok r, w')) : w.db.role? id = some r ∧ w'.state = w.state := by
  have hkeep := (existingRole_keeps id).after h
  obtain ⟨found, w₁, hrole, h⟩ := Work.bind_ok.mp h
  rw [← (role_answers id).result hrole]
  cases found with
  | none => exact absurd h Work.refuse_ok
  | some found =>
      obtain ⟨rfl, -⟩ := Work.pure_ok.mp h
      exact ⟨rfl, hkeep⟩

/-- If no step fails, the roles in a scope are read. -/
theorem roles_apply {w : World} (hsound : w.faults = FaultPlan.none) (scope : Option (List Uuid)) :
    ∃ w', roles scope w = (.ok (w.db.attach (w.db.roleRows scope)), w') ∧
      w'.faults = FaultPlan.none := by
  unfold roles
  rw [Work.bind_of_ok (Work.query_apply hsound _ _)]
  split
  · next hempty =>
      rw [List.isEmpty_iff.mp hempty]
      exact ⟨_, rfl, hsound⟩
  · have hsecond : ({ w with steps := w.steps + 1 } : World).faults = FaultPlan.none := hsound
    exact ⟨_, Work.query_apply hsecond _ _, hsound⟩

/-- If no step fails, the role with an id is read. -/
theorem role_apply {w : World} (hsound : w.faults = FaultPlan.none) (id : Uuid) :
    ∃ w', role id w = (.ok (w.db.role? id), w') ∧ w'.faults = FaultPlan.none := by
  obtain ⟨w', hroles, hsound'⟩ := roles_apply hsound (some [id])
  refine ⟨w', ?_, hsound'⟩
  unfold role
  rw [Work.bind_of_ok hroles]
  rfl

/-- If no step fails, the role with a name is read. -/
theorem roleNamed_apply {w : World} (hsound : w.faults = FaultPlan.none) (name : String) :
    ∃ w', roleNamed (.text name) w = (.ok ((w.db.roleNamed? name).bind w.db.role?), w') ∧
      w'.faults = FaultPlan.none := by
  unfold roleNamed
  rw [Work.bind_of_ok (Work.query_apply hsound _ _)]
  have hnext : ({ w with steps := w.steps + 1 } : World).faults = FaultPlan.none := hsound
  have htext : (Value.text name).text?.bind w.db.roleNamed? = w.db.roleNamed? name := rfl
  rw [htext]
  cases w.db.roleNamed? name with
  | none => exact ⟨_, rfl, hsound⟩
  | some id => exact role_apply hnext id

/-- A role that is there is found, if no step fails. -/
theorem existingRole_apply {w : World} (hsound : w.faults = FaultPlan.none) {id : Uuid}
    (hrole : w.db.hasRole id = true) :
    ∃ r w', existingRole id w = (.ok r, w') ∧ w'.faults = FaultPlan.none := by
  obtain ⟨r, hr⟩ := Database.exists_role? hrole
  obtain ⟨w', hread, hsound'⟩ := role_apply hsound id
  refine ⟨r, w', ?_, hsound'⟩
  unfold existingRole
  rw [Work.bind_of_ok hread, hr]
  rfl

end Store

end Warrant
