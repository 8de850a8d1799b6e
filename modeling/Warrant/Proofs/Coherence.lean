import Warrant.Explanation
import Warrant.Proofs.Acceptance
import Warrant.Proofs.Bulk

/-!
# The cache and the tables

Checks are answered from the cache, changes are made to the tables. This file
says when nobody can tell the difference. The cache is loaded once; after that
any operations may run, one after the other, each succeeding or failing at any
of its steps. As long as those reloads succeed that the operations come to, the
cache holds for every role exactly the rules that its rows state, and nothing
for a role that is not there.

There is one exception. To add several permissions is the one operation that can
fail with part of its work done: an item that goes too deep ends it where it
stands, what was added before stays, and the reload at its end is never come to.
The role is behind then until it is loaded again. A run carries the list of the
roles that are.

The invariant has two parts, for the second needs the first: the tables keep
their shape, and the cache mirrors them except at the roles that are behind. One
operation preserves it because the role that it loads again or leaves behind is
the only one whose rules it can have touched. A run preserves it by induction on
its operations.

A check then answers what the rows of the account's role say, read afresh, if
this role is not behind, and no for an account that is unknown or has no role.
-/

namespace Warrant

/-! ## Operations -/

namespace Mutation

/-- What can change permissions, roles and accounts: a command, or several permissions at once. -/
inductive Operation where
  | one (c : Command)
  | addPermissions (roleId : Uuid) (rules : Value)
  | removePermissions (roleId : Uuid) (ids : List Uuid)

namespace Operation

/-- What the caller is told when an operation succeeds. -/
def Result : Operation → Type
  | one c => c.Result
  | addPermissions .. => List BulkItem
  | removePermissions .. => List BulkItem

/-- Carries an operation out. -/
def execute (caller : Caller) : (op : Operation) → Work op.Result
  | one c => c.execute caller
  | addPermissions roleId rules => Mutation.addPermissions roleId rules caller
  | removePermissions roleId ids => Mutation.removePermissions roleId ids caller

/-- The role that a bulk addition leaves behind when it fails: its own if an item went too deep, for
the items before may have been added. -/
def leftBehind (roleId : Uuid) : Failure → Option Uuid
  | .broke .tooDeep => some roleId
  | _ => none

/-- An operation in stages. A bulk run records each item by itself, and nothing at its end. -/
def stages (caller : Caller) : (op : Operation) → Stages op.Result
  | one c => c.stages caller
  | addPermissions roleId rules =>
      { Changed := List BulkItem
        change := do
          let items ← Work.ofFault rules.items
          addEach roleId caller items
        touched := fun _ => some roleId
        close := fun _ => pure ()
        result := id
        exposed := leftBehind roleId }
  | removePermissions roleId ids =>
      { Changed := List BulkItem
        change := removeEach roleId caller ids
        touched := fun _ => some roleId
        close := fun _ => pure ()
        result := id }

/-- To carry an operation out is to go through its stages. -/
theorem execute_eq (caller : Caller) (op : Operation) :
    op.execute caller = (op.stages caller).run := by
  cases op with
  | one c => exact c.execute_eq caller
  | addPermissions roleId rules =>
      simp only [execute, stages, Stages.run, Stages.reload, Mutation.addPermissions, bind_assoc,
        pure_bind]
      rfl
  | removePermissions roleId ids =>
      simp only [execute, stages, Stages.run, Stages.reload, Mutation.removePermissions, pure_bind]
      rfl

/-- What stays with one role is tracked by loading that role, if it is exposed where it breaks off. -/
theorem tracked_of_completes {roleId : Uuid} {fault : Option Fault} {t : Work (List BulkItem)}
    {exposed : Failure → Option Uuid} (ht : Completes roleId fault t)
    (hexposed : ∀ why, fault = some why → exposed (.broke why) = some roleId) :
    Stages.Tracked
      ⟨List BulkItem, t, fun _ => some roleId, fun _ => pure (), id, exposed⟩ where
  closes _ _ _ _ := Work.Logs.nothing
  ok {w w₁ done} hdb hrun := by
    have hbeside := (ht w hdb).1.after hrun
    exact ⟨hbeside.cache, hbeside.only⟩
  error {w w₁ f} hdb hrun := by
    obtain ⟨hbeside, hfails⟩ := ht w hdb
    obtain ⟨why, rfl, hfault⟩ := hfails f (congrArg Prod.fst hrun)
    have hbeside := hbeside.after hrun
    show _ ∧ Database.ChangesOnly (exposed (.broke why)) _ _
    rw [hexposed why hfault]
    exact ⟨hbeside.cache, hbeside.only⟩

theorem stages_tracked (caller : Caller) (op : Operation) : (op.stages caller).Tracked := by
  cases op with
  | one c => exact c.stages_tracked caller
  | removePermissions roleId ids =>
      exact tracked_of_completes (removeEach_completes roleId caller ids) nofun
  | addPermissions roleId rules =>
      show Stages.Tracked ⟨List BulkItem, Work.ofFault rules.items >>= addEach roleId caller,
        fun _ => some roleId, fun _ => pure (), id, leftBehind roleId⟩
      cases rules.items with
      | error why =>
          -- What cannot be gone through item by item fails before anything is done.
          refine ⟨fun _ _ _ _ => Work.Logs.nothing, fun _ hrun => ?_, fun hdb hrun => ?_⟩
          · cases hrun
          · cases hrun
            exact ⟨rfl, Database.ChangesOnly.refl hdb⟩
      | ok items =>
          refine tracked_of_completes (addEach_completes roleId caller items) fun why hwhy => ?_
          cases hwhy
          rfl

end Operation

end Mutation

/-! ## Runs -/

/-- A run from one world to another: operations one after the other, each ending as it may, with
every reload that it comes to succeeding. Between them time may pass, identifiers may be drawn,
and which steps of the database fail may change. The run carries the roles that are behind at its
end. -/
inductive Run : World → List Uuid → World → Prop where
  | start (w : World) : Run w [] w
  | meanwhile {w w₁ w₂ : World} {behind : List Uuid} (before : Run w behind w₁)
      (same : w₂.state = w₁.state) : Run w behind w₂
  | step {w w₁ : World} {behind : List Uuid} (before : Run w behind w₁) (op : Mutation.Operation)
      (caller : Caller) (reloads : (op.stages caller).Reloads w₁) :
      Run w ((op.stages caller).behind w₁ behind) (op.execute caller w₁).2

namespace World

/-- What holds between operations: the tables are in shape, and the cache mirrors them except at the
roles that are behind. -/
structure CoherentBut (w : World) (behind : List Uuid) : Prop where
  shaped : w.db.Shaped
  mirrors : w.cache.MirrorsBut w.db behind

/-- The tables are in shape, and the cache mirrors them. -/
structure Coherent (w : World) : Prop where
  shaped : w.db.Shaped
  mirrors : w.cache.Mirrors w.db

theorem Coherent.but_nil {w : World} (h : w.Coherent) : w.CoherentBut [] :=
  ⟨h.shaped, RuleCache.mirrorsBut_nil.mpr h.mirrors⟩

/-- Loading everything makes a world coherent. -/
theorem coherent_of_load {w w' : World} {u : Unit} (hdb : w.db.Shaped)
    (h : Reload.load none w = (.ok u, w')) : w'.Coherent := by
  refine ⟨?_, Reload.load_mirrors h⟩
  rw [(Reload.load_ok h).1]
  exact hdb

variable {w w' : World} {behind : List Uuid}

theorem CoherentBut.of_state (h : w.CoherentBut behind) (hsame : w'.state = w.state) :
    w'.CoherentBut behind := by
  obtain ⟨hdb, hcache⟩ := World.state_eq.mp hsame
  refine ⟨?_, ?_⟩
  · rw [hdb]
    exact h.shaped
  · rw [hdb, hcache]
    exact h.mirrors

/-- One operation keeps a world coherent, but for the roles that are behind after it. -/
theorem CoherentBut.step (h : w.CoherentBut behind) (op : Mutation.Operation) (caller : Caller)
    (hreloads : (op.stages caller).Reloads w) :
    (op.execute caller w).2.CoherentBut ((op.stages caller).behind w behind) := by
  have htracked := op.stages_tracked caller
  rw [op.execute_eq caller]
  exact ⟨htracked.shaped h.shaped, htracked.mirrorsBut h.shaped h.mirrors hreloads⟩

end World

/-- A run keeps a world coherent, but for the roles that are behind at its end. -/
theorem Run.coherentBut {w w' : World} {behind : List Uuid} (h : Run w behind w')
    (hw : w.Coherent) : w'.CoherentBut behind := by
  induction h with
  | start => exact hw.but_nil
  | meanwhile _ same ih => exact ih.of_state same
  | step _ op caller reloads ih => exact ih.step op caller reloads

/-! ## Checks -/

namespace Database

/-- What the rows say of a check: the ability of the account is built from the permissions of its
role as they are read from the tables. -/
def allows (db : Database) (id : Uuid) (action subject field : Value) : Except Fault Bool :=
  match db.account? id with
  | none => .ok false
  | some account =>
      match account.roleId with
      | .uuid roleId =>
          (Rule.ofPermissions (db.permissionsOf roleId)).map fun rules =>
            (Ability.ofRules account.toValue rules).can action subject field
      | _ => .ok false

/-- The role that an account shows is one of the table. -/
theorem account?_role {db : Database} {id : Uuid} {account : Account} {held : HeldRole}
    (h : db.account? id = some account) (hheld : account.role = some held) :
    ∃ roleId, held.id = .uuid roleId ∧ db.hasRole roleId = true := by
  obtain ⟨row, -, rfl⟩ := Option.map_eq_some_iff.mp h
  obtain ⟨roleId, -, hrole⟩ := Option.bind_eq_some_iff.mp hheld
  obtain ⟨found, hfound, rfl⟩ := Option.map_eq_some_iff.mp hrole
  exact ⟨found.id, rfl, hasRole_iff.mpr ⟨found, List.mem_of_find?_eq_some hfound, rfl⟩⟩

end Database

/-- With a cache that mirrors the tables at the role of an account a check answers what the rows
say. -/
theorem RuleCache.MirrorsBut.allows {c : RuleCache} {db : Database} {behind : List Uuid}
    (h : c.MirrorsBut db behind) {id : Uuid} {account : Account}
    (haccount : db.account? id = some account)
    (hfresh : ∀ roleId ∈ behind, account.roleId ≠ .uuid roleId) (action subject field : Value) :
    db.allows id action subject field = .ok (c.permits account action subject field) := by
  unfold Database.allows RuleCache.permits RuleSource.permits RuleSource.compile
  rw [haccount]
  dsimp only
  cases hheld : account.role with
  | none =>
      rw [Account.roleId, hheld]
      rfl
  | some held =>
      obtain ⟨roleId, hid, hrole⟩ := Database.account?_role haccount hheld
      have hrules := h roleId fun hbehind => hfresh roleId hbehind (by
        rw [Account.roleId, hheld, Value.ofOption, hid])
      rw [Database.rulesFor, if_pos hrole] at hrules
      rw [Account.roleId, hheld, Value.ofOption]
      dsimp only
      rw [hid]
      dsimp only [RuleCache.source]
      cases hread : Rule.ofPermissions (db.permissionsOf roleId) with
      | error e =>
          rw [hread] at hrules
          cases hrules
      | ok rules =>
          rw [hread] at hrules
          rw [← Except.ok.inj hrules]
          rfl

/-- A check by account id reads the account and then the cache, and changes neither. -/
theorem checkPermission_ok {id : Uuid} {action subject field : Value} {w w' : World} {b : Bool}
    {behind : List Uuid} (hmirrors : w.cache.MirrorsBut w.db behind)
    (hfresh : ∀ account, w.db.account? id = some account →
      ∀ roleId ∈ behind, account.roleId ≠ .uuid roleId)
    (h : checkPermission id action subject field w = (.ok b, w')) :
    w.db.allows id action subject field = .ok b := by
  obtain ⟨found, w₁, hread, h⟩ := Work.bind_ok.mp h
  have hanswers := (Store.account_answers id).transact
  have hfound := hanswers.result hread
  have hcache := (World.state_eq.mp (hanswers.state hread)).2
  cases found with
  | none =>
      obtain ⟨rfl, -⟩ := Work.pure_ok.mp h
      unfold Database.allows
      rw [← hfound]
  | some account =>
      obtain ⟨rfl, -⟩ := Work.ask_ok.mp h
      rw [hcache]
      exact hmirrors.allows hfound.symm (hfresh account hfound.symm) action subject field

/-- If no step of the database fails, a check by account id has an answer. -/
theorem checkPermission_answers {w : World} (h : w.faults = FaultPlan.none) (id : Uuid)
    (action subject field : Value) :
    ∃ b w', checkPermission id action subject field w = (.ok b, w') := by
  have hread : ∃ w', Work.transact (Store.account id) w = (.ok (w.db.account? id), w') :=
    ⟨_, Work.transact_query_apply h _ _⟩
  obtain ⟨w', hread⟩ := hread
  unfold checkPermission
  rw [Work.bind_apply, hread]
  dsimp only
  cases w.db.account? id with
  | none => exact ⟨false, w', rfl⟩
  | some account => exact ⟨_, w', rfl⟩

/-- After loading everything, and then any run whose reloads succeed, the cache holds for every role
what its rows state, except at the roles that a bulk addition has left behind and that have not been
loaded since. And a check by account id answers what the rows say, unless the role of the account is
one of these. -/
theorem Run.answers_from_tables {w₀ w w' : World} {behind : List Uuid} (hdb : w₀.db.Shaped)
    (hload : Reload.load none w₀ = (.ok (), w)) (hrun : Run w behind w') :
    w'.cache.MirrorsBut w'.db behind ∧ (behind = [] → w'.cache.Mirrors w'.db) ∧
    ∀ (id : Uuid) (action subject field : Value),
      ((∀ account, w'.db.account? id = some account →
          ∀ roleId ∈ behind, account.roleId ≠ .uuid roleId) →
        ∀ b w'', checkPermission id action subject field w' = (.ok b, w'') →
          w'.db.allows id action subject field = .ok b) ∧
      (w'.faults = FaultPlan.none →
        ∃ b w'', checkPermission id action subject field w' = (.ok b, w'')) := by
  have hmirrors := (hrun.coherentBut (World.coherent_of_load hdb hload)).mirrors
  refine ⟨hmirrors, ?_, fun id action subject field => ⟨fun hfresh b w'' hcheck => ?_, fun h => ?_⟩⟩
  · rintro rfl
    exact RuleCache.mirrorsBut_nil.mp hmirrors
  · exact checkPermission_ok hmirrors hfresh hcheck
  · exact checkPermission_answers h id action subject field

/-- The sample with all its rules in the cache. -/
def World.sampleLoaded : World := (Reload.load none (World.sample FaultPlan.none)).2

theorem World.sample_loads :
    Reload.load none (World.sample FaultPlan.none) = (.ok (), World.sampleLoaded) :=
  Prod.ext (eq_ok_of_isOk (by decide +kernel)) rfl

/-- The sample, loaded, and then a permission more for the clerks. -/
theorem Run.answers_from_tables_sample :
    ∃ w', (World.sample FaultPlan.none).db.Shaped ∧
      Reload.load none (World.sample FaultPlan.none) = (.ok (), World.sampleLoaded) ∧
      Run World.sampleLoaded [] w' ∧ w'.cache.Mirrors w'.db := by
  have hrun := Run.step (Run.start World.sampleLoaded)
    (.one (.addPermission World.clerks World.clerksMayUpdate)) {} (by decide +kernel)
  have hbehind : ((Mutation.Operation.one (.addPermission World.clerks World.clerksMayUpdate)).stages
      {}).behind World.sampleLoaded [] = [] := by decide +kernel
  rw [hbehind] at hrun
  exact ⟨_, World.sample_shaped _, World.sample_loads, hrun,
    (Run.answers_from_tables (World.sample_shaped _) World.sample_loads hrun).2.1 rfl⟩

/-- A rule that lets update accounts. -/
def updatingEntries : List (String × Value) :=
  [("action", .text "update"), ("subject", .text "account")]

/-- The loaded sample with this rule added to those of the clerks, and nothing loaded since. -/
def World.sampleLeftBehind : World :=
  (Mutation.addOne World.clerks {} (.map updatingEntries) World.sampleLoaded).2

/-- A bulk addition of this rule and of what goes too deep leaves the clerks behind. -/
theorem Run.left_behind {item : Value} (hdeep : Mutation.Overdeep item) :
    Run World.sampleLoaded [World.clerks] World.sampleLeftBehind := by
  have hchange : ((Mutation.Operation.addPermissions World.clerks
      (.list [.map updatingEntries, item])).stages {}).change World.sampleLoaded =
        (.error (.broke .tooDeep), World.sampleLeftBehind) := by
    obtain ⟨id, hone⟩ := Work.exists_of_isOk (show (Mutation.addOne World.clerks {}
      (.map updatingEntries) World.sampleLoaded).1.isOk = true by decide +kernel)
    have hfirst : Mutation.addEach World.clerks {} [.map updatingEntries] World.sampleLoaded =
        (.ok [⟨.map updatingEntries, .ok id⟩], World.sampleLeftBehind) :=
      (Mutation.addEach_each World.clerks {}).run_cons (Mutation.bulkItem_of_ok _ hone) rfl
    exact Mutation.addEach_breaks_off {} hdeep [] hfirst
  have hrun := Run.step (Run.start World.sampleLoaded)
    (.addPermissions World.clerks (.list [.map updatingEntries, item])) {} (fun _ _ h => by
      rw [Mutation.Stages.reloadAt, hchange] at h
      cases h)
  rw [Mutation.Operation.execute_eq, Mutation.Stages.run_of_error hchange,
    Mutation.Stages.behind, hchange] at hrun
  exact hrun

/-- After a bulk addition with a rule that opens a thousand arrays, the tables let the clerk update
accounts and a check does not. -/
theorem Run.brackets_left_behind :
    (World.sample FaultPlan.none).db.Shaped ∧
      Reload.load none (World.sample FaultPlan.none) = (.ok (), World.sampleLoaded) ∧
      Run World.sampleLoaded [World.clerks] World.sampleLeftBehind ∧
      ¬ World.sampleLeftBehind.cache.Mirrors World.sampleLeftBehind.db ∧
      (World.sampleLeftBehind.db.allows (Uuid.ofNat 3) (.text "update") (.text "account")
        .null).toOption = some true ∧
      (checkPermission (Uuid.ofNat 3) (.text "update") (.text "account") .null
        World.sampleLeftBehind).1.toOption = some false := by
  have hdeep := RuleInput.ofValue_overdeep_iff.mpr ⟨_, rfl, RuleInput.bracketsRule.overdeep⟩
  refine ⟨World.sample_shaped _, World.sample_loads, Run.left_behind hdeep,
    fun hmirrors => ?_, ?_, ?_⟩
  · have hrows : (World.sampleLeftBehind.db.rulesFor World.clerks).toOption.map
        (Option.map List.length) = some (some 2) := by decide +kernel
    have hcached : (World.sampleLeftBehind.cache.get? World.clerks).map List.length = some 1 := by
      decide +kernel
    rw [hmirrors World.clerks] at hrows
    cases hcached.symm.trans (Option.some.inj hrows)
  · decide +kernel
  · decide +kernel

end Warrant
