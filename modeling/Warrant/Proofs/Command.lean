import Warrant.Proofs.Changes
import Warrant.Proofs.Stages

/-!
# Commands

The seven changes that are made one at a time, as one kind of thing. Each has
arguments that come from outside, a result for the caller, and its meaning for
the tables: what it finds in them, and what they are afterwards. `Writes` says
this last part once for all seven, in terms of the writes of the database, and
is the specification that the operations are held to: a command that succeeds
has done all of it, whatever went wrong afterwards, and one that fails has done
none of it, wherever it failed.

Every command is a change in stages. Two of them touch no rules, and load
nothing again: a new name or description of a role, and a new role of an
account. The others touch the rules of one role and name that role, and this is
where the agreement between a write and its reload is checked for each.
-/

namespace Warrant.Mutation

/-- A change to permissions, roles or accounts, with its arguments as they come from outside. -/
inductive Command where
  | addPermission (roleId : Uuid) (rule : RuleInput)
  | removePermission (roleId permissionId : Uuid)
  | updatePermission (roleId permissionId : Uuid) (change : RuleChange)
  | createRole (name description : Value)
  | updateRole (id : Uuid) (name description : Value)
  | deleteRole (id : Uuid)
  | reassignRole (accountId : Uuid) (roleId : Option Uuid)

namespace Command

/-- What the caller is told when a command succeeds. -/
def Result : Command → Type
  | addPermission .. => Permission
  | removePermission .. => Permission
  | updatePermission .. => Permission
  | createRole .. => Role
  | updateRole .. => Role
  | deleteRole .. => Unit
  | reassignRole .. => Account

/-- Carries a command out. -/
def execute (caller : Caller) : (c : Command) → Work c.Result
  | addPermission roleId rule => Mutation.addPermission roleId rule caller
  | removePermission roleId permissionId => Mutation.removePermission roleId permissionId caller
  | updatePermission roleId permissionId change =>
      Mutation.updatePermission roleId permissionId change caller
  | createRole name description => Mutation.createRole name description caller
  | updateRole id name description => Mutation.updateRole id name description caller
  | deleteRole id => Mutation.deleteRole id caller
  | reassignRole accountId roleId => Mutation.reassignRole accountId roleId caller

/-- What a command that succeeds has to do with the tables: what was in them, what the caller is
told, and what they are afterwards. -/
def Writes : (c : Command) → Database → c.Result → Database → Prop
  | addPermission roleId rule, db, p, db' =>
      db.hasRole roleId = true ∧ (∃ id createdAt, p = rule.toPermission id roleId createdAt) ∧
        db.insertPermission p = .ok db'
  | removePermission roleId permissionId, db, p, db' =>
      p ∈ db.permissionsOf roleId ∧ p.id = permissionId ∧
        db' = db.deletePermission permissionId
  | updatePermission roleId permissionId change, db, p, db' =>
      ∃ old terms, db.permission? permissionId = some old ∧ old.roleId = roleId ∧
        change.apply old.toTerms = .ok terms ∧ p = { old with toTerms := terms } ∧
        db.updatePermission p = .ok db'
  | createRole name description, db, r, db' =>
      newName name = .ok r.name ∧ textIfGiven .descriptionNotText description = .ok r.description ∧
        r.permissions = [] ∧ db.insertRole ⟨r.id, r.name, r.description, r.createdAt⟩ = .ok db'
  | updateRole id name description, db, r, db' =>
      ∃ old name? description?, db.role? id = some old ∧
        textIfGiven .nameNotText name = .ok name? ∧
        textIfGiven .descriptionNotText description = .ok description? ∧
        r = { old with
          name := (name?.map Text.trim).getD old.name
          description := description? <|> old.description } ∧
        db.updateRole id r.name r.description = .ok db'
  | deleteRole id, db, _, db' => db.hasRole id = true ∧ db' = db.deleteRole id
  | reassignRole accountId roleId, db, a, db' =>
      ∃ old, db.account? accountId = some old ∧
        (∀ id, roleId = some id → db.hasRole id = true) ∧
        a = { old with role := (roleId.bind db.role?).map Role.held } ∧
        db' = db.setAccountRole accountId roleId

end Command

/-! ## Creating a role

The other commands draw identifiers and read the clock within their transaction,
where every failure is answered. A role is drawn up before its transaction, so
there is one way more to fail: a clock that cannot be read. -/

/-- Draws up a new role. -/
def draftRole (name description : Value) : Work Role := do
  let name ← Work.ofResult (Failure.ofRefusal (newName name))
  let description ← Work.ofResult (Failure.ofRefusal (textIfGiven .descriptionNotText description))
  let id ← Work.drawId
  let createdAt ← Work.readClock
  return ⟨id, name, description, [], some createdAt⟩

/-- Draws up a new role and adds it. -/
def insertDraft (name description : Value) : Work Role := do
  let r ← draftRole name description
  insertRole r
  return r

theorem newName_of_trimmed {name : String} (htrimmed : Text.trim name = name)
    (hnonempty : name ≠ "") : newName (.text name) = .ok name := by
  rw [newName, htrimmed, if_neg hnonempty]

theorem textIfGiven_ofOption (why : Invalid) (s : Option String) :
    textIfGiven why (.ofOption .text s) = .ok s := by
  cases s <;> rfl

theorem newName_error {name : Value} {why : Refusal} (h : newName name = .error why) :
    ∃ invalid, why = .invalid invalid := by
  unfold newName at h
  split at h
  · split at h <;> cases h
    exact ⟨_, rfl⟩
  · cases h
    exact ⟨_, rfl⟩

theorem textIfGiven_error {invalid : Invalid} {v : Value} {why : Refusal}
    (h : textIfGiven invalid v = .error why) : why = .invalid invalid := by
  unfold textIfGiven at h
  split at h <;> cases h
  rfl

theorem draftRole_keeps (name description : Value) :
    Work.Keeps World.state (draftRole name description) :=
  Work.Keeps.bind (Work.Keeps.ofResult _) fun _ => Work.Keeps.bind (Work.Keeps.ofResult _) fun _ =>
    Work.Keeps.bind Work.Keeps.drawId fun _ => Work.Keeps.bind Work.Keeps.readClock fun _ =>
      Work.Keeps.pure _

theorem draftRole_ok {name description : Value} {r : Role} {w w' : World}
    (h : draftRole name description w = (.ok r, w')) :
    newName name = .ok r.name ∧ textIfGiven .descriptionNotText description = .ok r.description ∧
      r.permissions = [] := by
  obtain ⟨n, w₁, hname, h⟩ := Work.bind_ok.mp h
  obtain ⟨d, w₂, hdescription, h⟩ := Work.bind_ok.mp h
  obtain ⟨id, w₃, -, h⟩ := Work.bind_ok.mp h
  obtain ⟨createdAt, w₄, -, h⟩ := Work.bind_ok.mp h
  obtain ⟨rfl, -⟩ := Work.pure_ok.mp h
  exact ⟨(Work.ofRefusal_ok.mp hname).1, (Work.ofRefusal_ok.mp hdescription).1, rfl⟩

theorem draftRole_error {name description : Value} {f : Failure} {w w' : World}
    (h : draftRole name description w = (.error f, w')) (hclock : w.clock.Runs) :
    ∃ why, f = .refused (.invalid why) := by
  rcases Work.bind_error.mp h with h | ⟨n, w₁, hname, h⟩
  · obtain ⟨why, hwhy, rfl, -⟩ := Work.ofRefusal_error.mp h
    obtain ⟨invalid, rfl⟩ := newName_error hwhy
    exact ⟨invalid, rfl⟩
  · obtain ⟨-, rfl⟩ := Work.ofRefusal_ok.mp hname
    rcases Work.bind_error.mp h with h | ⟨d, w₂, hdescription, h⟩
    · obtain ⟨why, hwhy, rfl, -⟩ := Work.ofRefusal_error.mp h
      exact ⟨_, congrArg Failure.refused (textIfGiven_error hwhy)⟩
    · obtain ⟨-, rfl⟩ := Work.ofRefusal_ok.mp hdescription
      -- Drawing an identifier cannot fail, and the clock runs.
      obtain ⟨next, hnext⟩ := Option.isSome_iff_exists.mp hclock
      rw [Work.bind_apply] at h
      dsimp only [Work.drawId] at h
      rw [Work.bind_apply] at h
      unfold Work.readClock at h
      dsimp only at h
      rw [hnext] at h
      cases h

/-! ## The stages of each command -/

namespace Command

/-- A command as a change in stages. -/
def stages (caller : Caller) : (c : Command) → Stages c.Result
  | addPermission roleId rule =>
      { Changed := Permission
        change := insert roleId rule
        touched := fun _ => some roleId
        close := recordInsert caller roleId
        result := id }
  | removePermission roleId permissionId =>
      { Changed := Permission
        change := erase roleId permissionId
        touched := fun _ => some roleId
        close := recordErase caller roleId
        result := id }
  | updatePermission roleId permissionId change =>
      { Changed := List (String × Value) × Permission
        change := revise roleId permissionId change
        touched := fun _ => some roleId
        close := fun done => do
          let after ← Work.ofFault done.2.snapshot
          let _ ← Audit.record (.permissionChanged caller (.uuid permissionId) (.map done.1)
            (.map after))
          return ()
        result := Prod.snd }
  | createRole name description =>
      { Changed := Role
        change := insertDraft name description
        touched := fun r => some r.id
        close := fun r => do
          let _ ← Audit.record (.roleCreated caller (.uuid r.id) (.text r.name))
          return ()
        result := id }
  | updateRole roleId name description =>
      { Changed := Role × Role
        change := do
          let name ← Work.ofResult (Failure.ofRefusal (textIfGiven .nameNotText name))
          let description ←
            Work.ofResult (Failure.ofRefusal (textIfGiven .descriptionNotText description))
          editRole roleId name description
        touched := fun _ => none
        close := fun done => do
          let _ ← Audit.record (.roleChanged caller (.uuid roleId) (.map done.1.snapshot)
            (.map done.2.snapshot))
          return ()
        result := Prod.snd }
  | deleteRole roleId =>
      { Changed := Role
        change := eraseRole roleId
        touched := fun _ => some roleId
        close := fun r => do
          let _ ← Audit.record (.roleDeleted caller (.uuid roleId) (.text r.name))
          return ()
        result := fun _ => () }
  | reassignRole accountId roleId =>
      { Changed := Account × Option Role
        change := assign accountId roleId
        touched := fun _ => none
        close := fun done => do
          let _ ← Audit.record (.reassigned caller (.uuid accountId) done.1.roleId
            (.ofOption .uuid roleId))
          return ()
        result := fun done => { done.1 with role := done.2.map Role.held } }

/-- To carry a command out is to go through its stages. -/
theorem execute_eq (caller : Caller) (c : Command) : c.execute caller = (c.stages caller).run := by
  cases c with
  | addPermission roleId rule => rfl
  | removePermission roleId permissionId => rfl
  | updatePermission roleId permissionId change =>
      simp only [execute, stages, Stages.run, Stages.reload, Mutation.updatePermission, revise,
        bind_assoc, pure_bind]
      rfl
  | createRole name description =>
      simp only [execute, stages, Stages.run, Stages.reload, Mutation.createRole, insertDraft,
        draftRole, bind_assoc, pure_bind, id]
      rfl
  | updateRole roleId name description =>
      simp only [execute, stages, Stages.run, Stages.reload, Mutation.updateRole, bind_assoc,
        pure_bind]
      rfl
  | deleteRole roleId =>
      simp only [execute, stages, Stages.run, Stages.reload, Mutation.deleteRole, bind_assoc,
        pure_bind]
      rfl
  | reassignRole accountId roleId =>
      simp only [execute, stages, Stages.run, Stages.reload, Mutation.reassignRole, bind_assoc,
        pure_bind]
      rfl

end Command

/-! ## Every command is a whole change -/

theorem recordInsert_logs (caller : Caller) (roleId : Uuid) {p : Permission}
    (hp : p.toTerms.Shaped) : Work.Logs (recordInsert caller roleId p) :=
  Work.Logs.ofSnapshot (hp.snapshot_eq _) _

theorem recordErase_logs (caller : Caller) (roleId : Uuid) {p : Permission}
    (hp : p.toTerms.Shaped) : Work.Logs (recordErase caller roleId p) :=
  Work.Logs.ofSnapshot (hp.snapshot_eq _) _

namespace Command

variable {db db' : Database}

/-! ### What is recorded -/

theorem addPermission_shaped {roleId : Uuid} {rule : RuleInput} {p : Permission}
    (h : (addPermission roleId rule).Writes db p db') : p.toTerms.Shaped := by
  obtain ⟨-, ⟨id, createdAt, rfl⟩, -⟩ := h
  exact rule.toPermission_shaped id roleId createdAt

theorem removePermission_shaped {roleId permissionId : Uuid} {p : Permission}
    (hrows : ∀ q ∈ db.permissions, q.toTerms.Shaped)
    (h : (removePermission roleId permissionId).Writes db p db') : p.toTerms.Shaped := by
  obtain ⟨row, hrow, -, rfl⟩ := Database.mem_permissionsOf h.1
  exact Database.readPermission_shaped (hrows row hrow)

theorem updatePermission_shaped {roleId permissionId : Uuid} {change : RuleChange}
    {p : Permission} (hrows : ∀ q ∈ db.permissions, q.toTerms.Shaped)
    (h : (updatePermission roleId permissionId change).Writes db p db') : p.toTerms.Shaped := by
  obtain ⟨old, terms, hold, -, hterms, rfl, -⟩ := h
  obtain ⟨row, hrow, -, rfl⟩ := Database.permission?_some hold
  exact RuleChange.apply_shaped (Database.readPermission_shaped (hrows row hrow)) hterms

/-! ### Which rules are touched -/

theorem addPermission_touches {roleId : Uuid} {rule : RuleInput} {p : Permission}
    (hdb : db.Shaped) (h : (addPermission roleId rule).Writes db p db') :
    Database.ChangesOnly (some roleId) db db' := by
  have hp := addPermission_shaped h
  obtain ⟨-, ⟨id, createdAt, rfl⟩, hinsert⟩ := h
  exact Database.insertPermission_changesOnly hdb hp hinsert

theorem removePermission_touches {roleId permissionId : Uuid} {p : Permission}
    (hdb : db.Shaped) (h : (removePermission roleId permissionId).Writes db p db') :
    Database.ChangesOnly (some roleId) db db' := by
  obtain ⟨hmem, rfl, rfl⟩ := h
  exact Database.deletePermission_changesOnly hdb hmem

theorem updatePermission_touches {roleId permissionId : Uuid} {change : RuleChange}
    {p : Permission} (hdb : db.Shaped)
    (h : (updatePermission roleId permissionId change).Writes db p db') :
    Database.ChangesOnly (some roleId) db db' := by
  have hp := updatePermission_shaped hdb.rows h
  obtain ⟨old, terms, hold, rfl, -, rfl, hupdate⟩ := h
  have hkey : old.id = permissionId := by
    obtain ⟨row, -, hid, rfl⟩ := Database.permission?_some hold
    exact hid
  refine Database.updatePermission_changesOnly hdb hp ?_ hupdate
  rw [hkey]
  exact hold

/-- A command touches the rules of no role but the one that it names for loading. -/
theorem stages_touches (caller : Caller) (c : Command) {done : (c.stages caller).Changed}
    (hdb : db.Shaped) (h : c.Writes db ((c.stages caller).result done) db') :
    Database.ChangesOnly ((c.stages caller).touched done) db db' := by
  cases c with
  | addPermission roleId rule => exact addPermission_touches hdb h
  | removePermission roleId permissionId => exact removePermission_touches hdb h
  | updatePermission roleId permissionId change => exact updatePermission_touches hdb h
  | createRole name description =>
      obtain ⟨-, -, -, hinsert⟩ := h
      exact Database.insertRole_changesOnly hdb hinsert
  | updateRole id name description =>
      obtain ⟨old, name?, description?, -, -, -, -, hupdate⟩ := h
      exact Database.updateRole_changesOnly hdb hupdate
  | deleteRole id =>
      obtain ⟨-, rfl⟩ := h
      exact Database.deleteRole_changesOnly hdb id
  | reassignRole accountId roleId =>
      obtain ⟨old, -, -, -, rfl⟩ := h
      exact Database.setAccountRole_changesOnly hdb accountId roleId

/-! ### How the changes are made -/

theorem insertDraft_ok {name description : Value} {r : Role} {w w' : World}
    (h : insertDraft name description w = (.ok r, w')) :
    (createRole name description).Writes w.db r w'.db ∧ w'.cache = w.cache := by
  obtain ⟨drafted, w₁, hdraft, h⟩ := Work.bind_ok.mp h
  obtain ⟨_, w₂, hinsert, h⟩ := Work.bind_ok.mp h
  obtain ⟨rfl, rfl⟩ := Work.pure_ok.mp h
  obtain ⟨hsame, hcache⟩ := World.state_eq.mp ((draftRole_keeps name description).after hdraft)
  have hinserts := insertRole_atomic drafted
  have hrow := hinserts.ok hinsert
  rw [hsame] at hrow
  obtain ⟨hname, hdescription, hnone⟩ := draftRole_ok hdraft
  exact ⟨⟨hname, hdescription, hnone, hrow⟩, (hinserts.cache.after hinsert).trans hcache⟩

theorem insertDraft_error {name description : Value} {f : Failure} {w w' : World}
    (h : insertDraft name description w = (.error f, w')) :
    (w.clock.Runs → ∃ why, f = .refused why) ∧ w'.state = w.state := by
  rcases Work.bind_error.mp h with h | ⟨drafted, w₁, hdraft, h⟩
  · refine ⟨fun hclock => ?_, (draftRole_keeps name description).after h⟩
    obtain ⟨invalid, hwhy⟩ := draftRole_error h hclock
    exact ⟨_, hwhy⟩
  · rcases Work.bind_error.mp h with h | ⟨_, w₂, -, h⟩
    · obtain ⟨hwhy, hstate⟩ := (insertRole_atomic drafted).error h
      exact ⟨fun _ => hwhy, hstate.trans ((draftRole_keeps name description).after hdraft)⟩
    · cases h

theorem createRole_whole (caller : Caller) (name description : Value) :
    ((createRole name description).stages caller).Whole (createRole name description).Writes where
  closes _ _ _ _ := Audit.record_logs _
  ok := insertDraft_ok
  error := insertDraft_error

theorem revise_writes (roleId permissionId : Uuid) (change : RuleChange) :
    Work.Atomic (revise roleId permissionId change) fun db done db' =>
      (updatePermission roleId permissionId change).Writes db done.2 db' := by
  have hrevise := revise_atomic roleId permissionId change
  refine ⟨hrevise.cache, fun h => ?_, hrevise.error⟩
  obtain ⟨old, hold, hrole, -, ⟨terms, hterms, hp⟩, hupdate⟩ := hrevise.ok h
  exact ⟨old, terms, hold, hrole, hterms, hp, hupdate⟩

/-- What checks come before an edit can only refuse it. A name that is given is a name once it is
trimmed. -/
theorem checkedEdit_atomic (id : Uuid) (name description : Value) :
    Work.Atomic (do
      let name ← Work.ofResult (Failure.ofRefusal (textIfGiven .nameNotText name))
      let description ←
        Work.ofResult (Failure.ofRefusal (textIfGiven .descriptionNotText description))
      editRole id name description) fun db done db' =>
      (updateRole id name description).Writes db done.2 db' ∧
        ∀ given, textIfGiven .nameNotText name = .ok (some given) → Text.trim given ≠ "" := by
  refine Work.Atomic.checked fun name? hname => Work.Atomic.checked fun description? hdescription => ?_
  have hedit := editRole_atomic id name? description?
  refine ⟨hedit.cache, fun h => ?_, hedit.error⟩
  obtain ⟨hfound, hnew, hupdate, hsome⟩ := hedit.ok h
  refine ⟨⟨_, name?, description?, hfound, hname, hdescription, hnew, hupdate⟩, fun given hgiven => ?_⟩
  rw [hname] at hgiven
  exact hsome given (Except.ok.inj hgiven)

/-- Every command is made as a whole or refused. -/
theorem stages_whole (caller : Caller) (c : Command) : (c.stages caller).Whole c.Writes := by
  cases c with
  | addPermission roleId rule =>
      exact Stages.whole_of_atomic (insert_atomic roleId rule) (fun h => h)
        fun _ h => recordInsert_logs caller roleId (addPermission_shaped h)
  | removePermission roleId permissionId =>
      exact Stages.whole_of_atomic (erase_atomic roleId permissionId) (fun h => h)
        fun hrows h => recordErase_logs caller roleId (removePermission_shaped hrows h)
  | updatePermission roleId permissionId change =>
      exact Stages.whole_of_atomic (revise_writes roleId permissionId change) (fun h => h)
        fun hrows h => Work.Logs.ofSnapshot ((updatePermission_shaped hrows h).snapshot_eq _) _
  | createRole name description => exact createRole_whole caller name description
  | updateRole id name description =>
      exact Stages.whole_of_atomic (checkedEdit_atomic id name description) And.left
        fun _ _ => Audit.record_logs _
  | deleteRole id =>
      refine Stages.whole_of_atomic (eraseRole_atomic id) (fun ⟨hfound, hdb'⟩ => ?_)
        fun _ _ => Audit.record_logs _
      exact ⟨(Database.role?_some hfound).1, hdb'⟩
  | reassignRole accountId roleId =>
      refine Stages.whole_of_atomic (assign_atomic accountId roleId)
        (fun ⟨hfound, hrole, hknown, hdb'⟩ => ?_) fun _ _ => Audit.record_logs _
      refine ⟨_, hfound, hknown, ?_, hdb'⟩
      rw [← hrole]
      rfl

/-- Every command loads the role again whose rules it may have touched. -/
theorem stages_tracked (caller : Caller) (c : Command) : (c.stages caller).Tracked :=
  (c.stages_whole caller).tracked (c.stages_touches caller)

end Command

end Warrant.Mutation

/-! ## A sample -/

namespace Warrant.World

/-- The id of the one role of the sample. -/
def clerks : Uuid := Uuid.ofNat 1

/-- What the clerks of the sample may do. -/
def clerksMayRead : Permission where
  id := Uuid.ofNat 2
  roleId := clerks
  action := .ofTexts ["read"]
  subject := .ofTexts ["account"]
  fields := .null
  conditions := .null
  inverted := .bool false
  reason := .null
  createdAt := none

/-- What the clerks of the sample may be allowed to do too. -/
def clerksMayUpdate : RuleInput :=
  ⟨[.update], [.account], some ["email"], none, false, .null⟩

/-- A role with one permission and an account that holds it, nothing in the cache, and a choice of
the steps that fail. -/
def sample (faults : FaultPlan) : World where
  db := ⟨[⟨clerks, "clerks", none, none⟩], [clerksMayRead],
    [⟨Uuid.ofNat 3, .text "ada@example.org", .null, some clerks, .map []⟩], []⟩
  cache := RuleCache.empty
  clock := ⟨⟨0, some 0⟩, 1⟩
  issued := 0
  steps := 0
  faults := faults

theorem sample_shaped (faults : FaultPlan) : (sample faults).db.Shaped := by
  refine ⟨fun p hp => ?_, List.nodup_singleton _⟩
  rw [List.mem_singleton.mp hp]
  exact ⟨⟨["read"], rfl⟩, ⟨["account"], rfl⟩, ⟨none, rfl⟩, ⟨none, rfl⟩⟩

end Warrant.World

/-! ## All or nothing -/

namespace Warrant.Mutation.Command

/-- Whatever step of the database fails, a command that fails was refused and has changed neither
tables nor cache, and one that succeeds was carried out as a whole; the log may have one entry
more. A clock that cannot be read is no refusal, but leaves no trace either. -/
theorem execute_all_or_nothing (c : Command) (caller : Caller) (w : World)
    (hrows : ∀ p ∈ w.db.permissions, p.toTerms.Shaped) :
    match c.execute caller w with
    | (.ok result, w') => ∃ db₁, c.Writes w.db result db₁ ∧ db₁.Logged w'.db
    | (.error f, w') =>
        (w.clock.Runs → ∃ why, f = .refused why) ∧ w'.db = w.db ∧ w'.cache = w.cache := by
  have hwhole := c.stages_whole caller
  rw [c.execute_eq caller]
  split
  · next result w' hrun => exact hwhole.run_ok hrows hrun
  · next f w' hrun =>
      obtain ⟨hrefused, hstate⟩ := hwhole.run_error hrows hrun
      exact ⟨hrefused, World.state_eq.mp hstate⟩

/-- The clerks are deleted although the log cannot be written, and are all there if the commit
fails. -/
theorem execute_all_or_nothing_sample :
    (∃ db₁ : Database, (deleteRole World.clerks).Writes
        (World.sample (.on [.auditInsert])).db () db₁ ∧
      db₁.Logged ((deleteRole World.clerks).execute {} (World.sample (.on [.auditInsert]))).2.db) ∧
    ((deleteRole World.clerks).execute {} (World.sample (.on [.commit]))).2.db =
      (World.sample (.on [.commit])).db := by
  have hlost := execute_all_or_nothing (deleteRole World.clerks) {}
    (World.sample (.on [.auditInsert])) (World.sample_shaped _).rows
  have hfailed := execute_all_or_nothing (deleteRole World.clerks) {}
    (World.sample (.on [.commit])) (World.sample_shaped _).rows
  have hends : ((deleteRole World.clerks).execute {}
      (World.sample (.on [.auditInsert]))).1.isOk = true := by decide +kernel
  have hstops : ((deleteRole World.clerks).execute {}
      (World.sample (.on [.commit]))).1.isOk = false := by decide +kernel
  constructor
  · rcases hrun : (deleteRole World.clerks).execute {}
      (World.sample (.on [.auditInsert])) with ⟨f | result, w'⟩
    · rw [hrun] at hends
      cases hends
    · rw [hrun] at hlost
      exact hlost
  · rcases hrun : (deleteRole World.clerks).execute {}
      (World.sample (.on [.commit])) with ⟨f | result, w'⟩
    · rw [hrun] at hfailed
      exact hfailed.2.1
    · rw [hrun] at hstops
      cases hstops

end Warrant.Mutation.Command
