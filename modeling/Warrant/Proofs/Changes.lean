import Warrant.Mutation.Accounts
import Warrant.Mutation.Permissions
import Warrant.Mutation.Roles
import Warrant.Proofs.Loading

/-!
# What each change does to the tables

Seven changes are made one at a time, and each has a transaction at its heart.
What the transaction of each does is said here as one fact: it is atomic, and
when it succeeds the tables are what one write makes of them, and what the write
was about had been found in the tables before it.

A body reads first and writes last, so everything that it found is a fact about
the tables before the write. That is why the lemmas about bodies follow the run
of the body from its start and read the world off at each step: the reads leave
the tables as they were, and the write is the end.
-/

namespace Warrant.Mutation

variable {w w' : World}

/-! ## Permissions -/

/-- What the transaction that adds a permission does. -/
def insertBody (roleId : Uuid) (rule : RuleInput) : Work Permission := do
  let _ ← Store.existingRole roleId
  let id ← Work.drawId
  let createdAt ← Work.readClock
  let p := rule.toPermission id roleId createdAt
  Store.insertPermission p
  return p

theorem insertBody_ok {roleId : Uuid} {rule : RuleInput} {p : Permission}
    (h : insertBody roleId rule w = (.ok p, w')) :
    w.db.hasRole roleId = true ∧ (∃ id createdAt, p = rule.toPermission id roleId createdAt) ∧
      w.db.insertPermission p = .ok w'.db := by
  obtain ⟨r, w₁, hrole, h⟩ := Work.bind_ok.mp h
  obtain ⟨hfound, hstate₁⟩ := Store.existingRole_ok hrole
  obtain ⟨id, w₂, hid, h⟩ := Work.bind_ok.mp h
  obtain ⟨createdAt, w₃, hclock, h⟩ := Work.bind_ok.mp h
  obtain ⟨_, w₄, hwrite, h⟩ := Work.bind_ok.mp h
  obtain ⟨rfl, rfl⟩ := Work.pure_ok.mp h
  have hstate₂ := Work.Keeps.drawId.after hid
  have hstate₃ := Work.Keeps.readClock.after hclock
  have hdb := (World.state_eq.mp ((hstate₃.trans hstate₂).trans hstate₁)).1
  obtain ⟨hwrite, -⟩ := Work.write_ok hwrite
  rw [hdb] at hwrite
  exact ⟨(Database.role?_some hfound).1, ⟨id, createdAt, rfl⟩, hwrite⟩

theorem insert_atomic (roleId : Uuid) (rule : RuleInput) :
    Work.Atomic (insert roleId rule) fun db p db' =>
      db.hasRole roleId = true ∧ (∃ id createdAt, p = rule.toPermission id roleId createdAt) ∧
        db.insertPermission p = .ok db' := by
  have hkeeps : Work.Keeps World.cache (insertBody roleId rule) :=
    Work.Keeps.bind (Store.existingRole_keeps roleId).cache fun _ =>
      Work.Keeps.bind Work.Keeps.drawId.cache fun _ =>
        Work.Keeps.bind Work.Keeps.readClock.cache fun _ =>
          Work.Keeps.bind (Work.Keeps.write _ _) fun _ => Work.Keeps.pure _
  exact Work.Atomic.transaction hkeeps insertBody_ok

/-- What the transaction that removes a permission does, once the role is read. -/
def eraseFrom (roleId permissionId : Uuid) : Option Permission → Work Permission
  | none => Work.refuse (.missing (.permission roleId permissionId))
  | some p => do
      Store.deletePermission p.id
      return p

/-- What the transaction that removes a permission does. -/
def eraseBody (roleId permissionId : Uuid) : Work Permission := do
  let role ← Store.existingRole roleId
  eraseFrom roleId permissionId (role.permissions.find? fun p => p.id = permissionId)

theorem eraseBody_ok {roleId permissionId : Uuid} {p : Permission}
    (h : eraseBody roleId permissionId w = (.ok p, w')) :
    p ∈ w.db.permissionsOf roleId ∧ p.id = permissionId ∧
      w'.db = w.db.deletePermission permissionId := by
  obtain ⟨role, w₁, hrole, h⟩ := Work.bind_ok.mp h
  obtain ⟨hfound, hstate⟩ := Store.existingRole_ok hrole
  cases hq : role.permissions.find? fun p => p.id = permissionId with
  | none =>
      rw [hq] at h
      exact absurd h Work.refuse_ok
  | some q =>
      rw [hq] at h
      obtain ⟨_, w₂, hwrite, h⟩ := Work.bind_ok.mp h
      obtain ⟨rfl, rfl⟩ := Work.pure_ok.mp h
      have hid : q.id = permissionId := by simpa using List.find?_some hq
      have hmem := List.mem_of_find?_eq_some hq
      rw [(Database.role?_some hfound).2.2] at hmem
      obtain ⟨hwrite, -⟩ := Work.write_ok hwrite
      rw [Except.ok.injEq, (World.state_eq.mp hstate).1, hid] at hwrite
      exact ⟨hmem, hid, hwrite.symm⟩

theorem erase_atomic (roleId permissionId : Uuid) :
    Work.Atomic (erase roleId permissionId) fun db p db' =>
      p ∈ db.permissionsOf roleId ∧ p.id = permissionId ∧
        db' = db.deletePermission permissionId := by
  have hkeeps : Work.Keeps World.cache (eraseBody roleId permissionId) := by
    refine Work.Keeps.bind (Store.existingRole_keeps roleId).cache fun role => ?_
    cases role.permissions.find? fun p => p.id = permissionId with
    | none => exact Work.Keeps.refuse _
    | some p => exact Work.Keeps.bind (Work.Keeps.write _ _) fun _ => Work.Keeps.pure _
  exact Work.Atomic.transaction hkeeps eraseBody_ok

/-- The change of a permission in place, as it was read. -/
def revise (roleId permissionId : Uuid) (change : RuleChange) :
    Work (List (String × Value) × Permission) :=
  Work.asMutation (.updatePermission permissionId) <| Work.transact do
    let p ← readForChange roleId permissionId
    writeChange change p

theorem readForChange_keeps (roleId permissionId : Uuid) :
    Work.Keeps World.state (readForChange roleId permissionId) := by
  refine Work.Keeps.bind (Store.permission_answers permissionId).keeps fun found => ?_
  cases found with
  | none => exact Work.Keeps.refuse _
  | some p =>
      dsimp only
      split
      · exact Work.Keeps.pure p
      · exact Work.Keeps.refuse _

theorem readForChange_ok {roleId permissionId : Uuid} {p : Permission}
    (h : readForChange roleId permissionId w = (.ok p, w')) :
    w.db.permission? permissionId = some p ∧ p.roleId = roleId ∧ w'.state = w.state := by
  have hkeep := (readForChange_keeps roleId permissionId).after h
  obtain ⟨found, w₁, hread, h⟩ := Work.bind_ok.mp h
  rw [← (Store.permission_answers permissionId).result hread]
  cases found with
  | none => exact absurd h Work.refuse_ok
  | some q =>
      dsimp only at h
      split at h
      · next hrole =>
          obtain ⟨rfl, -⟩ := Work.pure_ok.mp h
          exact ⟨rfl, hrole, hkeep⟩
      · exact absurd h Work.refuse_ok

theorem writeChange_ok {change : RuleChange} {p q : Permission} {before : List (String × Value)}
    (h : writeChange change p w = (.ok (before, q), w')) :
    p.snapshot = .ok before ∧
      (∃ terms, change.apply p.toTerms = .ok terms ∧ q = { p with toTerms := terms }) ∧
      w.db.updatePermission q = .ok w'.db := by
  obtain ⟨snapshot, w₁, hrun₁, h⟩ := Work.bind_ok.mp h
  obtain ⟨hbefore, rfl⟩ := Work.ofFault_ok.mp hrun₁
  obtain ⟨terms, w₂, hrun₂, h⟩ := Work.bind_ok.mp h
  obtain ⟨hterms, rfl⟩ := Work.ofFault_ok.mp hrun₂
  obtain ⟨_, w₃, hwrite, h⟩ := Work.bind_ok.mp h
  obtain ⟨heq, rfl⟩ := Work.pure_ok.mp h
  obtain ⟨rfl, rfl⟩ := Prod.mk.inj heq
  exact ⟨hbefore, ⟨terms, hterms, rfl⟩, (Work.write_ok hwrite).1⟩

/-- If no step fails, a permission of the role is read. -/
theorem readForChange_apply (hsound : w.faults = FaultPlan.none) {roleId permissionId : Uuid}
    {p : Permission} (hfound : w.db.permission? permissionId = some p) (hrole : p.roleId = roleId) :
    ∃ w', readForChange roleId permissionId w = (.ok p, w') ∧ w'.db = w.db ∧
      w'.faults = FaultPlan.none := by
  refine ⟨{ w with steps := w.steps + 1 }, ?_, rfl, hsound⟩
  unfold readForChange Store.permission
  rw [Work.bind_apply, Work.query_apply hsound, hfound]
  dsimp only
  rw [if_pos hrole]
  rfl

/-- If no step fails, what can be shown, changed and stored is written. -/
theorem writeChange_apply (hsound : w.faults = FaultPlan.none) {change : RuleChange}
    {p : Permission} {before : List (String × Value)} {terms : Terms} {db : Database}
    (hbefore : p.snapshot = .ok before) (hterms : change.apply p.toTerms = .ok terms)
    (hwrite : w.db.updatePermission { p with toTerms := terms } = .ok db) :
    ∃ w', writeChange change p w = (.ok (before, { p with toTerms := terms }), w') ∧
      w'.faults = FaultPlan.none := by
  refine ⟨{ w with db, steps := w.steps + 1 }, ?_, hsound⟩
  unfold writeChange Store.updatePermission
  rw [hbefore, hterms]
  show (Work.write .permissionUpdate _ >>= fun _ => pure _) w = _
  rw [Work.bind_apply, Work.write_apply hsound _ hwrite]
  rfl

theorem revise_atomic (roleId permissionId : Uuid) (change : RuleChange) :
    Work.Atomic (revise roleId permissionId change) fun db done db' =>
      ∃ p, db.permission? permissionId = some p ∧ p.roleId = roleId ∧
        p.snapshot = .ok done.1 ∧
        (∃ terms, change.apply p.toTerms = .ok terms ∧ done.2 = { p with toTerms := terms }) ∧
        db.updatePermission done.2 = .ok db' := by
  refine Work.Atomic.transaction ?_ fun h => ?_
  · exact Work.Keeps.bind (readForChange_keeps roleId permissionId).cache fun p =>
      Work.Keeps.bind (Work.Keeps.ofFault _) fun _ => Work.Keeps.bind (Work.Keeps.ofFault _) fun _ =>
        Work.Keeps.bind (Work.Keeps.write _ _) fun _ => Work.Keeps.pure _
  · obtain ⟨p, w₁, hread, h⟩ := Work.bind_ok.mp h
    obtain ⟨hfound, hrole, hstate⟩ := readForChange_ok hread
    obtain ⟨hbefore, hterms, hwrite⟩ := writeChange_ok h
    rw [(World.state_eq.mp hstate).1] at hwrite
    exact ⟨p, hfound, hrole, hbefore, hterms, hwrite⟩

/-! ## Roles -/

/-- What the transaction that adds a role does. -/
def insertRoleBody (r : Role) : Work Unit := do
  if (← Store.roleNamed (.text r.name)).isSome then
    Work.refuse (.invalid (.nameTaken r.name))
  else Store.insertRole r

theorem insertRole_atomic (r : Role) :
    Work.Atomic (insertRole r) fun db _ db' =>
      db.insertRole ⟨r.id, r.name, r.description, r.createdAt⟩ = .ok db' := by
  have hkeeps : Work.Keeps World.cache (insertRoleBody r) := by
    refine Work.Keeps.bind (Store.roleNamed_answers _).keeps.cache fun found => ?_
    split
    · exact Work.Keeps.refuse _
    · exact Work.Keeps.write _ _
  refine Work.Atomic.transaction hkeeps fun h => ?_
  obtain ⟨found, w₁, hread, h⟩ := Work.bind_ok.mp h
  have hstate := (Store.roleNamed_answers _).state hread
  split at h
  · exact absurd h Work.refuse_ok
  · have hwrite := (Work.write_ok h).1
    rw [(World.state_eq.mp hstate).1] at hwrite
    exact hwrite

/-- If no step fails, the table is asked for the name first, and that decides. -/
theorem insertRoleBody_apply (hsound : w.faults = FaultPlan.none) (r : Role) :
    ∃ w₁, insertRoleBody r w =
        (if ((w.db.roleNamed? r.name).bind w.db.role?).isSome then
          Work.refuse (.invalid (.nameTaken r.name))
        else Store.insertRole r) w₁ ∧
      w₁.db = w.db ∧ w₁.faults = FaultPlan.none := by
  obtain ⟨w₁, hread, hsound₁⟩ := Store.roleNamed_apply hsound r.name
  have hstate := (Store.roleNamed_answers (.text r.name)).state hread
  exact ⟨w₁, Work.bind_of_ok hread, (World.state_eq.mp hstate).1, hsound₁⟩

theorem rename_keeps (r : Role) (name : String) : Work.Keeps World.state (rename r name) := by
  unfold rename
  dsimp only
  split
  · exact Work.Keeps.refuse _
  · refine Work.Keeps.bind (Store.roleNamed_answers _).keeps fun found => ?_
    split
    · split
      · exact Work.Keeps.pure _
      · exact Work.Keeps.refuse _
    · exact Work.Keeps.pure _

theorem rename_ok {r renamed : Role} {name : String} (h : rename r name w = (.ok renamed, w')) :
    renamed = { r with name := Text.trim name } ∧ Text.trim name ≠ "" := by
  unfold rename at h
  split at h
  · exact absurd h Work.refuse_ok
  · next hsome =>
      refine ⟨?_, hsome⟩
      obtain ⟨found, w₁, -, h⟩ := Work.bind_ok.mp h
      cases found with
      | none => exact (Work.pure_ok.mp h).1.symm
      | some other =>
          dsimp only at h
          split at h
          · exact (Work.pure_ok.mp h).1.symm
          · exact absurd h Work.refuse_ok

/-- The first half of an edit: the role under its new name, if one is given. -/
def renameIfGiven (old : Role) : Option String → Work Role
  | some name => rename old name
  | none => pure old

theorem renameIfGiven_keeps (old : Role) (name : Option String) :
    Work.Keeps World.state (renameIfGiven old name) := by
  cases name with
  | none => exact Work.Keeps.pure old
  | some name => exact rename_keeps old name

theorem renameIfGiven_ok {old renamed : Role} {name : Option String}
    (h : renameIfGiven old name w = (.ok renamed, w')) :
    renamed = { old with name := (name.map Text.trim).getD old.name } ∧
      ∀ given, name = some given → Text.trim given ≠ "" := by
  cases name with
  | none => exact ⟨(Work.pure_ok.mp h).1.symm, nofun⟩
  | some name =>
      obtain ⟨hrenamed, hsome⟩ := rename_ok h
      refine ⟨hrenamed, fun given hgiven => ?_⟩
      cases hgiven
      exact hsome

/-- What the transaction that edits a role does. -/
def editBody (id : Uuid) (name description : Option String) : Work (Role × Role) := do
  let old ← Store.existingRole id
  let renamed ← renameIfGiven old name
  let new := { renamed with description := description <|> renamed.description }
  Store.updateRole new
  return (old, new)

theorem editRole_eq (id : Uuid) (name description : Option String) :
    editRole id name description =
      Work.asMutation (.updateRole id) (Work.transact (editBody id name description)) := by
  cases name <;> rfl

theorem editBody_ok {id : Uuid} {name description : Option String} {old new : Role}
    (h : editBody id name description w = (.ok (old, new), w')) :
    w.db.role? id = some old ∧
      new = { old with
        name := (name.map Text.trim).getD old.name
        description := description <|> old.description } ∧
      w.db.updateRole id new.name new.description = .ok w'.db ∧
      ∀ given, name = some given → Text.trim given ≠ "" := by
  obtain ⟨r, w₁, hrole, h⟩ := Work.bind_ok.mp h
  obtain ⟨hfound, hstate⟩ := Store.existingRole_ok hrole
  obtain ⟨renamed, w₂, hrename, h⟩ := Work.bind_ok.mp h
  have hkeep := (renameIfGiven_keeps r name).after hrename
  obtain ⟨rfl, hsome⟩ := renameIfGiven_ok hrename
  obtain ⟨_, w₃, hwrite, h⟩ := Work.bind_ok.mp h
  obtain ⟨heq, rfl⟩ := Work.pure_ok.mp h
  obtain ⟨rfl, rfl⟩ := Prod.mk.inj heq
  obtain ⟨hwrite, -⟩ := Work.write_ok hwrite
  rw [(World.state_eq.mp (hkeep.trans hstate)).1] at hwrite
  dsimp only at hwrite
  rw [(Database.role?_some hfound).2.1] at hwrite
  exact ⟨hfound, rfl, hwrite, hsome⟩

theorem editRole_atomic (id : Uuid) (name description : Option String) :
    Work.Atomic (editRole id name description) fun db done db' =>
      db.role? id = some done.1 ∧
        done.2 = { done.1 with
          name := (name.map Text.trim).getD done.1.name
          description := description <|> done.1.description } ∧
        db.updateRole id done.2.name done.2.description = .ok db' ∧
        ∀ given, name = some given → Text.trim given ≠ "" := by
  rw [editRole_eq]
  refine Work.Atomic.transaction ?_ editBody_ok
  exact Work.Keeps.bind (Store.existingRole_keeps id).cache fun _ =>
    Work.Keeps.bind (renameIfGiven_keeps _ _).cache fun _ =>
      Work.Keeps.bind (Work.Keeps.write _ _) fun _ => Work.Keeps.pure _

theorem eraseRole_atomic (id : Uuid) :
    Work.Atomic (eraseRole id) fun db r db' =>
      db.role? id = some r ∧ db' = db.deleteRole id := by
  refine Work.Atomic.transaction ?_ fun h => ?_
  · exact Work.Keeps.bind (Store.existingRole_keeps id).cache fun _ =>
      Work.Keeps.bind (Work.Keeps.write _ _) fun _ => Work.Keeps.pure _
  · obtain ⟨r, w₁, hrole, h⟩ := Work.bind_ok.mp h
    obtain ⟨hfound, hstate⟩ := Store.existingRole_ok hrole
    obtain ⟨_, w₂, hwrite, h⟩ := Work.bind_ok.mp h
    obtain ⟨rfl, rfl⟩ := Work.pure_ok.mp h
    obtain ⟨hwrite, -⟩ := Work.write_ok hwrite
    rw [Except.ok.injEq, (World.state_eq.mp hstate).1] at hwrite
    exact ⟨hfound, hwrite.symm⟩

/-! ## Accounts -/

theorem newRole_keeps (roleId : Option Uuid) : Work.Keeps World.state (newRole roleId) := by
  cases roleId with
  | none => exact Work.Keeps.pure none
  | some id => exact Work.Keeps.bind (Store.existingRole_keeps id) fun r => Work.Keeps.pure (some r)

theorem newRole_ok {roleId : Option Uuid} {role : Option Role}
    (h : newRole roleId w = (.ok role, w')) :
    role = roleId.bind w.db.role? ∧ ∀ id, roleId = some id → w.db.hasRole id = true := by
  cases roleId with
  | none =>
      obtain ⟨rfl, -⟩ := Work.pure_ok.mp h
      exact ⟨rfl, fun id hid => absurd hid (by simp)⟩
  | some id =>
      obtain ⟨r, w₁, hrole, h⟩ := Work.bind_ok.mp h
      obtain ⟨rfl, -⟩ := Work.pure_ok.mp h
      have hfound := (Store.existingRole_ok hrole).1
      refine ⟨hfound.symm, fun other hother => ?_⟩
      cases hother
      exact (Database.role?_some hfound).1

/-- What the transaction that gives an account another role does, once the account is read. -/
def assignTo (accountId : Uuid) (roleId : Option Uuid) :
    Option Account → Work (Account × Option Role)
  | none => Work.refuse (.missing (.account accountId))
  | some account => do
      let role ← newRole roleId
      Store.setAccountRole accountId roleId
      return (account, role)

/-- What the transaction that gives an account another role does. -/
def assignBody (accountId : Uuid) (roleId : Option Uuid) : Work (Account × Option Role) := do
  let found ← Store.account accountId
  assignTo accountId roleId found

theorem assignBody_ok {accountId : Uuid} {roleId : Option Uuid} {account : Account}
    {role : Option Role} (h : assignBody accountId roleId w = (.ok (account, role), w')) :
    w.db.account? accountId = some account ∧ role = roleId.bind w.db.role? ∧
      (∀ id, roleId = some id → w.db.hasRole id = true) ∧
      w'.db = w.db.setAccountRole accountId roleId := by
  obtain ⟨found, w₁, hread, h⟩ := Work.bind_ok.mp h
  have hfound := (Store.account_answers accountId).result hread
  have hstate := (Store.account_answers accountId).state hread
  cases found with
  | none => exact absurd h Work.refuse_ok
  | some found =>
      obtain ⟨given, w₂, hrole, h⟩ := Work.bind_ok.mp h
      have hkeep := (newRole_keeps roleId).after hrole
      obtain ⟨hgiven, hknown⟩ := newRole_ok hrole
      obtain ⟨_, w₃, hwrite, h⟩ := Work.bind_ok.mp h
      obtain ⟨heq, rfl⟩ := Work.pure_ok.mp h
      obtain ⟨rfl, rfl⟩ := Prod.mk.inj heq
      obtain ⟨hwrite, -⟩ := Work.write_ok hwrite
      rw [Except.ok.injEq, (World.state_eq.mp (hkeep.trans hstate)).1] at hwrite
      rw [(World.state_eq.mp hstate).1] at hgiven hknown
      exact ⟨hfound.symm, hgiven, hknown, hwrite.symm⟩

/-- If no step fails, an account that is there is given a role that is there. -/
theorem assignBody_apply (hsound : w.faults = FaultPlan.none) {accountId : Uuid}
    {roleId : Option Uuid} {account : Account} (haccount : w.db.account? accountId = some account)
    (hroles : ∀ id, roleId = some id → w.db.hasRole id = true) :
    ∃ done w', assignBody accountId roleId w = (.ok done, w') ∧ w'.faults = FaultPlan.none := by
  have hread : Store.account accountId w =
      (.ok (some account), { w with steps := w.steps + 1 }) := by
    rw [← haccount]
    exact Work.query_apply hsound _ _
  obtain ⟨role, w₁, hrole, hsound₁⟩ : ∃ role w₁,
      newRole roleId { w with steps := w.steps + 1 } = (.ok role, w₁) ∧
        w₁.faults = FaultPlan.none := by
    cases roleId with
    | none => exact ⟨none, _, rfl, hsound⟩
    | some id =>
        obtain ⟨r, w₁, hr, hsound₁⟩ := Store.existingRole_apply
          (show ({ w with steps := w.steps + 1 } : World).faults = FaultPlan.none from hsound)
          (hroles id rfl)
        refine ⟨some r, w₁, ?_, hsound₁⟩
        unfold newRole
        dsimp only
        rw [Work.bind_of_ok hr]
        rfl
  have hwrite : Store.setAccountRole accountId roleId w₁ =
      (.ok (), { w₁ with db := w₁.db.setAccountRole accountId roleId, steps := w₁.steps + 1 }) :=
    Work.write_apply hsound₁ _ rfl
  refine ⟨(account, role),
    { w₁ with db := w₁.db.setAccountRole accountId roleId, steps := w₁.steps + 1 }, ?_, hsound₁⟩
  unfold assignBody assignTo
  rw [Work.bind_of_ok hread]
  dsimp only
  rw [Work.bind_of_ok hrole, Work.bind_of_ok hwrite]
  rfl

theorem assign_atomic (accountId : Uuid) (roleId : Option Uuid) :
    Work.Atomic (assign accountId roleId) fun db done db' =>
      db.account? accountId = some done.1 ∧ done.2 = roleId.bind db.role? ∧
        (∀ id, roleId = some id → db.hasRole id = true) ∧
        db' = db.setAccountRole accountId roleId := by
  have hkeeps : Work.Keeps World.cache (assignBody accountId roleId) := by
    refine Work.Keeps.bind (Store.account_answers accountId).keeps.cache fun found => ?_
    cases found with
    | none => exact Work.Keeps.refuse _
    | some account =>
        exact Work.Keeps.bind (newRole_keeps roleId).cache fun _ =>
          Work.Keeps.bind (Work.Keeps.write _ _) fun _ => Work.Keeps.pure _
  exact Work.Atomic.transaction hkeeps assignBody_ok

theorem assign_apply (hsound : w.faults = FaultPlan.none) {accountId : Uuid}
    {roleId : Option Uuid} {account : Account} (haccount : w.db.account? accountId = some account)
    (hroles : ∀ id, roleId = some id → w.db.hasRole id = true) :
    ∃ done w', assign accountId roleId w = (.ok done, w') := by
  have hopen : ({ w with steps := w.steps + 1 } : World).faults = FaultPlan.none := hsound
  obtain ⟨done, w₁, hbody, hsound₁⟩ := assignBody_apply hopen haccount hroles
  exact ⟨done, _, Work.asMutation_ok.mpr (Work.transact_apply hsound hbody hsound₁)⟩

end Warrant.Mutation
