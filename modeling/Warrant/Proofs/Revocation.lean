import Warrant.Proofs.Coherence
import Warrant.Proofs.Effects
import Warrant.Proofs.Writers

/-!
# A deleted role is gone at once

When a role is deleted its rules are to leave the cache, but loading can fail,
and then they stay there for as long as no later load succeeds. This does not
let anyone in. A check starts from the account as it is in the tables, and there
it has no role any more: the tables take the role from every account that had it
when they delete it.

So what has to be kept over all that happens later is a property of the tables,
and the cache is not part of it. An account without a role stays without one
until it is given another, and it is only ever given one that is there. The role
that was deleted is not there, unless another is created under its identifier.
-/

namespace Warrant

namespace Mutation.Command

/-- A command whose record is made without reading a row either succeeds as a whole, whatever
becomes of the reload and of the record, or fails and leaves no trace. -/
theorem carried_out (caller : Caller) (c : Command)
    (hlogs : ∀ done, Work.Logs ((c.stages caller).close done)) (w : World) :
    (∃ result w', c.execute caller w = (.ok result, w') ∧
      ∃ db log, c.Writes w.db result db ∧ w'.db = db.withLog log) ∨
    (c.execute caller w).1.isOk = false ∧ (c.execute caller w).2.state = w.state := by
  have hwhole := c.stages_whole caller
  rw [c.execute_eq caller]
  rcases hchange : (c.stages caller).change w with ⟨f | done, w₁⟩
  · rw [Stages.run_of_error hchange]
    exact Or.inr ⟨rfl, (hwhole.error hchange).2⟩
  · rw [Stages.run_of_ok hchange (hlogs done)]
    obtain ⟨log, hlog⟩ := ((hlogs done).log (Stages.reload
      ((c.stages caller).touched done) w₁).2).withLog
    rw [Stages.reload_db] at hlog
    exact Or.inl ⟨_, _, rfl, w₁.db, log, (hwhole.ok hchange).1, hlog⟩

theorem deleteRole_writes {id : Uuid} {caller : Caller} {w w' : World}
    (h : Mutation.deleteRole id caller w = (.ok (), w')) :
    w.db.hasRole id = true ∧ ∃ log, w'.db = (w.db.deleteRole id).withLog log := by
  rcases (deleteRole id).carried_out caller (fun _ => Audit.record_logs _) w with
    ⟨result, w₁, hrun, db, log, ⟨hrole, rfl⟩, hdb⟩ | ⟨hfails, -⟩
  · rw [show (deleteRole id).execute caller w = (.ok (), w') from h] at hrun
    cases hrun
    exact ⟨hrole, log, hdb⟩
  · rw [show (deleteRole id).execute caller w = (.ok (), w') from h] at hfails
    cases hfails

/-- A role that is not there is given to no account. -/
theorem reassignRole_fails {accountId roleId : Uuid} {caller : Caller} {w : World}
    (h : w.db.hasRole roleId = false) :
    (Mutation.reassignRole accountId (some roleId) caller w).1.isOk = false := by
  rcases (reassignRole accountId (some roleId)).carried_out caller
    (fun _ => Audit.record_logs _) w with ⟨-, -, -, -, -, ⟨-, -, hknown, -⟩, -⟩ | ⟨hfails, -⟩
  · rw [hknown roleId rfl] at h
    cases h
  · exact hfails

end Mutation.Command

/-! ## What is kept in the tables -/

namespace Database

/-- The account with an id, if there is one, has no role. -/
def Roleless (db : Database) (id : Uuid) : Prop :=
  ∀ row ∈ db.accounts, row.id = id → row.roleId = none

/-- There is no role with an id, and no account has it. -/
structure Without (db : Database) (roleId : Uuid) : Prop where
  role : db.hasRole roleId = false
  accounts : ∀ row ∈ db.accounts, row.roleId ≠ some roleId

variable {db db' : Database} {id roleId : Uuid}

/-- Deleting a role takes it from whoever had it. -/
theorem deleteRole_roleless (hkeys : (db.accounts.map AccountRow.id).Nodup) {row : AccountRow}
    (hrow : row ∈ db.accounts) (hheld : row.roleId = some roleId) :
    (db.deleteRole roleId).Roleless row.id := by
  intro other hother hid
  obtain ⟨before, hbefore, rfl⟩ := List.mem_map.mp hother
  -- Identifiers are keys, so this is the row that had the role.
  have hsame : before = row := by
    refine List.inj_on_of_nodup_map hkeys hbefore hrow ?_
    rw [← hid]
    split <;> rfl
  rw [hsame, if_pos hheld]

theorem deleteRole_without (db : Database) (roleId : Uuid) :
    (db.deleteRole roleId).Without roleId := by
  refine ⟨Bool.eq_false_iff.mpr fun hrole => ?_, fun row hrow => ?_⟩
  · obtain ⟨row, hrow, hid⟩ := hasRole_iff.mp hrole
    exact of_decide_eq_true (List.mem_filter.mp hrow).2 hid
  · obtain ⟨before, -, rfl⟩ := List.mem_map.mp hrow
    split
    · exact nofun
    · next hother => exact hother

end Database

namespace Mutation.Command

variable {c : Command} {db db' : Database} {result : c.Result} {id roleId : Uuid}

/-- What a command may do beside changing permissions: a role is added, or called something else, or
deleted, or an account is given another role, which is there, or none. -/
theorem Writes.beside (h : c.Writes db result db') :
    (∃ permissions, db' = { db with permissions }) ∨
    (∃ name description row, c = createRole name description ∧
      db' = { db with roles := db.roles ++ [row] }) ∨
    (∃ other name description, db' = { db with roles := db.roles.map fun row =>
      if row.id = other then { row with name, description } else row }) ∨
    (∃ other, db' = db.deleteRole other) ∨
    ∃ accountId given, c = reassignRole accountId given ∧
      (∀ r, given = some r → db.hasRole r = true) ∧ db' = db.setAccountRole accountId given := by
  cases c with
  | addPermission other rule =>
      obtain ⟨-, -, hinsert⟩ := h
      obtain ⟨row, -, -, rfl⟩ := Database.insertPermission_ok hinsert
      exact Or.inl ⟨_, rfl⟩
  | removePermission other permissionId =>
      obtain ⟨-, -, rfl⟩ := h
      exact Or.inl ⟨_, rfl⟩
  | updatePermission other permissionId change =>
      obtain ⟨old, terms, -, -, -, -, hupdate⟩ := h
      obtain ⟨row, -, rfl⟩ := Database.updatePermission_ok hupdate
      exact Or.inl ⟨_, rfl⟩
  | createRole name description =>
      obtain ⟨-, -, -, hinsert⟩ := h
      obtain ⟨-, rfl⟩ := Database.insertRole_ok hinsert
      exact Or.inr (Or.inl ⟨name, description, _, rfl, rfl⟩)
  | updateRole other name description =>
      obtain ⟨old, name?, description?, -, -, -, -, hupdate⟩ := h
      exact Or.inr (Or.inr (Or.inl ⟨other, _, _, Database.updateRole_ok hupdate⟩))
  | deleteRole other =>
      obtain ⟨-, rfl⟩ := h
      exact Or.inr (Or.inr (Or.inr (Or.inl ⟨other, rfl⟩)))
  | reassignRole accountId given =>
      obtain ⟨old, -, hknown, -, rfl⟩ := h
      exact Or.inr (Or.inr (Or.inr (Or.inr ⟨accountId, given, rfl, hknown, rfl⟩)))

/-- Where the role of an account comes from: the account had it, or was given it, and then the role
was there. All accounts were there before. -/
theorem Writes.account (h : c.Writes db result db') : ∀ row ∈ db'.accounts,
    ∃ before ∈ db.accounts, before.id = row.id ∧ (row.roleId = before.roleId ∨ row.roleId = none ∨
      ∃ given, c = reassignRole row.id (some given) ∧ row.roleId = some given ∧
        db.hasRole given = true) := by
  intro row hrow
  rcases h.beside with ⟨permissions, rfl⟩ | ⟨name, description, added, -, rfl⟩ |
    ⟨other, name, description, rfl⟩ | ⟨other, rfl⟩ | ⟨accountId, given, rfl, hknown, rfl⟩
  · exact ⟨row, hrow, rfl, Or.inl rfl⟩
  · exact ⟨row, hrow, rfl, Or.inl rfl⟩
  · exact ⟨row, hrow, rfl, Or.inl rfl⟩
  · obtain ⟨before, hbefore, rfl⟩ := List.mem_map.mp hrow
    split
    · exact ⟨before, hbefore, rfl, Or.inr (Or.inl rfl)⟩
    · exact ⟨before, hbefore, rfl, Or.inl rfl⟩
  · obtain ⟨before, hbefore, rfl⟩ := List.mem_map.mp hrow
    split
    · next hid =>
        refine ⟨before, hbefore, rfl, Or.inr ?_⟩
        cases given with
        | none => exact Or.inl rfl
        | some given => exact Or.inr ⟨given, by rw [← hid], rfl, hknown given rfl⟩
    · exact ⟨before, hbefore, rfl, Or.inl rfl⟩

/-- Only creating a role makes one that was not there. -/
theorem Writes.role (h : c.Writes db result db') (hc : ∀ name description,
    c ≠ createRole name description) (hrole : db'.hasRole roleId = true) :
    db.hasRole roleId = true := by
  rcases h.beside with ⟨permissions, rfl⟩ | ⟨name, description, added, hcreate, -⟩ |
    ⟨other, name, description, rfl⟩ | ⟨other, rfl⟩ | ⟨accountId, given, -, -, rfl⟩
  · exact hrole
  · exact absurd hcreate (hc name description)
  · obtain ⟨row, hrow, hid⟩ := Database.hasRole_iff.mp hrole
    obtain ⟨before, hbefore, rfl⟩ := List.mem_map.mp hrow
    refine Database.hasRole_iff.mpr ⟨before, hbefore, ?_⟩
    rw [← hid]
    split <;> rfl
  · obtain ⟨row, hrow, hid⟩ := Database.hasRole_iff.mp hrole
    exact Database.hasRole_iff.mpr ⟨row, (List.mem_filter.mp hrow).1, hid⟩
  · exact hrole

/-- An account without a role is left without one by every command but one that gives it a role. -/
theorem Writes.roleless (h : c.Writes db result db')
    (hc : ∀ given, c ≠ reassignRole id (some given)) (hdb : db.Roleless id) : db'.Roleless id := by
  intro row hrow hid
  obtain ⟨before, hbefore, hsame, hrole | hrole | ⟨given, hgiven, -⟩⟩ := h.account row hrow
  · rw [hrole]
    exact hdb before hbefore (hsame.trans hid)
  · exact hrole
  · rw [hid] at hgiven
    exact absurd hgiven (hc given)

/-- A role that is not there does not come back, unless it is created. -/
theorem Writes.without (h : c.Writes db result db')
    (hrole : db'.hasRole roleId = true → db.hasRole roleId = true) (hdb : db.Without roleId) :
    db'.Without roleId := by
  refine ⟨Bool.eq_false_iff.mpr fun hnew => ?_, fun row hrow hheld => ?_⟩
  · have hold := hrole hnew
    rw [hdb.role] at hold
    cases hold
  · obtain ⟨before, hbefore, -, hsame | hnone | ⟨given, -, hgiven, hknown⟩⟩ := h.account row hrow
    · exact hdb.accounts before hbefore (hsame.symm.trans hheld)
    · cases hnone.symm.trans hheld
    · cases hgiven.symm.trans hheld
      rw [hdb.role] at hknown
      cases hknown

end Mutation.Command

/-! ## Over a whole period -/

/-- A bulk run adds or removes permissions, so any other command is made by itself. -/
theorem Mutation.Operation.Makes.eq_one {op : Mutation.Operation} {c : Mutation.Command}
    (h : op.Makes c) (hadd : ∀ roleId rule, c ≠ .addPermission roleId rule)
    (hremove : ∀ roleId id, c ≠ .removePermission roleId id) : op = .one c := by
  cases op with
  | one made => rw [show c = made from h]
  | addPermissions roleId rules =>
      obtain ⟨-, -, -, -, rule, -, heq⟩ := h
      exact absurd heq (hadd roleId rule)
  | removePermissions roleId ids =>
      obtain ⟨id, -, heq⟩ := h
      exact absurd heq (hremove roleId id)

namespace Deed

/-- The operation gives an account a role. -/
def Assigns (d : Deed) (id : Uuid) : Prop :=
  ∃ given, d.op = .one (.reassignRole id (some given)) ∧ (d.endsIn d.world).1.isOk = true

/-- The operation creates a role with an id. -/
def Creates (d : Deed) (roleId : Uuid) : Prop :=
  ∃ name description role w', d.op = .one (.createRole name description) ∧
    Mutation.createRole name description d.caller d.world = (.ok role, w') ∧ role.id = roleId

variable {d : Deed} {id roleId : Uuid}

theorem roleless (hd : ¬ d.Assigns id) (hbefore : d.world.db.Roleless id) :
    (d.endsIn d.world).2.db.Roleless id := by
  obtain ⟨op, caller, w⟩ := d
  by_cases hgives : ∃ given, op = .one (.reassignRole id (some given))
  -- If this was meant to give the account a role it did not succeed, and then it did nothing.
  · obtain ⟨given, rfl⟩ := hgives
    rcases (Mutation.Command.reassignRole id (some given)).carried_out caller
      (fun _ => Audit.record_logs _) w with ⟨result, w', hrun, -⟩ | ⟨-, hstate⟩
    · refine absurd ⟨given, rfl, ?_⟩ hd
      show ((Mutation.Command.reassignRole id (some given)).execute caller w).1.isOk = true
      rw [hrun]
      rfl
    · show ((Mutation.Command.reassignRole id (some given)).execute caller w).2.db.Roleless id
      rw [(World.state_eq.mp hstate).1]
      exact hbefore
  · refine op.execute_keeping (I := fun db => db.Roleless id) (fun h => h) caller
      (fun c hc _ _ _ hwrites => hwrites.roleless fun given heq => hgives ⟨given, ?_⟩) hbefore
    subst heq
    exact hc.eq_one nofun nofun

theorem without (hd : ¬ d.Creates roleId) (hbefore : d.world.db.Without roleId) :
    (d.endsIn d.world).2.db.Without roleId := by
  obtain ⟨op, caller, w⟩ := d
  by_cases hcreates : ∃ name description, op = .one (.createRole name description)
  · obtain ⟨name, description, rfl⟩ := hcreates
    show ((Mutation.Command.createRole name description).execute caller w).2.db.Without roleId
    rcases (Mutation.Command.createRole name description).carried_out caller
      (fun _ => Audit.record_logs _) w with ⟨role, w', hrun, db, log, hwrites, hdb⟩ | ⟨-, hstate⟩
    · have hfresh : role.id ≠ roleId := fun hid => hd ⟨name, description, role, w', rfl, hrun, hid⟩
      rw [hrun, hdb]
      have hkept : db.Without roleId := by
        refine hwrites.without (fun hrole => ?_) hbefore
        obtain ⟨-, -, -, hinsert⟩ := hwrites
        obtain ⟨-, rfl⟩ := Database.insertRole_ok hinsert
        obtain ⟨row, hrow, hid⟩ := Database.hasRole_iff.mp hrole
        rcases List.mem_append.mp hrow with hrow | hrow
        · exact Database.hasRole_iff.mpr ⟨row, hrow, hid⟩
        · rw [List.mem_singleton.mp hrow] at hid
          exact absurd hid hfresh
      exact ⟨hkept.role, hkept.accounts⟩
    · rw [(World.state_eq.mp hstate).1]
      exact hbefore
  · refine op.execute_keeping (I := fun db => db.Without roleId) (fun h => ⟨h.role, h.accounts⟩)
      caller (fun c hc _ _ _ hwrites => hwrites.without (hwrites.role ?_)) hbefore
    intro name description heq
    subst heq
    exact hcreates ⟨name, description, hc.eq_one nofun nofun⟩

end Deed

namespace Period

variable {w w' : World} {events : List Event} {id roleId : Uuid}

theorem roleless (h : Period w events w') (hassigns : ∀ d, .operation d ∈ events → ¬ d.Assigns id)
    (hw : w.db.Roleless id) : w'.db.Roleless id :=
  h.keeping (I := fun db => db.Roleless id) (fun hdb => hdb)
    (fun d hd hbefore => Deed.roleless (hassigns d hd) hbefore) hw

theorem without (h : Period w events w')
    (hcreates : ∀ d, .operation d ∈ events → ¬ d.Creates roleId) (hw : w.db.Without roleId) :
    w'.db.Without roleId :=
  h.keeping (I := fun db => db.Without roleId) (fun hdb => ⟨hdb.role, hdb.accounts⟩)
    (fun d hd hbefore => Deed.without (hcreates d hd) hbefore) hw

end Period

/-! ## What an account without a role is let into -/

theorem RuleSource.permits_of_roleless (rules : RuleSource) {account : Account}
    (h : account.role = none) (action subject field : Value) :
    rules.permits account action subject field = false := by
  unfold permits compile
  rw [h]

namespace Database

variable {db : Database} {id : Uuid} {account : Account}

theorem Roleless.readAccount (h : db.Roleless id) {row : AccountRow} (hrow : row ∈ db.accounts)
    (hid : (db.readAccount row).id = .uuid id) : (db.readAccount row).role = none := by
  have hnone := h row hrow (Value.uuid.inj hid)
  unfold Database.readAccount
  dsimp only
  rw [hnone]
  rfl

theorem Roleless.account? (h : db.Roleless id) (haccount : db.account? id = some account) :
    account.role = none := by
  obtain ⟨row, hrow, rfl⟩ := Option.map_eq_some_iff.mp haccount
  refine h.readAccount (List.mem_of_find?_eq_some hrow) ?_
  have hid : row.id = id := by simpa using List.find?_some hrow
  exact congrArg Value.uuid hid

theorem Roleless.sentBy (h : db.Roleless id) {introspection : Option Http.Introspection}
    {req : Http.Request} (hsent : Http.Identity.SentBy introspection req db account)
    (hid : account.id = .uuid id) : account.role = none := by
  obtain ⟨token, ask, answer, name, -, -, -, -, hfound⟩ := hsent
  obtain ⟨externalId, -, hknown⟩ := Option.bind_eq_some_iff.mp hfound
  obtain ⟨row, hrow, rfl⟩ := Option.map_eq_some_iff.mp hknown
  exact h.readAccount (List.mem_of_find?_eq_some hrow) hid

end Database

/-- Nothing is open to an account: every check by its id is denied if it comes to an answer, and no
request under its token gets past the guard, except to what is for everyone, or changes anything. -/
structure World.ShutTo (w : World) (id : Uuid) : Prop where
  denied : ∀ action subject field b w', checkPermission id action subject field w = (.ok b, w') →
    b = false
  answered : w.faults = FaultPlan.none → ∀ action subject field,
    ∃ w', checkPermission id action subject field w = (.ok false, w')
  stopped : ∀ (app : Http.App) req account,
    Http.Identity.SentBy app.introspection req w.db account → account.id = .uuid id →
      (∀ user route requirement, app.Passes req w user route requirement →
        requirement.isPublic = true) ∧
      (app.handle req w).2.state = w.state

theorem Database.Roleless.denied {w w' : World} {id : Uuid} (h : w.db.Roleless id)
    {action subject field : Value} {b : Bool}
    (hcheck : checkPermission id action subject field w = (.ok b, w')) : b = false := by
  obtain ⟨found, w₁, hread, hcheck⟩ := Work.bind_ok.mp hcheck
  have hfound := (Store.account_answers id).transact.result hread
  cases found with
  | none => exact (Work.pure_ok.mp hcheck).1.symm
  | some account =>
      obtain ⟨rfl, -⟩ := Work.ask_ok.mp hcheck
      exact RuleSource.permits_of_roleless _ (h.account? hfound.symm) action subject field

/-- Whatever the cache holds, nothing is open to an account that has no role in the tables. -/
theorem Database.Roleless.shut {w : World} {id : Uuid} (h : w.db.Roleless id) : w.ShutTo id := by
  refine ⟨fun _ _ _ _ _ hcheck => h.denied hcheck, fun hsound action subject field => ?_,
    fun app req account hsent hid => ?_⟩
  · obtain ⟨b, w', hcheck⟩ := checkPermission_answers hsound id action subject field
    obtain rfl := h.denied hcheck
    exact ⟨w', hcheck⟩
  · have hclosed : ∀ user route requirement, app.Passes req w user route requirement →
        requirement.isPublic = true := by
      intro user route requirement hpasses
      by_contra hprivate
      obtain ⟨clearance, hcleared⟩ := hpasses.cleared
      obtain ⟨sender, s, rfl, -, hpermits⟩ :=
        Guard.authorize_ok (Bool.eq_false_iff.mpr hprivate) hcleared
      have hsender := Http.Identity.sentBy_of_authenticate (Prod.ext hpasses.sender rfl)
      obtain rfl := hsent.unique hsender
      rw [RuleSource.permits_of_roleless _ (h.sentBy hsent hid)] at hpermits
      cases hpermits
    refine ⟨hclosed, ?_⟩
    by_contra hchanged
    obtain ⟨hverb, user, route, requirement, hpasses⟩ := Http.App.passes_of_changed hchanged
    obtain ⟨sender, -, hcleared⟩ := Http.App.cleared_of_passes hverb hpasses hchanged
    have hpublic := hclosed user route requirement hpasses
    rw [hcleared.closed] at hpublic
    cases hpublic

/-- Once a role is deleted nothing is open any more to those who had it, whether or not its rules
could be loaded again and whatever happens from then on, for as long as they are not given another.
And unless a role is created under its identifier, no account has it or can be given it. -/
theorem Period.revoked {w w₁ w' : World} {events : List Event} {roleId : Uuid} {caller : Caller}
    (hkeys : (w.db.accounts.map AccountRow.id).Nodup)
    (hdelete : Mutation.deleteRole roleId caller w = (.ok (), w₁)) (h : Period w₁ events w') :
    (∀ row ∈ w.db.accounts, row.roleId = some roleId →
      (∀ d, .operation d ∈ events → ¬ d.Assigns row.id) → w'.ShutTo row.id) ∧
    ((∀ d, .operation d ∈ events → ¬ d.Creates roleId) → w'.db.Without roleId ∧
      ∀ accountId caller,
        (Mutation.reassignRole accountId (some roleId) caller w').1.isOk = false) := by
  obtain ⟨-, log, hdb⟩ := Mutation.Command.deleteRole_writes hdelete
  refine ⟨fun row hrow hheld hassigns => ?_, fun hcreates => ?_⟩
  · have hstart : w₁.db.Roleless row.id := by
      rw [hdb]
      exact Database.deleteRole_roleless hkeys hrow hheld
    exact (h.roleless hassigns hstart).shut
  · have hstart : w₁.db.Without roleId := by
      have hgone := w.db.deleteRole_without roleId
      rw [hdb]
      exact ⟨hgone.role, hgone.accounts⟩
    have hgone := h.without hcreates hstart
    exact ⟨hgone, fun _ _ => Mutation.Command.reassignRole_fails hgone.role⟩

/-- The sample with its rules in the cache, and a database that is out of reach for one step: the
one with which the rules of a deleted role begin to be loaded. -/
def World.sampleLosingTouch : World :=
  { World.sample (fun n _ => n == 5) with cache := (Reload.load none (World.sample .none)).2.cache }

/-- The clerks are deleted, but their rules cannot be loaded again and stay in the cache, also when
others are loaded. Another role is created, and the one account is to be a clerk again; it is not,
and nothing is open to it. -/
theorem Period.revoked_clerks : ∃ w₁ events w',
    Mutation.deleteRole World.clerks {} World.sampleLosingTouch = (.ok (), w₁) ∧
    Period w₁ events w' ∧ events.length = 3 ∧ (w'.cache.get? World.clerks).isSome = true ∧
    w'.ShutTo (Uuid.ofNat 3) ∧ w'.db.Without World.clerks := by
  obtain ⟨w₁, hw₁⟩ : ∃ w₁, w₁ = (Mutation.deleteRole World.clerks {} World.sampleLosingTouch).2 :=
    ⟨_, rfl⟩
  have hdelete : Mutation.deleteRole World.clerks {} World.sampleLosingTouch = (.ok (), w₁) :=
    Prod.ext (eq_ok_of_isOk (by decide +kernel)) hw₁.symm
  have hloaded := (Period.start w₁).cache (.invalidate (Uuid.ofNat 9))
  have hperiod := (hloaded.operation (.one (.createRole (.text "auditors") .null)) {}).operation
    (.one (.reassignRole (Uuid.ofNat 3) (some World.clerks))) {}
  have hkeys : (World.sampleLosingTouch.db.accounts.map AccountRow.id).Nodup :=
    List.nodup_singleton _
  obtain ⟨hshut, hgone⟩ := Period.revoked hkeys hdelete hperiod
  have hclerk := hshut ⟨Uuid.ofNat 3, .text "ada@example.org", .null, some World.clerks, .map []⟩
    (List.mem_singleton_self _) rfl
  refine ⟨_, _, _, hdelete, hperiod, rfl, ?_, hclerk ?_, (hgone ?_).1⟩
  · rw [hw₁]
    decide +kernel
  · intro d hd
    rcases List.mem_append.mp hd with hd | hd
    · rcases List.mem_append.mp hd with hd | hd
      · cases List.mem_singleton.mp hd
      · obtain rfl := Event.operation.inj (List.mem_singleton.mp hd)
        rintro ⟨given, hop, -⟩
        cases hop
    · obtain rfl := Event.operation.inj (List.mem_singleton.mp hd)
      rintro ⟨given, -, hok⟩
      rw [hw₁] at hok
      revert hok
      decide +kernel
  · intro d hd
    rcases List.mem_append.mp hd with hd | hd
    · rcases List.mem_append.mp hd with hd | hd
      · cases List.mem_singleton.mp hd
      · obtain rfl := Event.operation.inj (List.mem_singleton.mp hd)
        rintro ⟨name, description, role, w₂, hop, hrun, hid⟩
        cases hop
        have hfresh : (Mutation.createRole (.text "auditors") .null {}
            ((CacheStep.invalidate (Uuid.ofNat 9)).take w₁).2).1.toOption.map Role.id ≠
              some World.clerks := by
          rw [hw₁]
          decide +kernel
        rw [hrun] at hfresh
        exact hfresh (congrArg some hid)
    · obtain rfl := Event.operation.inj (List.mem_singleton.mp hd)
      rintro ⟨name, description, role, w₂, hop, -⟩
      cases hop

end Warrant
