import Warrant.Proofs.Effects
import Warrant.Proofs.Overwriting

/-!
# What operations leave alone

An operation that is addressed to a role may be given the id of any permission,
and three of the writes behind it go by that id alone. Whether anything of
another role can be reached this way is a matter of the checks before the write
and of the tables themselves: identifiers are keys, so the row with an id that
was found to be of the role is the only one with that id.

What the tables are after each operation is said by `Leaves`, in terms of the
tables before: where a row is added, which rows are gone, which row is different
and in what, and which accounts. From it follows what a run of operations on one
role leaves of the others, in the tables and, since only that role is loaded
again, in the cache.

Of the tables it is only assumed what they enforce by themselves. The rows may
say anything; in particular a change may be made to a permission that cannot be
shown in the log, and is then made although it is answered by a failure.
-/

namespace Warrant

/-! ## Rows as the tables hold them -/

/-- What a permission says as a row holds it: JSON in its columns and a truth value. -/
structure Terms.AtRest (t : Terms) : Prop where
  action : t.action.stored = .ok t.action
  subject : t.subject.stored = .ok t.subject
  fields : t.fields.stored = .ok t.fields
  conditions : t.conditions.stored = .ok t.conditions
  inverted : ∃ b, t.inverted = .bool b

namespace Database

/-- What the tables enforce by themselves: identifiers of permissions are keys, and each column
holds values of its kind. -/
structure Typed (db : Database) : Prop where
  keys : (db.permissions.map Permission.id).Nodup
  rows : ∀ p ∈ db.permissions, p.toTerms.AtRest

/-- The tables, apart from the log. -/
def tables (db : Database) : List RoleRow × List Permission × List AccountRow :=
  (db.roles, db.permissions, db.accounts)

variable {db db' : Database}

theorem tables_eq {roles : List RoleRow} {permissions : List Permission}
    {accounts : List AccountRow} : db.tables = (roles, permissions, accounts) ↔
      db.roles = roles ∧ db.permissions = permissions ∧ db.accounts = accounts := by
  rw [tables, Prod.mk.injEq, Prod.mk.injEq]

theorem stored_again {v w : Value} (h : v.stored = .ok w) : w.stored = .ok w :=
  Value.stored_eq_ok.mpr (Value.stored?_again (Value.stored_eq_ok.mp h))

/-- A row differs from the permission at most in the form of its JSON. -/
theorem storedPermission_parts {p row : Permission} (h : storedPermission p = .ok row) :
    ∃ action subject fields conditions, p.action.stored = .ok action ∧
      p.subject.stored = .ok subject ∧ p.fields.stored = .ok fields ∧
      p.conditions.stored = .ok conditions ∧
      row = { p with action, subject, fields, conditions } := by
  obtain ⟨action, haction, h⟩ := Fault.bind_ok.mp h
  obtain ⟨subject, hsubject, h⟩ := Fault.bind_ok.mp h
  obtain ⟨fields, hfields, h⟩ := Fault.bind_ok.mp h
  obtain ⟨conditions, hconditions, h⟩ := Fault.bind_ok.mp h
  cases h
  exact ⟨action, subject, fields, conditions, haction, hsubject, hfields, hconditions, rfl⟩

theorem storedPermission_atRest {p row : Permission} (hp : ∃ b, p.inverted = .bool b)
    (h : storedPermission p = .ok row) : row.toTerms.AtRest := by
  obtain ⟨action, subject, fields, conditions, haction, hsubject, hfields, hconditions, rfl⟩ :=
    storedPermission_parts h
  exact ⟨stored_again haction, stored_again hsubject, stored_again hfields,
    stored_again hconditions, hp⟩

/-- The row that a change makes of a row has every part as before that the change does not name. -/
theorem unnamed_part {parts : RuleEdits} {old row : Permission} (hold : old.toTerms.AtRest)
    (h : storedPermission { old with toTerms := RuleChange.applyEdits parts old.toTerms } = .ok row)
    {c : Terms.Part} (hc : parts.part c = none) : row.toTerms.part c = old.toTerms.part c := by
  obtain ⟨action, subject, fields, conditions, haction, hsubject, hfields, hconditions, rfl⟩ :=
    storedPermission_parts h
  unfold RuleChange.applyEdits at haction hsubject hfields hconditions
  dsimp only at haction hsubject hfields hconditions
  cases c with
  | action =>
      rw [Option.map_eq_none_iff.mp hc] at haction
      exact Except.ok.inj (haction.symm.trans hold.action)
  | subject =>
      rw [Option.map_eq_none_iff.mp hc] at hsubject
      exact Except.ok.inj (hsubject.symm.trans hold.subject)
  | fields =>
      rw [Option.map_eq_none_iff.mp hc] at hfields
      exact Except.ok.inj (hfields.symm.trans hold.fields)
  | conditions =>
      rw [Option.map_eq_none_iff.mp hc] at hconditions
      exact Except.ok.inj (hconditions.symm.trans hold.conditions)
  | inverted =>
      show (parts.inverted.map Value.bool).getD old.inverted = old.inverted
      rw [Option.map_eq_none_iff.mp hc]
      rfl
  | reason =>
      show parts.reason.getD old.reason = old.reason
      rw [show parts.reason = none from hc]
      rfl

end Database

/-! ## What each operation makes of the tables -/

/-- Terms after a change that differ at most in what the change names. -/
def RuleChange.SparesUnnamed (change : RuleChange) (t t' : Terms) : Prop :=
  ∀ parts, change = .edits parts → ∀ c, parts.part c = none → t'.part c = t.part c

namespace Mutation

/-- The tables after a command that was made, in terms of the tables before. -/
def Command.Leaves : Command → Database → Database → Prop
  | addPermission roleId _, db, db' => ∃ p, p.roleId = roleId ∧ db.hasPermission p.id = false ∧
      db'.tables = (db.roles, db.permissions ++ [p], db.accounts)
  | removePermission roleId id, db, db' =>
      (∃ p ∈ db.permissions, p.id = id) ∧ (∀ p ∈ db.permissions, p.id = id → p.roleId = roleId) ∧
        db'.tables = (db.roles, db.permissions.filter fun p => p.id ≠ id, db.accounts)
  | updatePermission roleId id change, db, db' =>
      ∃ old ∈ db.permissions, ∃ terms, old.id = id ∧ old.roleId = roleId ∧
        change.SparesUnnamed old.toTerms terms ∧
        db'.tables = (db.roles,
          db.permissions.map fun p => if p.id = id then { p with toTerms := terms } else p,
          db.accounts)
  | createRole .., db, db' => ∃ row, db.hasRole row.id = false ∧
      db'.tables = (db.roles ++ [row], db.permissions, db.accounts)
  | updateRole id _ _, db, db' => ∃ name description,
      db'.tables = (
        db.roles.map fun row => if row.id = id then { row with name, description } else row,
        db.permissions, db.accounts)
  | deleteRole id, db, db' =>
      db'.tables = (db.roles.filter fun row => row.id ≠ id,
        db.permissions.filter fun p => p.roleId ≠ id,
        db.accounts.map fun row =>
          if row.roleId = some id then { row with roleId := none } else row)
  | reassignRole accountId roleId, db, db' =>
      db'.tables = (db.roles, db.permissions,
        db.accounts.map fun row => if row.id = accountId then { row with roleId } else row)

/-- The tables after an operation that was carried out: of a bulk run, after those of its items that
succeeded. -/
def Operation.Leaves : Operation → Database → Database → Prop
  | one c, db, db' => c.Leaves db db'
  | addPermissions roleId _, db, db' => ∃ rows, (∀ p ∈ rows, p.roleId = roleId) ∧
      db'.tables = (db.roles, db.permissions ++ rows, db.accounts)
  | removePermissions roleId ids, db, db' => ∃ gone ⊆ ids,
      (∀ p ∈ db.permissions, p.id ∈ gone → p.roleId = roleId) ∧
        db'.tables = (db.roles, db.permissions.filter fun p => p.id ∉ gone, db.accounts)

namespace Command

variable {c : Command} {db db' : Database} {result : c.Result}

theorem eq_of_key (hdb : db.Typed) {p q : Permission} (hp : p ∈ db.permissions)
    (hq : q ∈ db.permissions) (hid : p.id = q.id) : p = q :=
  List.inj_on_of_nodup_map hdb.keys hp hq hid

theorem updatePermission_leaves (hdb : db.Typed) {roleId id : Uuid} {change : RuleChange}
    {p : Permission} (h : (updatePermission roleId id change).Writes db p db') :
    db'.Typed ∧ (updatePermission roleId id change).Leaves db db' := by
  obtain ⟨read, terms, hread, hrole, hterms, rfl, hupdate⟩ := h
  obtain ⟨old, hold, hid, rfl⟩ := Database.permission?_some hread
  have hrest := hdb.rows old hold
  rw [Database.readPermission_of_bool hrest.inverted] at hrole hterms hupdate
  obtain ⟨row, hrow, rfl⟩ := Database.updatePermission_ok hupdate
  cases change with
  | formless => cases hterms
  | edits parts =>
      cases hterms
      have hinverted : ∃ b, (RuleChange.applyEdits parts old.toTerms).inverted = .bool b := by
        show ∃ b, (parts.inverted.map Value.bool).getD old.inverted = .bool b
        cases parts.inverted with
        | none => exact hrest.inverted
        | some b => exact ⟨b, rfl⟩
      have hwritten : row.toTerms.AtRest := Database.storedPermission_atRest hinverted hrow
      have hkey : row.id = id := by
        obtain ⟨_, _, _, _, -, -, -, -, rfl⟩ := Database.storedPermission_parts hrow
        exact hid
      -- Whose the row is and since when are kept, so what is said is all that is different.
      have hmap : (db.permissions.map fun q => if q.id = id then
            { row with roleId := q.roleId, createdAt := q.createdAt } else q) =
          db.permissions.map fun q =>
            if q.id = id then { q with toTerms := row.toTerms } else q := by
        refine List.map_congr_left fun q _ => ?_
        split
        · next hq => rw [← hkey] at hq; rw [← hq]
        · rfl
      have htables : ({ old with toTerms := RuleChange.applyEdits parts old.toTerms } :
          Permission).id = id := hid
      rw [htables, hmap]
      refine ⟨⟨?_, ?_⟩, old, hold, row.toTerms, hid, hrole, fun other hother c hc => ?_, rfl⟩
      · show ((db.permissions.map _).map Permission.id).Nodup
        rw [List.map_map, List.map_congr_left fun q _ => ?_]
        · exact hdb.keys
        · rw [Function.comp_apply]
          split <;> rfl
      · intro q hq
        obtain ⟨before, hbefore, rfl⟩ := List.mem_map.mp hq
        split
        · exact hwritten
        · exact hdb.rows before hbefore
      · cases hother
        exact Database.unnamed_part hrest hrow hc

/-- A command that is made on tables leaves tables, and leaves them as it should. -/
theorem leaves_of_writes (hdb : db.Typed) (h : c.Writes db result db') :
    db'.Typed ∧ c.Leaves db db' := by
  cases c with
  | addPermission roleId rule =>
      obtain ⟨-, ⟨id, createdAt, rfl⟩, hinsert⟩ := h
      obtain ⟨row, hrow, hfree, rfl⟩ := Database.insertPermission_ok hinsert
      have hrest : row.toTerms.AtRest := Database.storedPermission_atRest ⟨rule.inverted, rfl⟩ hrow
      have hrole : row.roleId = roleId := by
        obtain ⟨_, _, _, _, -, -, -, -, rfl⟩ := Database.storedPermission_parts hrow
        rfl
      refine ⟨⟨?_, fun q hq => ?_⟩, row, hrole, hfree, rfl⟩
      · rw [List.map_append, List.map_singleton, List.nodup_append]
        refine ⟨hdb.keys, List.nodup_singleton _, fun key hkey other hother heq => ?_⟩
        obtain ⟨q, hq, rfl⟩ := List.mem_map.mp hkey
        rw [Database.hasPermission, List.any_eq_false] at hfree
        exact hfree q hq (decide_eq_true (heq.trans (List.mem_singleton.mp hother)))
      · rcases List.mem_append.mp hq with hq | hq
        · exact hdb.rows q hq
        · rw [List.mem_singleton.mp hq]
          exact hrest
  | removePermission roleId id =>
      obtain ⟨hmem, hid, rfl⟩ := h
      obtain ⟨row, hrow, hrole, rfl⟩ := Database.mem_permissionsOf hmem
      refine ⟨⟨hdb.keys.sublist (List.filter_sublist.map _),
        fun q hq => hdb.rows q (List.mem_filter.mp hq).1⟩, ⟨row, hrow, hid⟩, ?_, rfl⟩
      intro q hq hq'
      rw [eq_of_key hdb hq hrow (hq'.trans hid.symm)]
      exact hrole
  | updatePermission roleId id change => exact updatePermission_leaves hdb h
  | createRole name description =>
      obtain ⟨-, -, -, hinsert⟩ := h
      obtain ⟨hfree, rfl⟩ := Database.insertRole_ok hinsert
      exact ⟨⟨hdb.keys, hdb.rows⟩, _, hfree, rfl⟩
  | updateRole id name description =>
      obtain ⟨old, name?, description?, -, -, -, -, hupdate⟩ := h
      rw [Database.updateRole_ok hupdate]
      exact ⟨⟨hdb.keys, hdb.rows⟩, _, _, rfl⟩
  | deleteRole id =>
      obtain ⟨-, rfl⟩ := h
      exact ⟨⟨hdb.keys.sublist (List.filter_sublist.map _),
        fun q hq => hdb.rows q (List.mem_filter.mp hq).1⟩, rfl⟩
  | reassignRole accountId roleId =>
      obtain ⟨old, -, -, -, rfl⟩ := h
      exact ⟨⟨hdb.keys, hdb.rows⟩, rfl⟩

end Command

end Mutation

/-! ## Other roles -/

/-- Nothing of any role but one is different: not its name or description, not its permissions or
their order, and not its rules in the cache. -/
structure World.SparesOthers (roleId : Uuid) (w w' : World) : Prop where
  roles : (w'.db.roles.filter fun row => row.id ≠ roleId) =
    w.db.roles.filter fun row => row.id ≠ roleId
  permissions : (w'.db.permissions.filter fun p => p.roleId ≠ roleId) =
    w.db.permissions.filter fun p => p.roleId ≠ roleId
  cache : ∀ id, id ≠ roleId → w'.cache.get? id = w.cache.get? id

/-- What is changed in place and leaves out what a filter keeps does not show behind the filter. -/
theorem filter_map_of_spared {α : Type} {f : α → α} {keep : α → Bool} {xs : List α}
    (hkeep : ∀ x ∈ xs, keep (f x) = keep x) (hspared : ∀ x ∈ xs, keep x = true → f x = x) :
    (xs.map f).filter keep = xs.filter keep := by
  have hfilter : xs.filter (keep ∘ f) = xs.filter keep := List.filter_congr hkeep
  rw [List.filter_map, hfilter]
  refine (List.map_congr_left fun x hx => ?_).trans (List.map_id _)
  obtain ⟨hmem, hkept⟩ := List.mem_filter.mp hx
  exact hspared x hmem hkept

namespace Mutation

/-- The role that a command is addressed to. -/
def Command.IsAbout : Command → Uuid → Prop
  | addPermission id _, roleId => id = roleId
  | removePermission id _, roleId => id = roleId
  | updatePermission id _ _, roleId => id = roleId
  | updateRole id _ _, roleId => id = roleId
  | deleteRole id, roleId => id = roleId
  | createRole .., _ => False
  | reassignRole .., _ => False

/-- The role that an operation is addressed to. -/
def Operation.IsAbout : Operation → Uuid → Prop
  | one c, roleId => c.IsAbout roleId
  | addPermissions id _, roleId => id = roleId
  | removePermissions id _, roleId => id = roleId

variable {roleId : Uuid}

theorem Operation.IsAbout.makes {op : Operation} (h : op.IsAbout roleId) {c : Command}
    (hc : op.Makes c) : c.IsAbout roleId := by
  cases op with
  | one made =>
      obtain rfl : c = made := hc
      exact h
  | addPermissions id rules =>
      obtain ⟨items, -, item, -, rule, -, rfl⟩ := hc
      exact h
  | removePermissions id ids =>
      obtain ⟨id, -, rfl⟩ := hc
      exact h

/-- An operation that is addressed to a role loads no other again. -/
theorem Operation.IsAbout.touched {op : Operation} (h : op.IsAbout roleId) (caller : Caller)
    (done : (op.stages caller).Changed) {id : Uuid}
    (hid : (op.stages caller).touched done = some id) : id = roleId := by
  cases op with
  | one c =>
      cases c with
      | addPermission | removePermission | updatePermission | deleteRole =>
          rw [← Option.some.inj hid]
          exact h
      | updateRole => cases hid
      | createRole | reassignRole => cases h
  | addPermissions | removePermissions =>
      rw [← Option.some.inj hid]
      exact h

theorem Command.Leaves.spares {c : Command} {db db' : Database} (hdb : db.Typed)
    (h : c.Leaves db db') (habout : c.IsAbout roleId) :
    (db'.roles.filter fun row => row.id ≠ roleId) = (db.roles.filter fun row => row.id ≠ roleId) ∧
    (db'.permissions.filter fun p => p.roleId ≠ roleId) =
      db.permissions.filter fun p => p.roleId ≠ roleId := by
  cases c with
  | addPermission id rule =>
      obtain ⟨p, hp, -, htables⟩ := h
      obtain ⟨hroles, hpermissions, -⟩ := Database.tables_eq.mp htables
      have hown : p.roleId = roleId := hp.trans habout
      refine ⟨by rw [hroles], ?_⟩
      rw [hpermissions, List.filter_append]
      simp [hown]
  | removePermission id permissionId =>
      obtain ⟨-, hown, htables⟩ := h
      obtain ⟨hroles, hpermissions, -⟩ := Database.tables_eq.mp htables
      obtain rfl : id = roleId := habout
      refine ⟨by rw [hroles], ?_⟩
      rw [hpermissions, List.filter_filter]
      refine List.filter_congr fun p hp => ?_
      by_cases hid : p.id = permissionId
      · simp [hown p hp hid]
      · simp [hid]
  | updatePermission id permissionId change =>
      obtain ⟨old, hold, terms, hid, hrole, -, htables⟩ := h
      obtain ⟨hroles, hpermissions, -⟩ := Database.tables_eq.mp htables
      obtain rfl : id = roleId := habout
      refine ⟨by rw [hroles], ?_⟩
      rw [hpermissions]
      refine filter_map_of_spared (fun p _ => ?_) fun p hp hother => ?_
      · split <;> rfl
      -- The row that was written over is of the role itself.
      · have hne : p.id ≠ permissionId := by
          intro hsame
          rw [eq_of_key hdb hp hold (hsame.trans hid.symm)] at hother
          exact of_decide_eq_true hother hrole
        rw [if_neg hne]
  | updateRole id name description =>
      obtain ⟨name, description, htables⟩ := h
      obtain ⟨hroles, hpermissions, -⟩ := Database.tables_eq.mp htables
      obtain rfl : id = roleId := habout
      refine ⟨?_, by rw [hpermissions]⟩
      rw [hroles]
      refine filter_map_of_spared (fun row _ => ?_) fun row _ hother => ?_
      · split <;> rfl
      · rw [if_neg (of_decide_eq_true hother)]
  | deleteRole id =>
      obtain ⟨hroles, hpermissions, -⟩ := Database.tables_eq.mp h
      obtain rfl : id = roleId := habout
      refine ⟨?_, ?_⟩
      · rw [hroles, List.filter_filter]
        simp
      · rw [hpermissions, List.filter_filter]
        simp
  | createRole | reassignRole => cases habout

theorem sparing_bound (roleId : Uuid) :
    Bound fun w w' => w.db.Typed → w'.db.Typed ∧ w.SparesOthers roleId w' := by
  refine ⟨fun hdb hcache h => ?_, fun h₁ h₂ h => ?_⟩
  · rw [hdb]
    refine ⟨⟨h.keys, h.rows⟩, ?_, ?_, fun id _ => by rw [hcache]⟩
    · rw [hdb]
      rfl
    · rw [hdb]
      rfl
  · obtain ⟨hdb₁, hfirst⟩ := h₁ h
    obtain ⟨hdb₂, hsecond⟩ := h₂ hdb₁
    exact ⟨hdb₂, hsecond.roles.trans hfirst.roles, hsecond.permissions.trans hfirst.permissions,
      fun id hid => (hsecond.cache id hid).trans (hfirst.cache id hid)⟩

/-- Loading a role again spares the others, whether it succeeds or not. -/
theorem reload_sparing {touched : Option Uuid} (htouched : ∀ id, touched = some id → id = roleId)
    (w : World) (hdb : w.db.Typed) : (Stages.reload touched w).2.db.Typed ∧
      w.SparesOthers roleId (Stages.reload touched w).2 := by
  have hsame : (Stages.reload touched w).2.db = w.db := Stages.reload_db touched w
  rw [hsame]
  refine ⟨hdb, by rw [hsame], by rw [hsame], fun id hid => ?_⟩
  cases touched with
  | none => rfl
  | some other =>
      obtain rfl := htouched other rfl
      exact Reload.invalidate_others hid w

/-- An operation that is addressed to a role spares the others, however it ends. -/
theorem Operation.IsAbout.spares {op : Operation} (h : op.IsAbout roleId) (caller : Caller)
    {w : World} (hdb : w.db.Typed) : w.SparesOthers roleId (op.execute caller w).2 := by
  refine ((op.execute_within (sparing_bound roleId) caller
    (fun c hc w w' _ hwrites hcache hdb => ?_)
    fun done => reload_sparing fun id => h.touched caller done) w hdb).2
  obtain ⟨hdb', hleaves⟩ := Command.leaves_of_writes hdb hwrites
  obtain ⟨hroles, hpermissions⟩ := hleaves.spares hdb (h.makes hc)
  exact ⟨hdb', hroles, hpermissions, fun id _ => by rw [hcache]⟩

/-! ## Every operation -/

theorem Operation.execute_typed (caller : Caller) (op : Operation) {w : World}
    (hdb : w.db.Typed) : (op.execute caller w).2.db.Typed :=
  op.execute_keeping (fun h => ⟨h.keys, h.rows⟩) caller
    (fun _ _ _ _ _ hwrites hdb => (Command.leaves_of_writes hdb hwrites).1) hdb

theorem adding_bound (roleId : Uuid) (rules : Value) :
    Bound fun w w' => w.db.Typed →
      w'.db.Typed ∧ (Operation.addPermissions roleId rules).Leaves w.db w'.db := by
  refine ⟨fun hdb _ h => ?_, fun h₁ h₂ h => ?_⟩
  · rw [hdb]
    exact ⟨⟨h.keys, h.rows⟩, [], fun p hp => absurd hp List.not_mem_nil, by
      rw [List.append_nil]
      rfl⟩
  · obtain ⟨hdb₁, rows₁, hown₁, htables₁⟩ := h₁ h
    obtain ⟨hdb₂, rows₂, hown₂, htables₂⟩ := h₂ hdb₁
    obtain ⟨hroles, hpermissions, haccounts⟩ := Database.tables_eq.mp htables₁
    refine ⟨hdb₂, rows₁ ++ rows₂, List.forall_mem_append.mpr ⟨hown₁, hown₂⟩, ?_⟩
    rw [htables₂, hroles, hpermissions, haccounts, List.append_assoc]

theorem removing_bound (roleId : Uuid) (ids : List Uuid) :
    Bound fun w w' => w.db.Typed →
      w'.db.Typed ∧ (Operation.removePermissions roleId ids).Leaves w.db w'.db := by
  refine ⟨fun hdb _ h => ?_, fun h₁ h₂ h => ?_⟩
  · rw [hdb]
    refine ⟨⟨h.keys, h.rows⟩, [], List.nil_subset ids, fun p _ hp => absurd hp List.not_mem_nil, ?_⟩
    simp [Database.tables, Database.withLog]
  · obtain ⟨hdb₁, gone₁, hids₁, hown₁, htables₁⟩ := h₁ h
    obtain ⟨hdb₂, gone₂, hids₂, hown₂, htables₂⟩ := h₂ hdb₁
    obtain ⟨hroles, hpermissions, haccounts⟩ := Database.tables_eq.mp htables₁
    refine ⟨hdb₂, gone₁ ++ gone₂, List.append_subset.mpr ⟨hids₁, hids₂⟩, fun p hp hgone => ?_, ?_⟩
    · by_cases hfirst : p.id ∈ gone₁
      · exact hown₁ p hp hfirst
      · refine hown₂ p ?_ ((List.mem_append.mp hgone).resolve_left hfirst)
        rw [hpermissions]
        exact List.mem_filter.mpr ⟨hp, decide_eq_true hfirst⟩
    · rw [htables₂, hroles, hpermissions, haccounts, List.filter_filter]
      simp [Bool.and_comm]

/-- An operation leaves the tables as it should, or it fails and leaves them as they were. -/
theorem Operation.execute_leaves (caller : Caller) (op : Operation) {w : World}
    (hdb : w.db.Typed) : op.Leaves w.db (op.execute caller w).2.db ∨
      (op.execute caller w).1.isOk = false ∧ (op.execute caller w).2.db.tables = w.db.tables := by
  cases op with
  | one c =>
      rcases c.made_or_failed caller w with ⟨result, db, log, hwrites, hafter⟩ | ⟨hfails, hstate⟩
      · obtain ⟨-, hleaves⟩ := Command.leaves_of_writes hdb hwrites
        refine Or.inl ?_
        show c.Leaves w.db (c.execute caller w).2.db
        rw [hafter]
        cases c <;> exact hleaves
      · exact Or.inr ⟨hfails, congrArg Database.tables (World.state_eq.mp hstate).1⟩
  | addPermissions roleId rules =>
      refine Or.inl (((addPermissions roleId rules).execute_within
        (adding_bound roleId rules) caller
        (fun c hc w w' _ hwrites _ hdb => ?_) fun done w hdb => ?_) w hdb).2
      · obtain ⟨hdb', hleaves⟩ := Command.leaves_of_writes hdb hwrites
        obtain ⟨items, -, item, -, rule, -, rfl⟩ := hc
        obtain ⟨p, hp, -, htables⟩ := hleaves
        exact ⟨hdb', [p], List.forall_mem_singleton.mpr hp, htables⟩
      · rw [Stages.reload_db]
        exact ⟨hdb, [], fun p hp => absurd hp List.not_mem_nil, by rw [List.append_nil]; rfl⟩
  | removePermissions roleId ids =>
      refine Or.inl (((removePermissions roleId ids).execute_within
        (removing_bound roleId ids) caller
        (fun c hc w w' _ hwrites _ hdb => ?_) fun done w hdb => ?_) w hdb).2
      · obtain ⟨hdb', hleaves⟩ := Command.leaves_of_writes hdb hwrites
        obtain ⟨id, hid, rfl⟩ := hc
        obtain ⟨-, hown, htables⟩ := hleaves
        refine ⟨hdb', [id], List.cons_subset.mpr ⟨hid, List.nil_subset ids⟩, fun p hp hp' => ?_, ?_⟩
        · exact hown p hp (List.mem_singleton.mp hp')
        · rw [htables]
          simp
      · rw [Stages.reload_db]
        refine ⟨hdb, [], List.nil_subset ids, fun p _ hp => absurd hp List.not_mem_nil, ?_⟩
        simp [Database.tables]

end Mutation

/-- The clerks beside another role with one permission. -/
def World.clerksAndAuditors : World := { World.sample .none with db := {
  roles := [⟨World.clerks, "clerks", none, none⟩, ⟨Uuid.ofNat 5, "auditors", none, none⟩]
  permissions := [World.clerksMayRead,
    { World.clerksMayRead with id := Uuid.ofNat 6, roleId := Uuid.ofNat 5 }]
  accounts := [⟨Uuid.ofNat 3, .text "ada@example.org", .null, some World.clerks, .map []⟩]
  auditLog := [] } }

namespace Period

variable {w w' : World} {events : List Event}

theorem typed (h : Period w events w') (hdb : w.db.Typed) : w'.db.Typed :=
  h.keeping (fun htyped => ⟨htyped.keys, htyped.rows⟩)
    (fun d _ hbefore => d.op.execute_typed d.caller hbefore) hdb

/-- In every period, whatever is asked for and whatever fails, each operation leaves the tables as
it should or fails and leaves them as they were. And operations that are all addressed to one role
leave every other role as it is: its name and description, its permissions and their order, and its
rules in the cache. -/
theorem spares_others (hdb : w.db.Typed) (h : Period w events w') :
    (∀ d, .operation d ∈ events →
      d.op.Leaves d.world.db (d.endsIn d.world).2.db ∨
      (d.endsIn d.world).1.isOk = false ∧
        (d.endsIn d.world).2.db.tables = d.world.db.tables) ∧
    ∀ roleId, (∀ e ∈ events, ∃ d, e = .operation d ∧ d.op.IsAbout roleId) →
      w.SparesOthers roleId w' := by
  refine ⟨fun d hd => ?_, fun roleId habout => ?_⟩
  · obtain ⟨earlier, -, hearlier⟩ := h.until_event hd
    exact d.op.execute_leaves d.caller (hearlier.typed hdb)
  · refine (h.within (Mutation.sparing_bound roleId) (fun e he hbefore => ?_) hdb).2
    obtain ⟨d, rfl, hd⟩ := habout e he
    exact ⟨d.op.execute_typed d.caller hbefore, hd.spares d.caller hbefore⟩

/-- As permissions of the clerks, one of the auditors is changed and then removed beside their own,
and the clerks are deleted. Only what is theirs is gone. -/
theorem spares_others_auditors : ∃ events w', Period World.clerksAndAuditors events w' ∧
    events.length = 3 ∧ World.clerksAndAuditors.SparesOthers World.clerks w' ∧
    w'.db.permissions.map Permission.id = [Uuid.ofNat 6] ∧
    w'.db.accounts.map AccountRow.roleId = [none] := by
  have hchanged := (Period.start World.clerksAndAuditors).operation
    (.one (.updatePermission World.clerks (Uuid.ofNat 6) (.edits { inverted := some true }))) {}
  have hperiod := (hchanged.operation
    (.removePermissions World.clerks [Uuid.ofNat 6, Uuid.ofNat 2]) {}).operation
    (.one (.deleteRole World.clerks)) {}
  have hdb : World.clerksAndAuditors.db.Typed := by
    refine ⟨by decide +kernel, fun p hp => ?_⟩
    rcases List.mem_cons.mp hp with rfl | hp
    · exact ⟨rfl, rfl, rfl, rfl, false, rfl⟩
    · obtain rfl := List.mem_singleton.mp hp
      exact ⟨rfl, rfl, rfl, rfl, false, rfl⟩
  refine ⟨_, _, hperiod, rfl, (spares_others hdb hperiod).2 World.clerks fun e he => ?_,
    by decide +kernel, by decide +kernel⟩
  rcases List.mem_append.mp he with he | he
  · rcases List.mem_append.mp he with he | he
    · exact ⟨_, List.mem_singleton.mp he, rfl⟩
    · exact ⟨_, List.mem_singleton.mp he, rfl⟩
  · exact ⟨_, List.mem_singleton.mp he, rfl⟩

end Period

end Warrant
