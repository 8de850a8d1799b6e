import Mathlib.Data.List.Nodup
import Warrant.Database.Write
import Warrant.Proofs.Rules
import Warrant.RuleChange

/-!
# What a write leaves of the rules

The rules of a role are a function of two tables: the role must be there, and
its permissions are read in order. This file says which roles' rules each write
can touch. The answer is one role or none, and it is the same role that the
operation behind the write loads again afterwards; that agreement is what the
rule cache lives on.

Two writes reach a permission by its identifier alone, whatever role is named
beside it, so they touch a single role only because identifiers are keys. Keys
are part of the shape of a database, together with the form of the rows: lists
of texts for actions and subjects, nothing or a list of texts for fields,
nothing or a mapping for conditions. Rows of that form always have a meaning as
a rule and always have a snapshot for the audit log, which is why a change to
them never fails half-way.
-/

namespace Warrant

/-! ## The form of a row -/

/-- The form in which the operations write a permission. -/
structure Terms.Shaped (t : Terms) : Prop where
  action : ∃ names, t.action = .ofTexts names
  subject : ∃ names, t.subject = .ofTexts names
  fields : ∃ names, t.fields = .ofOption .ofTexts names
  conditions : ∃ es, t.conditions = .ofOption .map es

namespace Terms

/-- What a row of that form shows of itself under an identifier. -/
def shown (t : Terms) (id : Value) : List (String × Value) :=
  [("id", .text id.display), ("action", t.action), ("subject", t.subject), ("fields", t.fields),
    ("conditions", t.conditions), ("inverted", t.inverted), ("reason", t.reason)]

/-- To show a row of that form item by item is to show it as it is. -/
theorem Shaped.snapshot_eq {t : Terms} (h : t.Shaped) (id : Value) :
    t.snapshot id = .ok (t.shown id) := by
  obtain ⟨as, ha⟩ := h.action
  obtain ⟨ss, hs⟩ := h.subject
  obtain ⟨fs, hf⟩ := h.fields
  unfold Terms.snapshot shown
  rw [ha, hs, hf]
  cases fs <;> rfl

/-- A row of that form has a meaning as a rule. -/
theorem Shaped.rule {t : Terms} (h : t.Shaped) (id : Value) :
    ∃ r, Rule.ofTerms id t = .ok r := by
  obtain ⟨as, ha⟩ := h.action
  obtain ⟨ss, hs⟩ := h.subject
  obtain ⟨fs, hf⟩ := h.fields
  obtain ⟨cs, hc⟩ := h.conditions
  unfold Rule.ofTerms
  rw [ha, hs, hf, hc]
  cases fs <;> cases cs <;> exact ⟨_, rfl⟩

end Terms

theorem Value.stored_eq_ok {v w : Value} : v.stored = .ok w ↔ v.stored? = some w := by
  unfold Value.stored
  cases v.stored? with
  | none => exact ⟨nofun, nofun⟩
  | some u => simp only [Except.ok.injEq, Option.some.injEq]

theorem Value.storedItems?_cons_iff {v : Value} {rest ws : List Value} :
    storedItems? (v :: rest) = some ws ↔
      ∃ w more, v.stored? = some w ∧ storedItems? rest = some more ∧ ws = w :: more := by
  rw [storedItems?]
  cases v.stored? <;> cases storedItems? rest <;> simp [eq_comm]

theorem Value.storedEntries?_cons_iff {k : String} {v : Value} {rest fs : List (String × Value)} :
    storedEntries? ((k, v) :: rest) = some fs ↔
      ∃ w more, v.stored? = some w ∧ storedEntries? rest = some more ∧ fs = (k, w) :: more := by
  rw [storedEntries?]
  cases v.stored? <;> cases storedEntries? rest <;> simp [eq_comm]

/-- What is found under a key is stored under that key; what is not there is stored as null. -/
theorem Value.storedEntries?_find? {es es' : List (String × Value)}
    (h : storedEntries? es = some es') (key : String) :
    ((find? key es).getD .null).stored? = some ((find? key es').getD .null) := by
  induction es generalizing es' with
  | nil =>
      cases h
      rfl
  | cons entry rest ih =>
      obtain ⟨k, v⟩ := entry
      obtain ⟨w, more, hv, hrest, rfl⟩ := storedEntries?_cons_iff.mp h
      rw [find?, find?]
      split
      · exact hv
      · exact ih hrest

/-- A list of texts is stored as it is. -/
theorem stored_ofTexts (names : List String) : (Value.ofTexts names).stored = .ok (.ofTexts names) := by
  have hitems : Value.storedItems? (names.map Value.text) = some (names.map Value.text) := by
    induction names with
    | nil => rfl
    | cons name rest ih =>
        rw [List.map_cons, Value.storedItems?, ih]
        rfl
  unfold Value.stored Value.ofTexts
  rw [Value.stored?, hitems]
  rfl

theorem stored_optionTexts (names : Option (List String)) :
    (Value.ofOption Value.ofTexts names).stored = .ok (.ofOption .ofTexts names) := by
  cases names with
  | none => rfl
  | some names => exact stored_ofTexts names

/-- Nothing is stored as nothing and a mapping as a mapping, though perhaps not as the same one. -/
theorem stored_optionMap {es : Option (List (String × Value))} {v : Value}
    (h : (Value.ofOption Value.map es).stored = .ok v) : ∃ es', v = .ofOption .map es' := by
  cases es with
  | none =>
      cases h
      exact ⟨none, rfl⟩
  | some es =>
      unfold Value.stored at h
      rw [Value.ofOption, Value.stored?] at h
      cases hs : Value.storedEntries? es with
      | none =>
          rw [hs] at h
          cases h
      | some stored =>
          rw [hs] at h
          cases h
          exact ⟨some stored, rfl⟩

theorem RuleInput.toPermission_shaped (rule : RuleInput) (id roleId : Uuid) (createdAt : Instant) :
    (rule.toPermission id roleId createdAt).toTerms.Shaped :=
  ⟨⟨_, rfl⟩, ⟨_, rfl⟩, ⟨_, rfl⟩, ⟨_, rfl⟩⟩

/-- A change leaves a row in the form that it had. -/
theorem RuleChange.apply_shaped {change : RuleChange} {t t' : Terms} (ht : t.Shaped)
    (h : change.apply t = .ok t') : t'.Shaped := by
  cases change with
  | formless => cases h
  | edits parts =>
      cases h
      constructor
      · show ∃ names, (parts.action.map RuleInput.storedActions).getD t.action = _
        cases parts.action with
        | none => exact ht.action
        | some actions => exact ⟨_, rfl⟩
      · show ∃ names, (parts.subject.map RuleInput.storedSubjects).getD t.subject = _
        cases parts.subject with
        | none => exact ht.subject
        | some subjects => exact ⟨_, rfl⟩
      · show ∃ names, (parts.fields.map (Value.ofOption .ofTexts)).getD t.fields = _
        cases parts.fields with
        | none => exact ht.fields
        | some fields => exact ⟨fields, rfl⟩
      · show ∃ es, (parts.conditions.map (Value.ofOption .map)).getD t.conditions = _
        cases parts.conditions with
        | none => exact ht.conditions
        | some conditions => exact ⟨conditions, rfl⟩

namespace Database

/-- The row of a permission in shape differs from it in the conditions alone. -/
theorem storedPermission_eq {p row : Permission} (hp : p.toTerms.Shaped)
    (h : storedPermission p = .ok row) :
    ∃ conditions, p.conditions.stored = .ok conditions ∧ row = { p with conditions } := by
  obtain ⟨as, ha⟩ := hp.action
  obtain ⟨ss, hs⟩ := hp.subject
  obtain ⟨fs, hf⟩ := hp.fields
  obtain ⟨action, haction, h⟩ := Fault.bind_ok.mp h
  obtain ⟨subject, hsubject, h⟩ := Fault.bind_ok.mp h
  obtain ⟨fields, hfields, h⟩ := Fault.bind_ok.mp h
  obtain ⟨conditions, hconditions, h⟩ := Fault.bind_ok.mp h
  rw [ha, stored_ofTexts] at haction
  rw [hs, stored_ofTexts] at hsubject
  rw [hf, stored_optionTexts] at hfields
  cases haction
  cases hsubject
  cases hfields
  cases h
  refine ⟨conditions, hconditions, ?_⟩
  rw [← ha, ← hs, ← hf]

/-- A permission in shape is written if its conditions are. -/
theorem storedPermission_of_shaped {p : Permission} (hp : p.toTerms.Shaped) {conditions : Value}
    (h : p.conditions.stored = .ok conditions) : storedPermission p = .ok { p with conditions } := by
  obtain ⟨as, ha⟩ := hp.action
  obtain ⟨ss, hs⟩ := hp.subject
  obtain ⟨fs, hf⟩ := hp.fields
  unfold storedPermission
  rw [h, ha, hs, hf, stored_ofTexts, stored_ofTexts, stored_optionTexts]
  rfl

/-- A row as it is written has the identifiers and the form of the permission. -/
theorem storedPermission_ok {p row : Permission} (hp : p.toTerms.Shaped)
    (h : storedPermission p = .ok row) :
    row.id = p.id ∧ row.roleId = p.roleId ∧ row.toTerms.Shaped := by
  obtain ⟨conditions, hconditions, rfl⟩ := storedPermission_eq hp h
  obtain ⟨cs, hc⟩ := hp.conditions
  rw [hc] at hconditions
  exact ⟨rfl, rfl, hp.action, hp.subject, hp.fields, stored_optionMap hconditions⟩

/-! ## The shape of a database -/

/-- A database whose permissions have the form in which the operations write them. Their
identifiers are the keys of the table. -/
structure Shaped (db : Database) : Prop where
  rows : ∀ p ∈ db.permissions, p.toTerms.Shaped
  keys : (db.permissions.map Permission.id).Nodup

theorem readPermission_shaped {p : Permission} (h : p.toTerms.Shaped) :
    (readPermission p).toTerms.Shaped :=
  ⟨h.action, h.subject, h.fields, h.conditions⟩

/-- A permission whose flag is a truth value is read as it is stored. -/
theorem readPermission_of_bool {p : Permission} (h : ∃ b, p.inverted = .bool b) :
    readPermission p = p := by
  obtain ⟨b, hb⟩ := h
  unfold readPermission
  rw [hb]
  show ({ p with inverted := .bool b } : Permission) = p
  rw [← hb]

theorem mem_permissionsOf {db : Database} {id : Uuid} {p : Permission}
    (h : p ∈ db.permissionsOf id) :
    ∃ row ∈ db.permissions, row.roleId = id ∧ readPermission row = p := by
  obtain ⟨row, hrow, rfl⟩ := List.mem_map.mp h
  rw [List.mem_filter, decide_eq_true_eq] at hrow
  exact ⟨row, hrow.1, hrow.2, rfl⟩

/-- A row that is added is read after the others of its role. -/
theorem permissionsOf_append (db : Database) (row : Permission) (id : Uuid) :
    ({ db with permissions := db.permissions ++ [row] } : Database).permissionsOf id =
      db.permissionsOf id ++ if row.roleId = id then [readPermission row] else [] := by
  unfold permissionsOf
  rw [List.filter_append, List.map_append]
  split
  · next hid => rw [List.filter_cons_of_pos (by simpa using hid)]; rfl
  · next hid => rw [List.filter_cons_of_neg (by simpa using hid)]; rfl

theorem permission?_some {db : Database} {id : Uuid} {p : Permission}
    (h : db.permission? id = some p) :
    ∃ row ∈ db.permissions, row.id = id ∧ readPermission row = p := by
  obtain ⟨row, hrow, rfl⟩ := Option.map_eq_some_iff.mp h
  exact ⟨row, List.mem_of_find?_eq_some hrow, by simpa using List.find?_some hrow, rfl⟩

/-! ## The rules of a role -/

/-- The rules that the rows of a role state, nothing for a role that is not there, or the fault in
reading them. -/
def rulesFor (db : Database) (id : Uuid) : Except Fault (Option (List Rule)) :=
  if db.hasRole id then (Rule.ofPermissions (db.permissionsOf id)).map some else .ok none

theorem rulesFor_congr {db db' : Database} {id : Uuid} (hrole : db'.hasRole id = db.hasRole id)
    (hrows : db'.permissionsOf id = db.permissionsOf id) : db'.rulesFor id = db.rulesFor id := by
  unfold rulesFor
  rw [hrole, hrows]

/-- What a write may do: it leaves a shaped database, and the rules of all roles but one. -/
structure ChangesOnly (touched : Option Uuid) (db db' : Database) : Prop where
  shaped : db'.Shaped
  rules : ∀ id, touched ≠ some id → db'.rulesFor id = db.rulesFor id

theorem ChangesOnly.refl {touched : Option Uuid} {db : Database} (h : db.Shaped) :
    ChangesOnly touched db db := ⟨h, fun _ _ => rfl⟩

theorem ChangesOnly.trans {touched : Option Uuid} {db₁ db₂ db₃ : Database}
    (h₁ : ChangesOnly touched db₁ db₂) (h₂ : ChangesOnly touched db₂ db₃) :
    ChangesOnly touched db₁ db₃ :=
  ⟨h₂.shaped, fun id hid => (h₂.rules id hid).trans (h₁.rules id hid)⟩

/-- A write to other tables touches no rules. -/
theorem changesOnly_of_eq {touched : Option Uuid} {db db' : Database} (hdb : db.Shaped)
    (hroles : db'.roles = db.roles) (hrows : db'.permissions = db.permissions) :
    ChangesOnly touched db db' := by
  refine ⟨⟨?_, ?_⟩, fun id _ => rulesFor_congr ?_ ?_⟩
  · rw [hrows]
    exact hdb.rows
  · rw [hrows]
    exact hdb.keys
  · rw [hasRole, hasRole, hroles]
  · rw [Database.permissionsOf, Database.permissionsOf, hrows]

/-! ### Permissions -/

theorem insertPermission_ok {db db' : Database} {p : Permission}
    (h : db.insertPermission p = .ok db') :
    ∃ row, storedPermission p = .ok row ∧ db.hasPermission row.id = false ∧
      db' = { db with permissions := db.permissions ++ [row] } := by
  obtain ⟨row, hrow, h⟩ := Fault.bind_ok.mp h
  split at h
  · cases h
  · next hfree =>
      cases h
      exact ⟨row, hrow, Bool.eq_false_iff.mpr hfree, rfl⟩

theorem insertPermission_changesOnly {db db' : Database} {p : Permission} (hdb : db.Shaped)
    (hp : p.toTerms.Shaped) (h : db.insertPermission p = .ok db') :
    ChangesOnly (some p.roleId) db db' := by
  obtain ⟨row, hrow, hfree, rfl⟩ := insertPermission_ok h
  obtain ⟨-, hrole, hshape⟩ := storedPermission_ok hp hrow
  refine ⟨⟨?_, ?_⟩, fun id hid => rulesFor_congr rfl ?_⟩
  · intro q hq
    rcases List.mem_append.mp hq with hq | hq
    · exact hdb.rows q hq
    · rw [List.mem_singleton.mp hq]
      exact hshape
  · rw [List.map_append, List.nodup_append]
    refine ⟨hdb.keys, List.nodup_singleton _, ?_⟩
    intro a ha b hb heq
    obtain ⟨q, hq, rfl⟩ := List.mem_map.mp ha
    rw [List.map_singleton, List.mem_singleton] at hb
    rw [hasPermission, List.any_eq_false] at hfree
    exact hfree q hq (by rw [heq, hb]; exact decide_eq_true rfl)
  · have hne : row.roleId ≠ id := fun heq => hid (by rw [← hrole, heq])
    rw [permissionsOf_append, if_neg hne, List.append_nil]

/-- Removing a permission touches the role that has it. -/
theorem deletePermission_changesOnly {db : Database} {roleId : Uuid} {p : Permission}
    (hdb : db.Shaped) (hp : p ∈ db.permissionsOf roleId) :
    ChangesOnly (some roleId) db (db.deletePermission p.id) := by
  obtain ⟨row, hrow, hrole, rfl⟩ := mem_permissionsOf hp
  refine ⟨⟨?_, ?_⟩, fun id hid => rulesFor_congr rfl ?_⟩
  · exact fun q hq => hdb.rows q (List.mem_filter.mp hq).1
  · exact hdb.keys.sublist (List.filter_sublist.map _)
  · unfold Database.permissionsOf deletePermission
    dsimp only
    rw [List.filter_filter]
    refine congrArg (List.map readPermission) (List.filter_congr fun q hq => ?_)
    -- Another row with this identifier would be the same row, hence one of the other role.
    by_cases hq' : q.roleId = id
    · have hne : q.id ≠ row.id := by
        intro heq
        rw [List.inj_on_of_nodup_map hdb.keys hq hrow heq, hrole] at hq'
        exact hid (congrArg some hq')
      simp only [hq', readPermission, ne_eq, hne, not_false_eq_true, decide_true, Bool.and_self]
    · simp only [hq', decide_false, Bool.false_and]

theorem updatePermission_ok {db db' : Database} {p : Permission}
    (h : db.updatePermission p = .ok db') :
    ∃ row, storedPermission p = .ok row ∧
      db' = { db with
        permissions := db.permissions.map fun old =>
          if old.id = p.id then { row with roleId := old.roleId, createdAt := old.createdAt }
          else old } := by
  obtain ⟨row, hrow, h⟩ := Fault.bind_ok.mp h
  cases h
  exact ⟨row, hrow, rfl⟩

/-- Changing a permission touches the role that has it. -/
theorem updatePermission_changesOnly {db db' : Database} {p old : Permission} (hdb : db.Shaped)
    (hp : p.toTerms.Shaped) (hold : db.permission? p.id = some old)
    (h : db.updatePermission p = .ok db') : ChangesOnly (some old.roleId) db db' := by
  obtain ⟨row, hrow, rfl⟩ := updatePermission_ok h
  obtain ⟨hid, -, hshape⟩ := storedPermission_ok hp hrow
  obtain ⟨seen, hseen, hkey, rfl⟩ := permission?_some hold
  refine ⟨⟨?_, ?_⟩, fun id hother => rulesFor_congr rfl ?_⟩
  · intro q hq
    obtain ⟨r, hr, rfl⟩ := List.mem_map.mp hq
    split
    · exact ⟨hshape.action, hshape.subject, hshape.fields, hshape.conditions⟩
    · exact hdb.rows r hr
  · have hids : ∀ r : Permission, (if r.id = p.id then
        { row with roleId := r.roleId, createdAt := r.createdAt } else r).id = r.id := by
      intro r
      split
      · next heq => exact hid.trans heq.symm
      · rfl
    rw [List.map_map, show (Permission.id ∘ fun r : Permission => if r.id = p.id then
        { row with roleId := r.roleId, createdAt := r.createdAt } else r) = Permission.id from
      funext hids]
    exact hdb.keys
  · unfold Database.permissionsOf
    dsimp only
    rw [List.filter_map, List.map_map]
    have hrole : ∀ r : Permission, (if r.id = p.id then
        { row with roleId := r.roleId, createdAt := r.createdAt } else r).roleId = r.roleId := by
      intro r
      split <;> rfl
    rw [List.filter_congr fun r _ => by rw [Function.comp_apply, hrole]]
    refine List.map_congr_left fun r hr => ?_
    obtain ⟨hr, hrid⟩ := List.mem_filter.mp hr
    -- The row of another role has another identifier, so it is not the one written over.
    have hne : r.id ≠ p.id := by
      intro heq
      rw [List.inj_on_of_nodup_map hdb.keys hr hseen (heq.trans hkey.symm)] at hrid
      exact hother (congrArg some (of_decide_eq_true hrid))
    rw [Function.comp_apply, if_neg hne]

/-! ### Roles and accounts -/

theorem isNameTaken_eq_false_iff {db : Database} {name : String} {id : Uuid} :
    db.isNameTaken name id = false ↔ ∀ row ∈ db.roles, row.name = name → row.id = id := by
  simp only [isNameTaken, List.any_eq_false, Bool.and_eq_true, beq_iff_eq, decide_eq_true_eq,
    ne_eq, not_and, not_not]

/-- A role is added if its texts fit and neither its name nor its key is there already. -/
theorem insertRole_ok_iff {db db' : Database} {row : RoleRow} :
    db.insertRole row = .ok db' ↔ textsFit row.name row.description = true ∧
      (∀ other ∈ db.roles, other.name ≠ row.name) ∧ db.hasRole row.id = false ∧
      db' = { db with roles := db.roles ++ [row] } := by
  have hkeys : db.hasRole row.id = false ↔ ∀ other ∈ db.roles, other.id ≠ row.id := by
    simp only [hasRole, List.any_eq_false, decide_eq_true_eq, ne_eq]
  unfold insertRole
  constructor
  · intro h
    split at h
    · next hfit =>
        cases h
        rw [Bool.and_eq_true, Bool.and_eq_true, Bool.not_eq_true', Bool.not_eq_true',
          isNameTaken_eq_false_iff] at hfit
        obtain ⟨⟨hfit, hfree⟩, hnew⟩ := hfit
        exact ⟨hfit, fun other hother hsame =>
          hkeys.mp hnew other hother (hfree other hother hsame), hnew, rfl⟩
    · cases h
  · rintro ⟨hfit, hfree, hnew, rfl⟩
    have htaken : db.isNameTaken row.name row.id = false :=
      isNameTaken_eq_false_iff.mpr fun other hother hsame => absurd hsame (hfree other hother)
    rw [hfit, htaken, hnew]
    rfl

theorem insertRole_ok {db db' : Database} {row : RoleRow} (h : db.insertRole row = .ok db') :
    db.hasRole row.id = false ∧ db' = { db with roles := db.roles ++ [row] } :=
  (insertRole_ok_iff.mp h).2.2

theorem insertRole_changesOnly {db db' : Database} {row : RoleRow} (hdb : db.Shaped)
    (h : db.insertRole row = .ok db') : ChangesOnly (some row.id) db db' := by
  obtain ⟨-, rfl⟩ := insertRole_ok h
  refine ⟨⟨hdb.rows, hdb.keys⟩, fun id hid => rulesFor_congr ?_ rfl⟩
  have hne : row.id ≠ id := fun heq => hid (congrArg some heq)
  simp only [hasRole, List.any_append, List.any_cons, List.any_nil, hne, decide_false, Bool.or_false]

theorem updateRole_ok {db db' : Database} {id : Uuid} {name : String} {description : Option String}
    (h : db.updateRole id name description = .ok db') :
    db' = { db with
      roles := db.roles.map fun row =>
        if row.id = id then { row with name, description } else row } := by
  unfold updateRole at h
  split at h <;> cases h
  rfl

/-- A new name and a new description touch no rules. -/
theorem updateRole_changesOnly {db db' : Database} {id : Uuid} {name : String}
    {description : Option String} (hdb : db.Shaped)
    (h : db.updateRole id name description = .ok db') : ChangesOnly none db db' := by
  rw [updateRole_ok h]
  refine ⟨⟨hdb.rows, hdb.keys⟩, fun other _ => rulesFor_congr ?_ rfl⟩
  simp only [hasRole, List.any_map]
  congr 1
  funext row
  rw [Function.comp_apply]
  split <;> rfl

theorem deleteRole_changesOnly {db : Database} (hdb : db.Shaped) (id : Uuid) :
    ChangesOnly (some id) db (db.deleteRole id) := by
  refine ⟨⟨?_, ?_⟩, fun other hother => rulesFor_congr ?_ ?_⟩
  · exact fun q hq => hdb.rows q (List.mem_filter.mp hq).1
  · exact hdb.keys.sublist (List.filter_sublist.map _)
  · have hne : other ≠ id := fun heq => hother (congrArg some heq.symm)
    unfold hasRole deleteRole
    dsimp only
    rw [List.any_filter]
    congr 1
    funext row
    by_cases hrow : row.id = other
    · simp only [hrow, ne_eq, hne, not_false_eq_true, decide_true, Bool.and_self]
    · simp only [hrow, decide_false, Bool.and_false]
  · have hne : other ≠ id := fun heq => hother (congrArg some heq.symm)
    unfold Database.permissionsOf deleteRole
    dsimp only
    rw [List.filter_filter]
    refine congrArg (List.map readPermission) (List.filter_congr fun q _ => ?_)
    by_cases hq : q.roleId = other
    · simp only [hq, ne_eq, hne, not_false_eq_true, decide_true, Bool.and_self]
    · simp only [hq, decide_false, Bool.false_and]

theorem setAccountRole_changesOnly {db : Database} (hdb : db.Shaped) (id : Uuid)
    (roleId : Option Uuid) : ChangesOnly none db (db.setAccountRole id roleId) :=
  changesOnly_of_eq hdb rfl rfl

end Database

end Warrant
