import Warrant.Audit.Entry
import Warrant.Audit.Note
import Warrant.Proofs.Identifiers
import Warrant.Proofs.Reading

/-!
# Roles as the log can tell of them

A `Portrait` is a role as far as the audit log can tell of it: its id, its name,
and what its permissions say, in order. Portraits are drawn in two ways. From
the tables they are read off: `Database.portraits` takes the snapshots of the
permissions that a role has. From the log they are made step by step:
`Portrait.follow` is what one entry makes of the portraits before it.

This file matches the two, write by write: what each write of a table does to
the portraits of the tables is what an action of the log does to portraits. Ids
become texts on the way and are still told apart, and what the log stores of a
permission is what its row shows, since both store the conditions in the same
form.

Two things are asked of the tables beside their shape. A permission belongs to
a role that is there, as its foreign key has it, or else a new role might begin
with permissions that no entry tells of. And the reason of a permission is a
text or none, for of other values the log may keep another form.
-/

namespace Warrant

/-! ## What a permission shows of itself -/

/-- Whether a value can be the reason of a permission: a text, or none. -/
def Value.isReason : Value → Bool
  | .null => true
  | .text _ => true
  | _ => false

namespace Terms

/-- Terms whose flag is a truth value and whose reason is a text or none. -/
structure Plain (t : Terms) : Prop where
  inverted : ∃ b, t.inverted = .bool b
  reason : t.reason.isReason = true

end Terms

theorem Value.stored_of_isReason {v : Value} (h : v.isReason = true) : v.stored? = some v := by
  cases v <;> first | rfl | cases h

theorem Value.storedEntries?_cons {key : String} {v w : Value} {rest more : List (String × Value)}
    (hv : v.stored? = some w) (hrest : storedEntries? rest = some more) :
    storedEntries? ((key, v) :: rest) = some ((key, w) :: more) :=
  storedEntries?_cons_iff.mpr ⟨w, more, hv, hrest, rfl⟩

namespace Database

/-- What the log keeps of a permission is what its row shows. -/
theorem stored_shown {p row : Permission} (hp : p.toTerms.Shaped) (hplain : p.toTerms.Plain)
    (h : storedPermission p = .ok row) :
    (Value.map (p.toTerms.shown (.uuid p.id))).stored = .ok (.map (row.toTerms.shown (.uuid row.id))) := by
  obtain ⟨conditions, hconditions, rfl⟩ := storedPermission_eq hp h
  obtain ⟨as, ha⟩ := hp.action
  obtain ⟨ss, hs⟩ := hp.subject
  obtain ⟨fs, hf⟩ := hp.fields
  obtain ⟨b, hb⟩ := hplain.inverted
  have hentries : Value.storedEntries? (p.toTerms.shown (.uuid p.id)) =
      some (({ p with conditions } : Permission).toTerms.shown (.uuid p.id)) := by
    refine Value.storedEntries?_cons rfl <| Value.storedEntries?_cons ?_ <|
      Value.storedEntries?_cons ?_ <| Value.storedEntries?_cons ?_ <|
      Value.storedEntries?_cons (Value.stored_eq_ok.mp hconditions) <|
      Value.storedEntries?_cons ?_ <|
      Value.storedEntries?_cons (Value.stored_of_isReason hplain.reason) rfl
    · rw [ha]
      exact Value.stored_eq_ok.mp (stored_ofTexts as)
    · rw [hs]
      exact Value.stored_eq_ok.mp (stored_ofTexts ss)
    · rw [hf]
      exact Value.stored_eq_ok.mp (stored_optionTexts fs)
    · rw [hb]
      rfl
  refine Value.stored_eq_ok.mpr ?_
  rw [Value.stored?, hentries]
  rfl

end Database

/-! ## Portraits -/

/-- A role as the log can tell of it: its id, its name, and what its permissions say, in order. -/
structure Portrait where
  id : String
  name : Value
  rules : List Value

namespace Portrait

/-- The id in what a permission says. -/
def ruleId? (rule : Value) : Option String := (rule.member "id").text?

/-- The same portraits, but for what is to be different in those with an id. -/
def edit (id : String) (change : Portrait → Portrait) (ps : List Portrait) : List Portrait :=
  ps.map fun p => if p.id = id then change p else p

/-- What an action makes of portraits: what it was about, and what was there after it. -/
def apply (action : AuditAction) (id : String) (after : Value) (ps : List Portrait) :
    List Portrait :=
  match action with
  | .createRole => ps ++ [⟨id, after.member "name", []⟩]
  | .updateRole => edit id (fun p => { p with name := after.member "name" }) ps
  | .deleteRole => ps.filter fun p => p.id ≠ id
  | .grantPermission => edit id (fun p => { p with rules := p.rules ++ [after] }) ps
  | .updatePermission =>
      ps.map fun p =>
        { p with rules := p.rules.map fun rule => if ruleId? rule = some id then after else rule }
  | .revokePermission =>
      ps.map fun p => { p with rules := p.rules.filter fun rule => ruleId? rule ≠ some id }
  | _ => ps

/-- What an entry of the log makes of portraits. -/
def follow (ps : List Portrait) (e : AuditEntry) : List Portrait :=
  match AuditAction.ofName? e.action, e.entityId with
  | some action, some id => apply action id (e.changes.member "after") ps
  | _, _ => ps

/-- The portraits that entries of the log draw, one after the other. -/
def replay (entries : List AuditEntry) : List Portrait := entries.foldl follow []

end Portrait

namespace Database

/-- The roles of the tables: the name of each, and the snapshots of its permissions in order. -/
def portraits (db : Database) : Except Fault (List Portrait) :=
  db.roles.mapM fun row => do
    let snapshots ← (db.permissionsOf row.id).mapM Permission.snapshot
    .ok ⟨row.id.text, .text row.name, snapshots.map .map⟩

/-- What a permission shows, as a value. -/
def shownRule (p : Permission) : Value := .map (p.toTerms.shown (.uuid p.id))

/-- The portrait of a role whose permissions are in shape and plain. -/
def portrait (db : Database) (row : RoleRow) : Portrait :=
  ⟨row.id.text, .text row.name,
    (db.permissions.filter fun p => p.roleId = row.id).map shownRule⟩

/-- The portraits of all roles, if their permissions are in shape and plain. -/
def drawn (db : Database) : List Portrait := db.roles.map db.portrait

/-- Tables that the log can tell of: the permissions are in shape and plain, and each belongs to a
role that is there. -/
structure Told (db : Database) : Prop where
  shaped : db.Shaped
  plain : ∀ p ∈ db.permissions, p.toTerms.Plain
  owned : ∀ p ∈ db.permissions, db.hasRole p.roleId = true

/-- A plain permission is read as it is stored. -/
theorem readPermission_of_plain {p : Permission} (h : p.toTerms.Plain) : readPermission p = p :=
  readPermission_of_bool h.inverted

/-- Tables that the log can tell of have portraits. -/
theorem Told.portraits_eq {db : Database} (h : db.Told) : db.portraits = .ok db.drawn := by
  refine Fault.mapM_eq_map fun row _ => ?_
  have hread : db.permissionsOf row.id = db.permissions.filter fun p => p.roleId = row.id := by
    unfold permissionsOf
    rw [List.map_congr_left fun p hp =>
      readPermission_of_plain (h.plain p (List.mem_filter.mp hp).1), List.map_id']
  have hsnapshots : (db.permissionsOf row.id).mapM Permission.snapshot =
      .ok ((db.permissionsOf row.id).map fun p => p.toTerms.shown (.uuid p.id)) := by
    refine Fault.mapM_eq_map fun p hp => ?_
    obtain ⟨stored, hstored, -, rfl⟩ := mem_permissionsOf hp
    exact (readPermission_shaped (h.shaped.rows stored hstored)).snapshot_eq _
  rw [hsnapshots, hread]
  show Except.ok _ = Except.ok _
  rw [List.map_map]
  rfl

/-! ### What each write makes of the portraits -/

theorem insertRole_told {db db' : Database} {row : RoleRow} (hdb : db.Told)
    (h : db.insertRole row = .ok db') :
    db'.Told ∧ db'.drawn = db.drawn ++ [⟨row.id.text, .text row.name, []⟩] := by
  have hshaped := (insertRole_changesOnly hdb.shaped h).shaped
  obtain ⟨hfree, rfl⟩ := insertRole_ok h
  refine ⟨⟨hshaped, hdb.plain, fun p hp => ?_⟩, ?_⟩
  · rw [hasRole, List.any_append, Bool.or_eq_true]
    exact Or.inl (hdb.owned p hp)
  · -- No permission belongs to a role that was not there.
    have hnone : (db.permissions.filter fun p => p.roleId = row.id) = [] := by
      refine List.filter_eq_nil_iff.mpr fun p hp heq => ?_
      have hrole := hdb.owned p hp
      rw [of_decide_eq_true heq, hfree] at hrole
      cases hrole
    show (db.roles ++ [row]).map db.portrait = _
    rw [List.map_append, List.map_singleton, portrait, hnone]
    rfl

theorem portrait_id_iff {db : Database} {row : RoleRow} {id : Uuid} :
    (db.portrait row).id = id.text ↔ row.id = id := ⟨Uuid.text_inj, congrArg Uuid.text⟩

/-- To edit the portraits with the text of an id is to edit that of the role with the id. -/
theorem edit_drawn (db : Database) (id : Uuid) (change : Portrait → Portrait) :
    Portrait.edit id.text change db.drawn =
      db.roles.map fun row =>
        if row.id = id then change (db.portrait row) else db.portrait row := by
  unfold Portrait.edit drawn
  rw [List.map_map]
  refine List.map_congr_left fun row _ => ?_
  rw [Function.comp_apply]
  exact if_congr portrait_id_iff rfl rfl

theorem updateRole_told {db db' : Database} {id : Uuid} {name : String}
    {description : Option String} (hdb : db.Told) (h : db.updateRole id name description = .ok db') :
    db'.Told ∧ db'.drawn = Portrait.edit id.text (fun p => { p with name := .text name }) db.drawn := by
  have hshaped := (updateRole_changesOnly hdb.shaped h).shaped
  unfold updateRole at h
  split at h
  · cases h
    refine ⟨⟨hshaped, hdb.plain, fun p hp => ?_⟩, ?_⟩
    · obtain ⟨row, hrow, hid⟩ := hasRole_iff.mp (hdb.owned p hp)
      refine hasRole_iff.mpr ⟨_, List.mem_map_of_mem hrow, ?_⟩
      split <;> exact hid
    · rw [edit_drawn, drawn, List.map_map]
      refine List.map_congr_left fun row _ => ?_
      rw [Function.comp_apply]
      split <;> rfl
  · cases h

theorem deleteRole_told {db : Database} (hdb : db.Told) (id : Uuid) :
    (db.deleteRole id).Told ∧
      (db.deleteRole id).drawn = db.drawn.filter fun p => p.id ≠ id.text := by
  refine ⟨⟨(deleteRole_changesOnly hdb.shaped id).shaped, fun p hp => ?_, fun p hp => ?_⟩, ?_⟩
  · exact hdb.plain p (List.mem_filter.mp hp).1
  · obtain ⟨hp, hother⟩ := List.mem_filter.mp hp
    obtain ⟨row, hrow, hid⟩ := hasRole_iff.mp (hdb.owned p hp)
    refine hasRole_iff.mpr ⟨row, List.mem_filter.mpr ⟨hrow, ?_⟩, hid⟩
    rw [hid]
    exact hother
  · unfold drawn
    rw [List.filter_map]
    have hkept : (fun row : RoleRow => decide (row.id ≠ id)) =
        (fun p : Portrait => decide (p.id ≠ id.text)) ∘ db.portrait := by
      funext row
      rw [Function.comp_apply, decide_eq_decide]
      exact not_congr portrait_id_iff.symm
    show (db.roles.filter fun row => row.id ≠ id).map (db.deleteRole id).portrait = _
    rw [← hkept]
    refine List.map_congr_left fun row hrow => ?_
    -- A role that stays keeps its permissions.
    have hne : row.id ≠ id := of_decide_eq_true (List.mem_filter.mp hrow).2
    have hsame : ((db.permissions.filter fun p => p.roleId ≠ id).filter fun p => p.roleId = row.id) =
        db.permissions.filter fun p => p.roleId = row.id := by
      rw [List.filter_filter]
      refine List.filter_congr fun p _ => ?_
      by_cases hp : p.roleId = row.id
      · simp only [hp, ne_eq, hne, not_false_eq_true, decide_true, Bool.and_self]
      · simp only [hp, decide_false, Bool.false_and]
    show Portrait.mk _ _ (((db.permissions.filter fun p => p.roleId ≠ id).filter fun p =>
      p.roleId = row.id).map shownRule) = _
    rw [hsame]
    rfl

theorem insertPermission_told {db db' : Database} {p : Permission} (hdb : db.Told)
    (hp : p.toTerms.Shaped) (hplain : p.toTerms.Plain) (hrole : db.hasRole p.roleId = true)
    (h : db.insertPermission p = .ok db') :
    db'.Told ∧ ∃ row, storedPermission p = .ok row ∧
      db'.drawn = Portrait.edit p.roleId.text
        (fun q => { q with rules := q.rules ++ [shownRule row] }) db.drawn := by
  have hshaped := (insertPermission_changesOnly hdb.shaped hp h).shaped
  obtain ⟨row, hrow, -, rfl⟩ := insertPermission_ok h
  obtain ⟨conditions, -, heq⟩ := storedPermission_eq hp hrow
  refine ⟨⟨hshaped, fun q hq => ?_, fun q hq => ?_⟩, row, hrow, ?_⟩
  · rcases List.mem_append.mp hq with hq | hq
    · exact hdb.plain q hq
    · rw [List.mem_singleton.mp hq, heq]
      exact ⟨hplain.inverted, hplain.reason⟩
  · rcases List.mem_append.mp hq with hq | hq
    · exact hdb.owned q hq
    · rw [List.mem_singleton.mp hq, heq]
      exact hrole
  · have hrowRole : row.roleId = p.roleId := by rw [heq]
    rw [edit_drawn]
    refine List.map_congr_left fun r _ => ?_
    unfold portrait
    rw [List.filter_append, List.map_append, List.filter_singleton, hrowRole]
    by_cases hid : r.id = p.roleId
    · rw [if_pos hid, hid, decide_eq_true rfl]
      rfl
    · rw [if_neg hid, decide_eq_false fun heq => hid heq.symm]
      exact congrArg (Portrait.mk _ _) (List.append_nil _)

theorem ruleId?_shownRule (p : Permission) : Portrait.ruleId? (shownRule p) = some p.id.text := rfl

/-- A rule is about an id if it is what the permission with the id shows. -/
theorem ruleId?_iff {p : Permission} {id : Uuid} :
    Portrait.ruleId? (shownRule p) = some id.text ↔ p.id = id := by
  rw [ruleId?_shownRule, Option.some.injEq]
  exact ⟨Uuid.text_inj, congrArg Uuid.text⟩

/-- To change permissions where they are is to change what portraits say where they say it. -/
theorem drawn_map (db : Database) {change : Permission → Permission} {edit : Value → Value}
    (hrole : ∀ p, (change p).roleId = p.roleId)
    (hedit : ∀ p, shownRule (change p) = edit (shownRule p)) :
    ({ db with permissions := db.permissions.map change } : Database).drawn =
      db.drawn.map fun q => { q with rules := q.rules.map edit } := by
  unfold drawn
  rw [List.map_map]
  refine List.map_congr_left fun r _ => ?_
  unfold portrait
  rw [Function.comp_apply]
  dsimp only
  rw [List.filter_map, List.map_map, List.map_map]
  -- Whose a permission is stays as it was, so the same ones are found for the role.
  have hsame : ((fun p : Permission => decide (p.roleId = r.id)) ∘ change) =
      fun p => decide (p.roleId = r.id) := by
    funext p
    rw [Function.comp_apply, hrole]
  rw [hsame]
  exact congrArg (Portrait.mk _ _) (List.map_congr_left fun p _ => hedit p)

/-- To keep some permissions is to keep what portraits say of them. -/
theorem drawn_filter (db : Database) {keep : Permission → Bool} {kept : Value → Bool}
    (hkept : ∀ p, kept (shownRule p) = keep p) :
    ({ db with permissions := db.permissions.filter keep } : Database).drawn =
      db.drawn.map fun q => { q with rules := q.rules.filter kept } := by
  unfold drawn
  rw [List.map_map]
  refine List.map_congr_left fun r _ => ?_
  unfold portrait
  rw [Function.comp_apply]
  dsimp only
  have hsame : kept ∘ shownRule = keep := funext hkept
  rw [List.filter_map, hsame, List.filter_comm]

theorem updatePermission_told {db db' : Database} {p old : Permission} (hdb : db.Told)
    (hp : p.toTerms.Shaped) (hplain : p.toTerms.Plain) (hold : db.permission? p.id = some old)
    (h : db.updatePermission p = .ok db') :
    db'.Told ∧ ∃ row, storedPermission p = .ok row ∧
      db'.drawn = db.drawn.map fun q => { q with
        rules := q.rules.map fun rule =>
          if Portrait.ruleId? rule = some p.id.text then shownRule row else rule } := by
  have hshaped := (updatePermission_changesOnly hdb.shaped hp hold h).shaped
  obtain ⟨row, hrow, rfl⟩ := updatePermission_ok h
  obtain ⟨conditions, -, heq⟩ := storedPermission_eq hp hrow
  refine ⟨⟨hshaped, fun q hq => ?_, fun q hq => ?_⟩, row, hrow, ?_⟩
  · obtain ⟨r, hr, rfl⟩ := List.mem_map.mp hq
    split
    · rw [heq]
      exact ⟨hplain.inverted, hplain.reason⟩
    · exact hdb.plain r hr
  · obtain ⟨r, hr, rfl⟩ := List.mem_map.mp hq
    have howned := hdb.owned r hr
    split <;> exact howned
  · refine drawn_map db (fun q => ?_) fun q => ?_
    · split <;> rfl
    · rw [if_congr ruleId?_iff rfl rfl]
      split <;> rfl

theorem deletePermission_told {db : Database} {p : Permission} {roleId : Uuid} (hdb : db.Told)
    (hp : p ∈ db.permissionsOf roleId) :
    (db.deletePermission p.id).Told ∧
      (db.deletePermission p.id).drawn = db.drawn.map fun q => { q with
        rules := q.rules.filter fun rule => Portrait.ruleId? rule ≠ some p.id.text } := by
  refine ⟨⟨(deletePermission_changesOnly hdb.shaped hp).shaped, fun q hq => ?_, fun q hq => ?_⟩, ?_⟩
  · exact hdb.plain q (List.mem_filter.mp hq).1
  · exact hdb.owned q (List.mem_filter.mp hq).1
  · refine drawn_filter db fun q => ?_
    rw [decide_eq_decide]
    exact not_congr ruleId?_iff

theorem setAccountRole_told {db : Database} (hdb : db.Told) (id : Uuid) (roleId : Option Uuid) :
    (db.setAccountRole id roleId).Told ∧ (db.setAccountRole id roleId).drawn = db.drawn :=
  ⟨⟨⟨hdb.shaped.rows, hdb.shaped.keys⟩, hdb.plain, hdb.owned⟩, rfl⟩

end Database

end Warrant
