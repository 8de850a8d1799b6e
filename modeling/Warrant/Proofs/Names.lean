import Warrant.Proofs.Diagnosis
import Warrant.Proofs.Effects

/-!
# The names of roles

The names of roles are looked after twice. Operations trim a name, refuse an
empty one and look for another role that has it; the tables refuse a name that
is too long or taken, whoever writes it. What the tables refuse is a fault, and
a fault is answered as a change that failed. So it matters that operations find
out first whatever has a better answer.

For names that are taken they do. They look for the trimmed name among those of
the table, and the table holds trimmed names only: that is what operations keep,
whatever they are given and wherever they fail. The length of a name they leave
to the table.
-/

namespace Warrant

theorem Text.trim_trim (s : String) : trim (trim s) = trim s := by
  unfold trim
  rw [String.toList_ofList, trimBy_trimBy]

/-! ## Tables of names -/

/-- The texts of a role as they should be: a name without blanks around it that is not empty, and
no text longer than its column. -/
structure RoleRow.Clean (row : RoleRow) : Prop where
  trimmed : Text.trim row.name = row.name
  nonempty : row.name ≠ ""
  name_length : row.name.length ≤ Database.maxNameLength
  description_length : ∀ d, row.description = some d → d.length ≤ Database.maxDescriptionLength

namespace Database

/-- Roles have keys and names of their own, and clean texts. -/
structure Named (db : Database) : Prop where
  keys : (db.roles.map RoleRow.id).Nodup
  names : (db.roles.map RoleRow.name).Nodup
  clean : ∀ row ∈ db.roles, row.Clean

variable {db db' : Database} {id : Uuid} {name : String} {description : Option String}

theorem textsFit_iff : textsFit name description = true ↔
    name.length ≤ maxNameLength ∧ ∀ d, description = some d → d.length ≤ maxDescriptionLength := by
  unfold textsFit
  rw [Bool.and_eq_true, decide_eq_true_iff]
  cases description <;> simp

/-- A column without repetitions stays so if a row is added whose value is new to it. -/
theorem nodup_column {α β : Type} {rows : List α} {row : α} {column : α → β}
    (h : (rows.map column).Nodup) (hnew : ∀ other ∈ rows, column other ≠ column row) :
    ((rows ++ [row]).map column).Nodup := by
  rw [List.map_append, List.nodup_append]
  refine ⟨h, List.nodup_singleton _, fun a ha b hb => ?_⟩
  obtain ⟨other, hother, rfl⟩ := List.mem_map.mp ha
  rw [List.mem_singleton.mp hb]
  exact hnew other hother

namespace Named

theorem of_roles (h : db.Named) (hroles : db'.roles = db.roles) : db'.Named := by
  refine ⟨?_, ?_, ?_⟩ <;> rw [hroles]
  · exact h.keys
  · exact h.names
  · exact h.clean

theorem row_unique (h : db.Named) {row other : RoleRow} (hrow : row ∈ db.roles)
    (hother : other ∈ db.roles) (hid : row.id = other.id) : row = other :=
  List.inj_on_of_nodup_map h.keys hrow hother hid

theorem name_unique (h : db.Named) {row other : RoleRow} (hrow : row ∈ db.roles)
    (hother : other ∈ db.roles) (hname : row.name = other.name) : row = other :=
  List.inj_on_of_nodup_map h.names hrow hother hname

/-- The table accepts a new role only with a new key and a new name. -/
theorem insertRole (h : db.Named) {row : RoleRow} (htrimmed : Text.trim row.name = row.name)
    (hnonempty : row.name ≠ "") (hinsert : db.insertRole row = .ok db') : db'.Named := by
  obtain ⟨hfit, hfree, hnew, rfl⟩ := insertRole_ok_iff.mp hinsert
  obtain ⟨hname, hdescription⟩ := textsFit_iff.mp hfit
  have hkey : ∀ other ∈ db.roles, other.id ≠ row.id := fun other hother hid => by
    rw [hasRole_iff.mpr ⟨other, hother, hid⟩] at hnew
    cases hnew
  refine ⟨nodup_column h.keys hkey, nodup_column h.names hfree, ?_⟩
  rw [List.forall_mem_append, List.forall_mem_singleton]
  exact ⟨h.clean, htrimmed, hnonempty, hname, hdescription⟩

/-- The table accepts other texts for a role only if the name is its own or new. -/
theorem updateRole (h : db.Named) (htrimmed : Text.trim name = name) (hnonempty : name ≠ "")
    (hupdate : db.updateRole id name description = .ok db') : db'.Named := by
  unfold Database.updateRole at hupdate
  split at hupdate
  · next hfit =>
      cases hupdate
      rw [Bool.and_eq_true, textsFit_iff, Bool.not_eq_true', isNameTaken_eq_false_iff] at hfit
      obtain ⟨⟨hname, hdescription⟩, hfree⟩ := hfit
      refine ⟨?_, ?_, fun row hrow => ?_⟩
      · rw [List.map_map]
        refine (List.map_congr_left fun row _ => ?_).symm ▸ h.keys
        show (if row.id = id then _ else row).id = row.id
        split <;> rfl
      · rw [List.map_map]
        refine List.Nodup.map_on (fun row hrow other hother hsame => ?_) (List.Nodup.of_map _ h.keys)
        dsimp only [Function.comp] at hsame
        -- Of two rows, at most one is written, and it gets the name of no other.
        split at hsame
        · next hid =>
            split at hsame
            · next hid' => exact h.row_unique hrow hother (hid.trans hid'.symm)
            · next hid' => exact absurd (hfree other hother hsame.symm) hid'
        · next hid =>
            split at hsame
            · exact absurd (hfree row hrow hsame) hid
            · exact h.name_unique hrow hother hsame
      · obtain ⟨old, hold, rfl⟩ := List.mem_map.mp hrow
        split
        · exact ⟨htrimmed, hnonempty, hname, hdescription⟩
        · exact h.clean old hold
  · cases hupdate

theorem deleteRole (h : db.Named) (id : Uuid) : (db.deleteRole id).Named :=
  ⟨List.Nodup.sublist (List.filter_sublist.map _) h.keys,
    List.Nodup.sublist (List.filter_sublist.map _) h.names,
    fun row hrow => h.clean row (List.mem_of_mem_filter hrow)⟩

end Named

end Database

/-! ## What operations do to names -/

namespace Mutation

open Database

variable {db db' : Database}

theorem newName_ok {v : Value} {name : String} (h : newName v = .ok name) :
    Text.trim name = name ∧ name ≠ "" := by
  unfold newName at h
  split at h
  · split at h
    · cases h
    · next hnonempty =>
        cases h
        exact ⟨Text.trim_trim _, hnonempty⟩
  · cases h

/-- A new name of a role is trimmed and not empty; without one the role keeps the name it had. -/
theorem updateRole_named {id : Uuid} {name description : Value} {r : Role} (h : db.Named)
    (hwrites : (Command.updateRole id name description).Writes db r db')
    (hgiven : ∀ given, textIfGiven .nameNotText name = .ok (some given) → Text.trim given ≠ "") :
    db'.Named := by
  obtain ⟨old, name?, description?, hfound, hname, -, rfl, hupdate⟩ := hwrites
  cases name? with
  | none =>
      obtain ⟨row, hrow, -, rfl⟩ := Database.role?_row hfound
      exact h.updateRole (h.clean row hrow).trimmed (h.clean row hrow).nonempty hupdate
  | some given => exact h.updateRole (Text.trim_trim given) (hgiven given hname) hupdate

/-- The writes of all other commands leave names as they should be, whatever the command is given. -/
theorem writes_named {c : Command} {result : c.Result} (h : db.Named)
    (hwrites : c.Writes db result db') (hc : ∀ id name description, c ≠ .updateRole id name description) :
    db'.Named := by
  cases c with
  | addPermission roleId rule =>
      obtain ⟨-, -, hinsert⟩ := hwrites
      obtain ⟨row, -, -, rfl⟩ := insertPermission_ok hinsert
      exact h.of_roles rfl
  | removePermission roleId permissionId =>
      obtain ⟨-, -, rfl⟩ := hwrites
      exact h.of_roles rfl
  | updatePermission roleId permissionId change =>
      obtain ⟨old, terms, -, -, -, -, hupdate⟩ := hwrites
      obtain ⟨row, -, rfl⟩ := updatePermission_ok hupdate
      exact h.of_roles rfl
  | createRole name description =>
      obtain ⟨hname, -, -, hinsert⟩ := hwrites
      obtain ⟨htrimmed, hnonempty⟩ := newName_ok hname
      refine h.insertRole ?_ ?_ hinsert
      · exact htrimmed
      · exact hnonempty
  | updateRole id name description => exact absurd rfl (hc id name description)
  | deleteRole id =>
      obtain ⟨-, rfl⟩ := hwrites
      exact h.deleteRole id
  | reassignRole accountId roleId =>
      obtain ⟨old, -, -, -, rfl⟩ := hwrites
      exact h.of_roles rfl

theorem named_bound : Bound fun w w' => w.db.Named → w'.db.Named :=
  Bound.keeping fun h => h.of_roles rfl

theorem Operation.change_named (caller : Caller) (op : Operation) :
    Work.Within (fun w w' => w.db.Named → w'.db.Named) (op.stages caller).change := by
  by_cases hop : ∃ id name description, op = .one (.updateRole id name description)
  · -- That a given name is not empty is not told by the write, so the edit is looked at itself.
    obtain ⟨id, name, description, rfl⟩ := hop
    have hedit := Command.checkedEdit_atomic id name description
    intro w
    show w.db.Named → (((Command.updateRole id name description).stages caller).change w).2.db.Named
    rcases hrun : ((Command.updateRole id name description).stages caller).change w with
      ⟨f | done, w'⟩
    · rw [(World.state_eq.mp (hedit.error hrun).2).1]
      exact fun hw => hw
    · obtain ⟨hwrites, hgiven⟩ := hedit.ok hrun
      exact fun hw => updateRole_named hw hwrites hgiven
  · refine op.change_within named_bound caller fun c hc _ _ _ hwrites _ hw =>
      writes_named hw hwrites ?_
    rintro id name description rfl
    cases op with
    | one c => exact hop ⟨id, name, description, congrArg _ hc.symm⟩
    | addPermissions roleId rules =>
        obtain ⟨items, -, item, -, rule, -, hmade⟩ := hc
        cases hmade
    | removePermissions roleId ids =>
        obtain ⟨permissionId, -, hmade⟩ := hc
        cases hmade

/-- One operation, however it ends, leaves names as they should be. -/
theorem Operation.execute_named (caller : Caller) (op : Operation) {w : World} (h : w.db.Named) :
    (op.execute caller w).2.db.Named := by
  rw [op.execute_eq caller]
  refine Stages.run_within named_bound (op.change_named caller) (fun done w hw => ?_)
    (op.close_within named_bound caller) w h
  rw [Stages.reload_db]
  exact hw

end Mutation

/-! ## Names that are taken -/

namespace Database.Named

variable {db : Database}

/-- A role is found by its key. -/
theorem role?_of_mem (h : db.Named) {row : RoleRow} (hrow : row ∈ db.roles) :
    db.role? row.id = some (row.withPermissions (db.permissionsOf row.id)) := by
  obtain ⟨r, hr⟩ := exists_role? (hasRole_iff.mpr ⟨row, hrow, rfl⟩)
  obtain ⟨found, hfound, hid, rfl⟩ := role?_row hr
  rw [hr, h.row_unique hfound hrow hid]

/-- A role is found by its name. -/
theorem roleNamed?_of_mem (h : db.Named) {row : RoleRow} (hrow : row ∈ db.roles) :
    (db.roleNamed? row.name).bind db.role? =
      some (row.withPermissions (db.permissionsOf row.id)) := by
  have hfind : (db.roles.find? fun other => other.name == row.name) = some row := by
    cases hfound : db.roles.find? fun other => other.name == row.name with
    | none => exact absurd (beq_self_eq_true row.name) (List.find?_eq_none.mp hfound row hrow)
    | some other =>
        have hname : other.name = row.name := by simpa using List.find?_some hfound
        rw [h.name_unique (List.mem_of_find?_eq_some hfound) hrow hname]
  rw [← h.role?_of_mem hrow, roleNamed?, hfind]
  rfl

/-- The table takes the texts again that a role has. -/
theorem updateRole_apply (h : db.Named) {row : RoleRow} (hrow : row ∈ db.roles) :
    ∃ db', db.updateRole row.id row.name row.description = .ok db' := by
  have hclean := h.clean row hrow
  have hfit : textsFit row.name row.description = true :=
    textsFit_iff.mpr ⟨hclean.name_length, hclean.description_length⟩
  have hfree : db.isNameTaken row.name row.id = false :=
    isNameTaken_eq_false_iff.mpr fun other hother hsame =>
      congrArg RoleRow.id (h.name_unique hother hrow hsame)
  unfold Database.updateRole
  rw [hfit, hfree]
  exact ⟨_, rfl⟩

end Database.Named

namespace Mutation

open Database

variable {w : World} {id : Uuid} {row : RoleRow} {given : String}

/-- A role is not added under a name that another has, and the caller is told so. -/
theorem insertRole_taken (hsound : w.faults = FaultPlan.none) (h : w.db.Named) {r : Role}
    (hrow : row ∈ w.db.roles) (hname : row.name = r.name) :
    ∃ w', insertRole r w = (.error (.refused (.invalid (.nameTaken r.name))), w') := by
  have hopen : ({ w with steps := w.steps + 1 } : World).faults = FaultPlan.none := hsound
  obtain ⟨w₁, hbody, -⟩ := insertRoleBody_apply hopen r
  rw [← hname, h.roleNamed?_of_mem hrow, hname] at hbody
  exact ⟨_, Work.asMutation_refused (Work.transact_apply_error hsound hbody)⟩

theorem draftRole_faults (name description : Value) :
    Work.Keeps World.faults (draftRole name description) := by
  have hclock : Work.Keeps World.faults Work.readClock := fun w => by
    unfold Work.readClock
    split <;> rfl
  exact Work.Keeps.bind (Work.Keeps.ofResult _) fun _ =>
    Work.Keeps.bind (Work.Keeps.ofResult _) fun _ => Work.Keeps.bind (fun _ => rfl) fun _ =>
      Work.Keeps.bind hclock fun _ => Work.Keeps.pure _

/-- To create a role under the name of another is not valid. -/
theorem createRole_taken (hsound : w.faults = FaultPlan.none) (hclock : w.clock.Runs)
    (h : w.db.Named) (hrow : row ∈ w.db.roles) (hname : row.name = Text.trim given)
    (description : Value) (caller : Caller) :
    ∃ why, (createRole (.text given) description caller w).1 =
      .error (.refused (.invalid why)) := by
  have hchange : ∃ why w', insertDraft (.text given) description w =
      (.error (.refused (.invalid why)), w') := by
    rcases hdraft : draftRole (.text given) description w with ⟨f | r, w₁⟩
    · obtain ⟨why, rfl⟩ := draftRole_error hdraft hclock
      exact ⟨why, w₁, Work.bind_of_error hdraft⟩
    · have hsame := (World.state_eq.mp ((draftRole_keeps _ _).after hdraft)).1
      have hname' : row.name = r.name := by
        have hnew := (draftRole_ok hdraft).1
        have hnonempty : Text.trim given ≠ "" := hname ▸ (h.clean row hrow).nonempty
        rw [newName, if_neg hnonempty] at hnew
        rw [hname, Except.ok.inj hnew]
      rw [← hsame] at h hrow
      obtain ⟨w₂, hinsert⟩ := insertRole_taken
        (((draftRole_faults _ _).after hdraft).trans hsound) h hrow hname'
      refine ⟨.nameTaken r.name, w₂, ?_⟩
      unfold insertDraft
      rw [Work.bind_of_ok hdraft, Work.bind_of_error hinsert]
  obtain ⟨why, w', hchange⟩ := hchange
  have hrun := (Command.createRole (.text given) description).execute_eq caller
  refine ⟨why, ?_⟩
  show ((Command.createRole (.text given) description).execute caller w).1 = _
  rw [hrun, Stages.run_of_error hchange]
  rfl

theorem rename_taken (hsound : w.faults = FaultPlan.none) (h : w.db.Named) {r : Role}
    (hrow : row ∈ w.db.roles) (hother : row.id ≠ r.id) (hname : row.name = Text.trim given) :
    ∃ w', rename r given w = (.error (.refused (.invalid (.nameTaken (Text.trim given)))), w') := by
  obtain ⟨w₁, hread, -⟩ := Store.roleNamed_apply hsound (Text.trim given)
  rw [← hname, h.roleNamed?_of_mem hrow, hname] at hread
  refine ⟨w₁, ?_⟩
  unfold rename
  rw [if_neg (hname ▸ (h.clean row hrow).nonempty), Work.bind_of_ok hread]
  exact congrFun (if_neg hother) w₁

theorem rename_own (hsound : w.faults = FaultPlan.none) (h : w.db.Named)
    (hrow : row ∈ w.db.roles) (ps : List Permission) :
    ∃ w', rename (row.withPermissions ps) row.name w = (.ok (row.withPermissions ps), w') ∧
      w'.faults = FaultPlan.none := by
  obtain ⟨w₁, hread, hsound₁⟩ := Store.roleNamed_apply hsound row.name
  rw [h.roleNamed?_of_mem hrow] at hread
  refine ⟨w₁, ?_, hsound₁⟩
  unfold rename
  rw [(h.clean row hrow).trimmed, if_neg (h.clean row hrow).nonempty, Work.bind_of_ok hread]
  exact congrFun (if_pos rfl) w₁

/-- A role is not given the name of another, and the caller is told so. -/
theorem editRole_taken (hsound : w.faults = FaultPlan.none) (h : w.db.Named)
    (hrole : w.db.hasRole id = true) (hrow : row ∈ w.db.roles) (hother : row.id ≠ id)
    (hname : row.name = Text.trim given) (description : Option String) :
    ∃ w', editRole id (some given) description w =
      (.error (.refused (.invalid (.nameTaken (Text.trim given)))), w') := by
  have hopen : ({ w with steps := w.steps + 1 } : World).faults = FaultPlan.none := hsound
  obtain ⟨r, w₁, hread, hsound₁⟩ := Store.existingRole_apply hopen hrole
  obtain ⟨hfound, hsame⟩ := Store.existingRole_ok hread
  have hdb : w₁.db = w.db := (World.state_eq.mp hsame).1
  rw [← hdb] at h hrow
  obtain ⟨w₂, hrename⟩ := rename_taken hsound₁ h hrow
    (fun hid => hother (hid.trans (role?_some hfound).2.1)) hname
  have hbody : editBody id (some given) description { w with steps := w.steps + 1 } =
      (.error (.refused (.invalid (.nameTaken (Text.trim given)))), w₂) := by
    unfold editBody
    rw [Work.bind_of_ok hread]
    exact Work.bind_of_error hrename
  rw [editRole_eq]
  exact ⟨_, Work.asMutation_refused (Work.transact_apply_error hsound hbody)⟩

/-- A role can be given the name that it has, and is then as it was. -/
theorem editRole_own (hsound : w.faults = FaultPlan.none) (h : w.db.Named)
    (hrow : row ∈ w.db.roles) :
    ∃ w', editRole row.id (some row.name) none w =
      (.ok (row.withPermissions (w.db.permissionsOf row.id),
        row.withPermissions (w.db.permissionsOf row.id)), w') := by
  have hopen : ({ w with steps := w.steps + 1 } : World).faults = FaultPlan.none := hsound
  obtain ⟨r, w₁, hread, hsound₁⟩ := Store.existingRole_apply hopen
    (hasRole_iff.mpr ⟨row, hrow, rfl⟩)
  obtain ⟨hfound, hsame⟩ := Store.existingRole_ok hread
  obtain rfl := Option.some.inj (hfound.symm.trans (h.role?_of_mem hrow))
  obtain ⟨db', hupdate⟩ := h.updateRole_apply hrow
  have hdb : w₁.db = w.db := (World.state_eq.mp hsame).1
  rw [← hdb] at h hrow hupdate
  obtain ⟨w₂, hrename, hsound₂⟩ := rename_own hsound₁ h hrow (w.db.permissionsOf row.id)
  rw [← (World.state_eq.mp ((rename_keeps _ _).after hrename)).1] at hupdate
  have hbody : editBody row.id (some row.name) none { w with steps := w.steps + 1 } =
      (.ok (row.withPermissions (w.db.permissionsOf row.id),
        row.withPermissions (w.db.permissionsOf row.id)),
        { w₂ with db := db', steps := w₂.steps + 1 }) := by
    unfold editBody
    rw [Work.bind_of_ok hread]
    exact (Work.bind_of_ok hrename).trans
      (Work.bind_of_ok (Work.write_apply hsound₂ .roleUpdate hupdate))
  rw [editRole_eq]
  exact ⟨_, Work.asMutation_ok.mpr (Work.transact_apply hsound hbody hsound₂)⟩

/-- To give a role the name of another is not valid. -/
theorem updateRole_taken (hsound : w.faults = FaultPlan.none) (h : w.db.Named)
    (hrole : w.db.hasRole id = true) (hrow : row ∈ w.db.roles) (hother : row.id ≠ id)
    (hname : row.name = Text.trim given) (description : Value) (caller : Caller) :
    ∃ why, (updateRole id (.text given) description caller w).1 =
      .error (.refused (.invalid why)) := by
  have hchange : ∃ why w', ((Command.updateRole id (.text given) description).stages caller).change
      w = (.error (.refused (.invalid why)), w') := by
    show ∃ why w', (do
      let d ← Work.ofResult (Failure.ofRefusal (textIfGiven .descriptionNotText description))
      editRole id (some given) d : Work (Role × Role)) w = (.error (.refused (.invalid why)), w')
    cases hd : textIfGiven .descriptionNotText description with
    | error why =>
        obtain rfl := textIfGiven_error hd
        exact ⟨.descriptionNotText, w, rfl⟩
    | ok d => exact ⟨_, editRole_taken hsound h hrole hrow hother hname d⟩
  obtain ⟨why, w', hchange⟩ := hchange
  have hrun := (Command.updateRole id (.text given) description).execute_eq caller
  refine ⟨why, ?_⟩
  show ((Command.updateRole id (.text given) description).execute caller w).1 = _
  rw [hrun, Stages.run_of_error hchange]
  rfl

theorem updateRole_own (hsound : w.faults = FaultPlan.none) (h : w.db.Named)
    (hrow : row ∈ w.db.roles) (caller : Caller) :
    (updateRole row.id (.text row.name) .null caller w).1 =
      .ok (row.withPermissions (w.db.permissionsOf row.id)) := by
  obtain ⟨w', hchange⟩ := editRole_own hsound h hrow
  have hrun := (Command.updateRole row.id (.text row.name) .null).execute_eq caller
  show ((Command.updateRole row.id (.text row.name) .null).execute caller w).1 = _
  rw [hrun, Stages.run_of_ok (s := (Command.updateRole row.id (.text row.name) .null).stages caller)
    hchange (Audit.record_logs _)]
  rfl

end Mutation

/-! ## Names over a period -/

/-- A period leaves names as they should be, whatever its operations are given and wherever they
fail. At its end, if no step fails, a name that another role has is not valid for a role, be it new
or old, and the name that a role has is. -/
theorem Period.named {w w' : World} {events : List Event} (h : Period w events w')
    (hw : w.db.Named) :
    w'.db.Named ∧
      (w'.faults = FaultPlan.none → ∀ (caller : Caller), ∀ row ∈ w'.db.roles,
        (∀ (given : String) (description : Value), row.name = Text.trim given →
          (w'.clock.Runs → ∃ why, (Mutation.createRole (.text given) description caller w').1 =
            .error (.refused (.invalid why))) ∧
          ∀ other ∈ w'.db.roles, other.id ≠ row.id →
            ∃ why, (Mutation.updateRole other.id (.text given) description caller w').1 =
              .error (.refused (.invalid why))) ∧
        (Mutation.updateRole row.id (.text row.name) .null caller w').1 =
          .ok (row.withPermissions (w'.db.permissionsOf row.id))) := by
  have hnamed : w'.db.Named :=
    h.keeping (fun h => h.of_roles rfl) (fun d _ hd => d.op.execute_named d.caller hd) hw
  refine ⟨hnamed, fun hsound caller row hrow => ⟨fun given description hname => ⟨?_, ?_⟩, ?_⟩⟩
  · exact fun hclock => Mutation.createRole_taken hsound hclock hnamed hrow hname description caller
  · exact fun other hother hid => Mutation.updateRole_taken hsound hnamed
      (Database.hasRole_iff.mpr ⟨other, hother, rfl⟩) hrow (Ne.symm hid) hname description caller
  · exact Mutation.updateRole_own hsound hnamed hrow caller

/-! ### Clerks and editors -/

theorem World.sample_named (faults : FaultPlan) : (sample faults).db.Named := by
  refine ⟨List.nodup_singleton _, List.nodup_singleton _, fun row hrow => ?_⟩
  rw [List.mem_singleton.mp hrow]
  exact ⟨by decide +kernel, by decide, by decide, nofun⟩

/-- The sample after editors were added, a role that came with blanks around its name. -/
def World.withEditors : World :=
  { (Mutation.Operation.execute {} (.one (.createRole (.text " editors\t") .null))
      (sample FaultPlan.none)).2 with
    clock := ⟨⟨0, some 0⟩, 1⟩
    faults := FaultPlan.none }

/-- Whatever blanks come with it, the name of the clerks is not for others. -/
theorem Period.named_clerks :
    World.withEditors.db.Named ∧
      (∃ why, (Mutation.createRole (.text "clerks ") .null {} .withEditors).1 =
        .error (.refused (.invalid why))) ∧
      ∃ editors ∈ World.withEditors.db.roles, editors.name = "editors" ∧
        ∃ why, (Mutation.updateRole editors.id (.text "\nclerks") .null {} .withEditors).1 =
          .error (.refused (.invalid why)) := by
  have hmade := (Period.start (World.sample FaultPlan.none)).operation
    (.one (.createRole (.text " editors\t") .null)) {}
  have hperiod : Period _ _ World.withEditors :=
    hmade.meanwhile World.withEditors.db.auditLog rfl rfl
  obtain ⟨hnamed, hnames⟩ := hperiod.named (World.sample_named _)
  have hrows : World.withEditors.db.roles.map RoleRow.name = ["clerks", "editors"] := by
    decide +kernel
  have hrow : ∀ name ∈ ["clerks", "editors"], ∃ row ∈ World.withEditors.db.roles,
      row.name = name := fun name hname => List.mem_map.mp (hrows ▸ hname)
  obtain ⟨clerks, hclerks, hname⟩ := hrow "clerks" List.mem_cons_self
  obtain ⟨editors, heditors, hname'⟩ := hrow "editors" (List.mem_cons_of_mem _ List.mem_cons_self)
  have htaken := (hnames rfl {} clerks hclerks).1
  have hclock : World.withEditors.clock.Runs := by
    unfold Clock.Runs
    decide
  refine ⟨hnamed, (htaken "clerks " .null (hname.trans (by decide +kernel))).1 hclock,
    editors, heditors, hname', ?_⟩
  refine (htaken "\nclerks" .null (hname.trans (by decide +kernel))).2 editors heditors fun hid => ?_
  rw [hnamed.row_unique heditors hclerks hid, hname] at hname'
  exact absurd hname' (by decide)

end Warrant
