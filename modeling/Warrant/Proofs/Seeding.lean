import Warrant.Proofs.Effects
import Warrant.Seed

/-!
# What seeding leaves behind

Seeding goes through its definitions one by one, and through the rules of each
one by one. Each role and each rule is a transaction of its own, so a run that
breaks off stands somewhere between two of them: the definitions before that
point are done, those after it are not, and at most one is there in part, as a
role with the first of its rules.

`Sown` says what can become of one definition and `SownAll` what can become of
them all, in terms of the tables alone. The two say nothing of the step that
failed, so what is drawn from them holds wherever it was. A run that finds a
role of the name leaves it alone, the ones that an earlier run left in part
among them; this is what a second run comes to.
-/

namespace Warrant

/-- What a rule says once it is a row, its conditions as the table stores them. -/
def RuleInput.StoredAs (rule : RuleInput) (t : Terms) : Prop :=
  ∃ conditions, (Value.ofOption .map rule.conditions).stored = .ok conditions ∧
    t = { action := storedActions rule.action
          subject := storedSubjects rule.subject
          fields := .ofOption .ofTexts rule.fields
          conditions
          inverted := .bool rule.inverted
          reason := rule.reason }

/-! ## Tables that grow -/

namespace Database

/-- There is no role with a name. -/
def Lacks (db : Database) (name : String) : Prop := ∀ row ∈ db.roles, row.name ≠ name

/-- Every permission is that of a role. -/
def Anchored (db : Database) : Prop := ∀ p ∈ db.permissions, db.hasRole p.roleId = true

instance (db : Database) (name : String) : Decidable (db.Lacks name) :=
  inferInstanceAs (Decidable (∀ row ∈ db.roles, row.name ≠ name))

instance (db : Database) : Decidable db.Anchored :=
  inferInstanceAs (Decidable (∀ p ∈ db.permissions, db.hasRole p.roleId = true))

/-- What the permissions of a role say, in their order. -/
def termsOf (db : Database) (id : Uuid) : List Terms := (db.permissionsOf id).map Permission.toTerms

variable {db db₁ db₂ : Database} {id : Uuid} {name : String} {ts us : List Terms}

theorem roleNamed?_isSome_iff :
    ((db.roleNamed? name).bind db.role?).isSome = true ↔ ¬ db.Lacks name := by
  unfold roleNamed?
  cases hfound : db.roles.find? fun row => row.name == name with
  | none =>
      have hlacks : db.Lacks name := fun row hrow hname =>
        List.find?_eq_none.mp hfound row hrow (beq_iff_eq.mpr hname)
      exact iff_of_false Bool.false_ne_true (not_not_intro hlacks)
  | some row =>
      have hrow := List.mem_of_find?_eq_some hfound
      have hname : row.name = name := by simpa using List.find?_some hfound
      obtain ⟨r, hr⟩ := exists_role? (hasRole_iff.mpr ⟨row, hrow, rfl⟩)
      refine iff_of_true ?_ fun hlacks => hlacks row hrow hname
      rw [Option.map_some, Option.bind_some, hr]
      rfl

theorem mem_of_named {row : RoleRow} (h : db.roles.filter (fun row => row.name = name) = [row]) :
    row ∈ db.roles ∧ row.name = name := by
  have hmem : row ∈ db.roles.filter fun row => row.name = name := h ▸ List.mem_cons_self
  rw [List.mem_filter, decide_eq_true_eq] at hmem
  exact hmem

/-- A role that is not there has no permissions. -/
theorem Anchored.termsOf_absent (h : db.Anchored) (hrole : db.hasRole id = false) :
    db.termsOf id = [] := by
  have hnone : db.permissions.filter (fun p => p.roleId = id) = [] := by
    refine List.filter_eq_nil_iff.mpr fun p hp hid => ?_
    have hanchor := h p hp
    rw [of_decide_eq_true hid, hrole] at hanchor
    cases hanchor
  rw [termsOf, permissionsOf, hnone]
  rfl

/-- One database after another: one role was given permissions that say this, and nothing else is
different about roles and permissions. -/
structure Adds (id : Uuid) (ts : List Terms) (db db' : Database) : Prop where
  roles : db'.roles = db.roles
  own : db'.termsOf id = db.termsOf id ++ ts
  others : ∀ other, other ≠ id → db'.permissionsOf other = db.permissionsOf other
  anchored : db.hasRole id = true → db.Anchored → db'.Anchored

namespace Adds

theorem refl (id : Uuid) (db : Database) : Adds id [] db db :=
  ⟨rfl, (List.append_nil _).symm, fun _ _ => rfl, fun _ h => h⟩

theorem hasRole (h : Adds id ts db db₁) (other : Uuid) : db₁.hasRole other = db.hasRole other := by
  rw [Database.hasRole, h.roles, Database.hasRole]

theorem trans (h : Adds id ts db db₁) (h' : Adds id us db₁ db₂) : Adds id (ts ++ us) db db₂ := by
  refine ⟨h'.roles.trans h.roles, ?_, fun other hother => ?_, fun hrole hanchored => ?_⟩
  · rw [h'.own, h.own, List.append_assoc]
  · exact (h'.others other hother).trans (h.others other hother)
  · exact h'.anchored ((h.hasRole id).trans hrole) (h.anchored hrole hanchored)

theorem withLog (h : Adds id ts db db₁) (log : List AuditEntry) : Adds id ts db (db₁.withLog log) :=
  ⟨h.roles, h.own, h.others, h.anchored⟩

theorem append {row : Permission} (hrow : row.roleId = id) :
    Adds id [(readPermission row).toTerms] db { db with permissions := db.permissions ++ [row] } := by
  refine ⟨rfl, ?_, fun other hother => ?_, fun hrole hanchored => ?_⟩
  · rw [termsOf, permissionsOf_append, if_pos hrow, List.map_append]
    rfl
  · have hne : row.roleId ≠ other := fun hid => hother (hid.symm.trans hrow)
    rw [permissionsOf_append, if_neg hne, List.append_nil]
  · unfold Anchored
    rw [List.forall_mem_append, List.forall_mem_singleton, hrow]
    exact ⟨hanchored, hrole⟩

/-- A rule that is added says what it says as a row. -/
theorem insertPermission {rule : RuleInput} {t : Terms} (hrule : rule.StoredAs t) {key : Uuid}
    {createdAt : Instant} (h : db.insertPermission (rule.toPermission key id createdAt) = .ok db₁) :
    Adds id [t] db db₁ := by
  obtain ⟨row, hrow, -, rfl⟩ := insertPermission_ok h
  obtain ⟨conditions, hconditions, rfl⟩ :=
    storedPermission_eq (rule.toPermission_shaped key id createdAt) hrow
  obtain ⟨stored, hstored, rfl⟩ := hrule
  cases hconditions.symm.trans hstored
  let row : Permission := { rule.toPermission key id createdAt with conditions }
  have happend : Adds id [(readPermission row).toTerms] db
      { db with permissions := db.permissions ++ [row] } := append rfl
  exact happend

end Adds

/-- One database after another: there may be more roles, with some of these names, and no role is
different that was there before. -/
structure Grows (names : List String) (db db' : Database) : Prop where
  roles : ∃ new, db'.roles = db.roles ++ new ∧ ∀ row ∈ new, row.name ∈ names ∧ db.Lacks row.name
  permissions : ∀ id, db.hasRole id = true → db'.permissionsOf id = db.permissionsOf id
  anchored : db.Anchored → db'.Anchored

namespace Grows

variable {names more : List String}

theorem refl (names : List String) (db : Database) : Grows names db db :=
  ⟨⟨[], (List.append_nil _).symm, nofun⟩, fun _ _ => rfl, fun h => h⟩

theorem mem (h : Grows names db db₁) {row : RoleRow} (hrow : row ∈ db.roles) : row ∈ db₁.roles := by
  obtain ⟨new, hroles, -⟩ := h.roles
  rw [hroles]
  exact List.mem_append_left new hrow

theorem hasRole (h : Grows names db db₁) (hrole : db.hasRole id = true) :
    db₁.hasRole id = true := by
  obtain ⟨row, hrow, hid⟩ := hasRole_iff.mp hrole
  exact hasRole_iff.mpr ⟨row, h.mem hrow, hid⟩

theorem lacks_before (h : Grows names db db₁) (hlacks : db₁.Lacks name) : db.Lacks name :=
  fun row hrow => hlacks row (h.mem hrow)

/-- A name that is not among the new ones is as new as before. -/
theorem lacks (h : Grows names db db₁) (hname : name ∉ names) (hlacks : db.Lacks name) :
    db₁.Lacks name := by
  obtain ⟨new, hroles, hnew⟩ := h.roles
  unfold Lacks
  rw [hroles, List.forall_mem_append]
  refine ⟨hlacks, fun row hrow hsame => hname ?_⟩
  rw [← hsame]
  exact (hnew row hrow).1

theorem mono (h : Grows names db db₁) (hnames : names ⊆ more) : Grows more db db₁ := by
  obtain ⟨new, hroles, hnew⟩ := h.roles
  exact ⟨⟨new, hroles, fun row hrow => (hnew row hrow).imp_left (@hnames _)⟩, h.permissions, h.anchored⟩

theorem trans (h : Grows names db db₁) (h' : Grows names db₁ db₂) : Grows names db db₂ := by
  obtain ⟨new, hroles, hnew⟩ := h.roles
  obtain ⟨newer, hroles', hnewer⟩ := h'.roles
  refine ⟨⟨new ++ newer, ?_, ?_⟩, fun id hrole => ?_, fun hanchored => ?_⟩
  · rw [hroles', hroles, List.append_assoc]
  · rw [List.forall_mem_append]
    exact ⟨hnew, fun row hrow => (hnewer row hrow).imp_right h.lacks_before⟩
  · exact (h'.permissions id (h.hasRole hrole)).trans (h.permissions id hrole)
  · exact h'.anchored (h.anchored hanchored)

end Grows

end Database

namespace Seed

/-! ## Definitions -/

/-- What a definition asks for: a role with a name, perhaps a description, and permissions that say
this. -/
structure Definition where
  name : String
  description : Option String
  terms : List Terms

/-- The definition with only so many permissions. -/
def Definition.upTo (d : Definition) (k : Nat) : Definition := { d with terms := d.terms.take k }

/-- There is exactly one role of the name, and it is as defined. -/
def Definition.Planted (d : Definition) (db : Database) : Prop :=
  ∃ row, db.roles.filter (fun row => row.name = d.name) = [row] ∧ row.description = d.description ∧
    db.termsOf row.id = d.terms

/-- The texts of a definition are as they should be: a name without blanks around it that is not
empty, and no text longer than its column. -/
structure Definition.Clean (d : Definition) : Prop where
  trimmed : Text.trim d.name = d.name
  nonempty : d.name ≠ ""
  fits : Database.textsFit d.name d.description = true

/-- A value that defines a role as it should, with rules that can all be read and stored. -/
structure Defines (v : Value) (d : Definition) : Prop where
  name : required v "name" = .ok (.text d.name)
  description : v.member "description" = .ofOption .text d.description
  rules : ∃ permissions items rules, required v "permissions" = .ok permissions ∧
    permissions.items = .ok items ∧ readRules items = .ok rules ∧
    List.Forall₂ RuleInput.StoredAs rules d.terms
  clean : d.Clean

variable {d : Definition} {ds : List Definition} {db db₁ db₂ : Database} {ok : Bool}

theorem Definition.Planted.grown {names : List String} (h : d.Planted db)
    (hgrows : Database.Grows names db db₁) : d.Planted db₁ := by
  obtain ⟨row, hrows, hdescription, hterms⟩ := h
  obtain ⟨new, hroles, hnew⟩ := hgrows.roles
  obtain ⟨hrow, hname⟩ := Database.mem_of_named hrows
  have hnone : new.filter (fun row => row.name = d.name) = [] :=
    List.filter_eq_nil_iff.mpr fun other hother hsame =>
      (hnew other hother).2 row hrow (hname.trans (of_decide_eq_true hsame).symm)
  refine ⟨row, ?_, hdescription, ?_⟩
  · rw [hroles, List.filter_append, hrows, hnone, List.append_nil]
  · rw [Database.termsOf, hgrows.permissions _ (Database.hasRole_iff.mpr ⟨row, hrow, rfl⟩)]
    exact hterms

/-- The role of a definition has as many permissions as are defined. -/
theorem Definition.Planted.count (h : d.Planted db) :
    ∃ row ∈ db.roles, row.name = d.name ∧ (db.permissionsOf row.id).length = d.terms.length := by
  obtain ⟨row, hrows, -, hterms⟩ := h
  obtain ⟨hrow, hname⟩ := Database.mem_of_named hrows
  exact ⟨row, hrow, hname, by rw [← hterms, Database.termsOf, List.length_map]⟩

/-- A new role, and what it is given afterwards. -/
theorem planted_of_adds {row : RoleRow} {ts : List Terms} (hanchored : db.Anchored)
    (hinsert : db.insertRole row = .ok db₁) (hadds : Database.Adds row.id ts db₁ db₂) :
    db.Lacks row.name ∧ Database.Grows [row.name] db db₂ ∧
      Definition.Planted ⟨row.name, row.description, ts⟩ db₂ := by
  obtain ⟨-, hlacks, hnew, rfl⟩ := Database.insertRole_ok_iff.mp hinsert
  have hrole : Database.hasRole { db with roles := db.roles ++ [row] } row.id = true :=
    Database.hasRole_iff.mpr ⟨row, List.mem_append_right _ List.mem_cons_self, rfl⟩
  refine ⟨hlacks, ⟨⟨[row], hadds.roles, ?_⟩, fun id hid => ?_, fun _ => ?_⟩, row, ?_, rfl, ?_⟩
  · rw [List.forall_mem_singleton]
    exact ⟨List.mem_cons_self, hlacks⟩
  · refine hadds.others id fun hsame => ?_
    rw [hsame, hnew] at hid
    cases hid
  · refine hadds.anchored hrole fun p hp => ?_
    obtain ⟨owner, howner, hid⟩ := Database.hasRole_iff.mp (hanchored p hp)
    exact Database.hasRole_iff.mpr ⟨owner, List.mem_append_left _ howner, hid⟩
  · have hnone : db.roles.filter (fun other => other.name = row.name) = [] :=
      List.filter_eq_nil_iff.mpr fun other hother hsame =>
        hlacks other hother (of_decide_eq_true hsame)
    have hown : [row].filter (fun other => other.name = row.name) = [row] := by
      refine List.filter_eq_self.mpr fun other hother => ?_
      rw [List.mem_singleton.mp hother, decide_eq_true_eq]
    rw [hadds.roles, List.filter_append, hnone]
    exact hown
  · have hbefore : Database.termsOf { db with roles := db.roles ++ [row] } row.id = [] :=
      hanchored.termsOf_absent hnew
    rw [hadds.own, hbefore]
    rfl

/-! ## What can become of definitions -/

/-- What can become of one definition: whether its creation ends well, and the tables before and
after. -/
inductive Sown (d : Definition) (db : Database) : Bool → Database → Prop where
  /-- There is a role of the name, and it is left alone. -/
  | left (there : ¬ db.Lacks d.name) : Sown d db true db
  /-- Something failed before the role was there. -/
  | failed : Sown d db false db
  /-- The role is there with all its permissions. -/
  | planted {db₁ : Database} (missing : db.Lacks d.name) (grows : Database.Grows [d.name] db db₁)
      (planted : d.Planted db₁) : Sown d db true db₁
  /-- Something failed before the role had all its permissions. -/
  | broken {db₁ : Database} {k : Nat} (short : k < d.terms.length)
      (grows : Database.Grows [d.name] db db₁) (planted : (d.upTo k).Planted db₁) :
      Sown d db false db₁

/-- What can become of definitions, one after the other until one fails. -/
inductive SownAll : List Definition → Database → Bool → Database → Prop where
  | nil {db : Database} : SownAll [] db true db
  | stop {d : Definition} {ds : List Definition} {db db₁ : Database} (last : Sown d db false db₁) :
      SownAll (d :: ds) db false db₁
  | cons {d : Definition} {ds : List Definition} {db db₁ db₂ : Database} {ok : Bool}
      (first : Sown d db true db₁) (rest : SownAll ds db₁ ok db₂) : SownAll (d :: ds) db ok db₂

theorem Sown.grows (h : Sown d db ok db₁) : Database.Grows [d.name] db db₁ := by
  cases h with
  | left _ => exact .refl _ db
  | failed => exact .refl _ db
  | planted _ grows _ => exact grows
  | broken _ grows _ => exact grows

theorem SownAll.grows (h : SownAll ds db ok db₁) :
    Database.Grows (ds.map Definition.name) db db₁ := by
  induction h with
  | nil => exact .refl _ _
  | stop last => exact last.grows.mono (List.cons_subset_cons _ (List.nil_subset _))
  | cons first _ ih =>
      exact (first.grows.mono (List.cons_subset_cons _ (List.nil_subset _))).trans
        (ih.mono (List.subset_cons_self _ _))

/-- At most one definition is broken off, and only in a run that fails. Of the others whose role was
missing, each is planted, or still missing after a run that fails. -/
theorem SownAll.fates (h : SownAll ds db ok db₁) (hnames : (ds.map Definition.name).Nodup) :
    ∃ broken : Option String, (ok = true → broken = none) ∧
      ∀ d ∈ ds, db.Lacks d.name → d.Planted db₁ ∨ (ok = false ∧ db₁.Lacks d.name) ∨
        (broken = some d.name ∧ ∃ k < d.terms.length, (d.upTo k).Planted db₁) := by
  induction h with
  | nil => exact ⟨none, fun _ => rfl, nofun⟩
  | @stop d ds db db₁ last =>
      rw [List.map_cons, List.nodup_cons] at hnames
      cases last with
      | failed => exact ⟨none, fun _ => rfl, fun _ _ hlacks => .inr (.inl ⟨rfl, hlacks⟩)⟩
      | broken short grows planted =>
          refine ⟨some d.name, nofun, List.forall_mem_cons.mpr ⟨fun _ => ?_, fun e he hlacks => ?_⟩⟩
          · exact .inr (.inr ⟨rfl, _, short, planted⟩)
          · have hother : e.name ∉ [d.name] := fun hmem =>
              hnames.1 (List.mem_singleton.mp hmem ▸ List.mem_map_of_mem he)
            exact .inr (.inl ⟨rfl, grows.lacks hother hlacks⟩)
  | @cons d ds db db₁ db₂ ok first rest ih =>
      rw [List.map_cons, List.nodup_cons] at hnames
      obtain ⟨broken, hbroken, hrest⟩ := ih hnames.2
      refine ⟨broken, hbroken, List.forall_mem_cons.mpr ⟨fun hlacks => ?_, fun e he hlacks => ?_⟩⟩
      · cases first with
        | left there => exact absurd hlacks there
        | planted _ _ planted => exact .inl (planted.grown rest.grows)
      · have hother : e.name ∉ [d.name] := fun hmem =>
          hnames.1 (List.mem_singleton.mp hmem ▸ List.mem_map_of_mem he)
        exact hrest e he (first.grows.lacks hother hlacks)

/-- A second run that ends well makes up for all that the first has not done, but for the definition
that it has broken off: the role of that is found by its name and left as it is. -/
theorem SownAll.again (h : SownAll ds db ok db₁) (h' : SownAll ds db₁ true db₂)
    (hnames : (ds.map Definition.name).Nodup) :
    ∃ broken : Option String, (ok = true → broken = none) ∧
      ∀ d ∈ ds, db.Lacks d.name → d.Planted db₂ ∨
        (broken = some d.name ∧
          ∃ k < d.terms.length, (d.upTo k).Planted db₁ ∧ (d.upTo k).Planted db₂) := by
  obtain ⟨broken, hbroken, hfirst⟩ := h.fates hnames
  obtain ⟨again, hagain, hsecond⟩ := h'.fates hnames
  refine ⟨broken, hbroken, fun d hd hlacks => ?_⟩
  rcases hfirst d hd hlacks with hplanted | ⟨-, hmissing⟩ | ⟨hname, k, hk, hplanted⟩
  · exact .inl (hplanted.grown h'.grows)
  · rcases hsecond d hd hmissing with hplanted | ⟨hfailed, -⟩ | ⟨hname, -⟩
    · exact .inl hplanted
    · cases hfailed
    · rw [hagain rfl] at hname
      cases hname
  · exact .inr ⟨hname, k, hk, hplanted, hplanted.grown h'.grows⟩

/-! ## What becomes of them -/

variable {w w' : World}

/-- A rule is added as a whole or not at all, whatever else goes wrong. -/
theorem addPermission_adds {rule : RuleInput} {t : Terms} (hrule : rule.StoredAs t) (roleId : Uuid)
    (caller : Caller) {r : Except Failure Permission}
    (hrun : Mutation.addPermission roleId rule caller w = (r, w')) :
    (r.isOk = true ∧ Database.Adds roleId [t] w.db w'.db) ∨ (r.isOk = false ∧ w'.db = w.db) := by
  have hinsert := Mutation.insert_atomic roleId rule
  have hcloses : ((Mutation.Command.addPermission roleId rule).stages caller).Closes w :=
    fun hchange => Mutation.recordInsert_logs caller roleId
      (Mutation.Command.addPermission_shaped (hinsert.ok hchange))
  cases r with
  | error f =>
      have hchange := Mutation.Stages.run_error hcloses hrun
      exact .inr ⟨rfl, (World.state_eq.mp (hinsert.error hchange).2).1⟩
  | ok p =>
      obtain ⟨done, w₁, hchange, rfl, hlog⟩ := Mutation.Stages.run_ok hcloses hrun
      obtain ⟨-, ⟨key, createdAt, rfl⟩, hwrite⟩ := hinsert.ok hchange
      obtain ⟨log, hlog⟩ := hlog.withLog
      rw [hlog]
      exact .inl ⟨rfl, (Database.Adds.insertPermission hrule hwrite).withLog log⟩

/-- Rules are added in their order, up to the first that fails. -/
theorem addRules_adds (roleId : Uuid) {rules : List RuleInput} {ts : List Terms}
    (hrules : List.Forall₂ RuleInput.StoredAs rules ts) : ∀ {w w' : World} {r : Except Failure Unit},
    addRules roleId rules w = (r, w') →
      (r.isOk = true ∧ Database.Adds roleId ts w.db w'.db) ∨
      (r.isOk = false ∧ ∃ k < ts.length, Database.Adds roleId (ts.take k) w.db w'.db) := by
  induction hrules with
  | nil =>
      rintro w w' r ⟨⟩
      exact .inl ⟨rfl, .refl roleId w.db⟩
  | @cons rule t rules ts hrule _ ih =>
      intro w w' r hrun
      rcases hfirst : Mutation.addPermission roleId rule {} w with ⟨f | p, w₁⟩
      · obtain ⟨hok, -⟩ | ⟨-, hsame⟩ := addPermission_adds hrule roleId {} hfirst
        · cases hok
        · rw [addRules, Work.bind_of_error hfirst] at hrun
          cases hrun
          rw [hsame]
          exact .inr ⟨rfl, 0, Nat.succ_pos _, .refl roleId w.db⟩
      · obtain ⟨-, hadds⟩ | ⟨hok, -⟩ := addPermission_adds hrule roleId {} hfirst
        · rw [addRules, Work.bind_of_ok hfirst] at hrun
          obtain ⟨hok, hrest⟩ | ⟨hok, k, hk, hrest⟩ := ih hrun
          · exact .inl ⟨hok, hadds.trans hrest⟩
          · exact .inr ⟨hok, k + 1, Nat.succ_lt_succ hk, hadds.trans hrest⟩
        · cases hok

/-- A role that is created has the name and the description that it was given. -/
theorem insertRole_of_writes (hd : d.Clean) {role : Role}
    (h : (Mutation.Command.createRole (.text d.name)
      (.ofOption .text d.description)).Writes db role db₁) :
    db.insertRole ⟨role.id, d.name, d.description, role.createdAt⟩ = .ok db₁ := by
  obtain ⟨hname, hdescription, -, hinsert⟩ := h
  rw [Mutation.newName_of_trimmed hd.trimmed hd.nonempty] at hname
  rw [Mutation.textIfGiven_ofOption] at hdescription
  rw [Except.ok.inj hname, Except.ok.inj hdescription]
  exact hinsert

/-- A role is created as a whole or not at all, whatever else goes wrong. -/
theorem createRole_inserts (hd : d.Clean) {r : Except Failure Role}
    (hrun : Mutation.createRole (.text d.name) (.ofOption .text d.description) {} w = (r, w')) :
    (∃ role db₁ log, r = .ok role ∧
      w.db.insertRole ⟨role.id, d.name, d.description, role.createdAt⟩ = .ok db₁ ∧
      w'.db = db₁.withLog log) ∨
    (r.isOk = false ∧ w'.db = w.db) := by
  have hwhole := Mutation.Command.createRole_whole {} (.text d.name) (.ofOption .text d.description)
  have hcloses : ((Mutation.Command.createRole (.text d.name)
      (.ofOption .text d.description)).stages {}).Closes w := fun _ => Audit.record_logs _
  change (Mutation.Command.createRole (.text d.name) (.ofOption .text d.description)).execute {} w =
    (r, w') at hrun
  rw [Mutation.Command.execute_eq] at hrun
  cases r with
  | error f =>
      have hchange := Mutation.Stages.run_error hcloses hrun
      exact .inr ⟨rfl, (World.state_eq.mp (hwhole.error hchange).2).1⟩
  | ok role =>
      obtain ⟨done, w₁, hchange, rfl, hlog⟩ := Mutation.Stages.run_ok hcloses hrun
      obtain ⟨log, hlog⟩ := hlog.withLog
      exact .inl ⟨_, _, log, rfl, insertRole_of_writes hd (hwhole.ok hchange).1, hlog⟩

/-- Creates the role of a definition and adds its rules. -/
def plant (d : Definition) (rules : List RuleInput) : Work (Option Value) := do
  let role ← Mutation.createRole (.text d.name) (.ofOption .text d.description) {}
  addRules role.id rules
  return some (.text role.name)

/-- Of a value that defines a role as it should, seeding makes the role, unless there is one of the
name. -/
theorem seedOne_eq {v : Value} (h : Defines v d) :
    ∃ rules, List.Forall₂ RuleInput.StoredAs rules d.terms ∧ seedOne false v = (do
      if (← Work.transact (Store.roleNamed (.text d.name))).isSome then return none
      plant d rules) := by
  obtain ⟨permissions, items, rules, hpermissions, hitems, hread, hrules⟩ := h.rules
  refine ⟨rules, hrules, ?_⟩
  unfold seedOne plant
  rw [h.name, hpermissions, h.description]
  show (Work.transact (Store.roleNamed (.text d.name)) >>= fun found => if found.isSome then _ else
    Work.ofFault permissions.items >>= fun items => _) = _
  rw [hitems]
  show (Work.transact (Store.roleNamed (.text d.name)) >>= fun found => if found.isSome then _ else
    Work.ofResult (readRules items) >>= fun items => _) = _
  rw [hread]
  rfl

/-- However it ends, what is planted is a new role with its permissions, or with the first of them. -/
theorem plant_sown (hd : d.Clean) {rules : List RuleInput}
    (hrules : List.Forall₂ RuleInput.StoredAs rules d.terms)
    (hanchored : w.db.Anchored) {r : Except Failure (Option Value)}
    (hrun : plant d rules w = (r, w')) : Sown d w.db r.isOk w'.db := by
  unfold plant at hrun
  rcases hcreate : Mutation.createRole (.text d.name) (.ofOption .text d.description) {} w with
    ⟨created, w₁⟩
  obtain ⟨role, db₁, log, rfl, hinsert, hdb⟩ | ⟨hfailed, hsame⟩ :=
    createRole_inserts hd hcreate
  · rw [Work.bind_of_ok hcreate] at hrun
    -- The rules are added to the table as it is once the role is there.
    have hafter : ∀ {ts : List Terms} {db₂ : Database}, Database.Adds role.id ts w₁.db db₂ →
        Database.Adds role.id ts db₁ db₂ := fun hadds =>
      ((Database.Adds.refl role.id db₁).withLog log).trans (hdb ▸ hadds)
    rcases hadd : addRules role.id rules w₁ with ⟨f | _, w₂⟩
    · obtain ⟨hok, -⟩ | ⟨-, k, hk, hadds⟩ := addRules_adds role.id hrules hadd
      · cases hok
      · rw [Work.bind_of_error hadd] at hrun
        cases hrun
        obtain ⟨-, hgrows, hplanted⟩ := planted_of_adds hanchored hinsert (hafter hadds)
        exact .broken hk hgrows hplanted
    · obtain ⟨-, hadds⟩ | ⟨hok, -⟩ := addRules_adds role.id hrules hadd
      · rw [Work.bind_of_ok hadd] at hrun
        cases hrun
        obtain ⟨hmissing, hgrows, hplanted⟩ := planted_of_adds hanchored hinsert (hafter hadds)
        exact .planted hmissing hgrows hplanted
      · cases hok
  · cases created with
    | ok role => cases hfailed
    | error f =>
        rw [Work.bind_of_error hcreate] at hrun
        cases hrun
        rw [hsame]
        exact .failed

/-- One definition, whatever step fails. -/
theorem seedOne_sown {v : Value} (h : Defines v d) (hanchored : w.db.Anchored)
    {r : Except Failure (Option Value)} (hrun : seedOne false v w = (r, w')) :
    Sown d w.db r.isOk w'.db := by
  obtain ⟨rules, hrules, heq⟩ := seedOne_eq h
  rw [heq] at hrun
  have hanswers := (Store.roleNamed_answers (.text d.name)).transact
  rcases hread : Work.transact (Store.roleNamed (.text d.name)) w with ⟨f | found, w₁⟩
  · rw [Work.bind_of_error hread] at hrun
    cases hrun
    rw [(World.state_eq.mp (hanswers.state hread)).1]
    exact .failed
  · have hsame := (World.state_eq.mp (hanswers.state hread)).1
    rw [Work.bind_of_ok hread] at hrun
    split at hrun
    · next hfound =>
        rw [hanswers.result hread] at hfound
        cases hrun
        rw [hsame]
        exact .left (Database.roleNamed?_isSome_iff.mp hfound)
    · rw [← hsame] at hanchored ⊢
      exact plant_sown h.clean hrules hanchored hrun

/-- Definitions one by one, whatever step fails. -/
theorem seedEach_sown {vs : List Value} (hvs : List.Forall₂ Defines vs ds) :
    ∀ {w w' : World} {r : Except Failure (List Value)}, w.db.Anchored →
      seedEach false vs w = (r, w') → SownAll ds w.db r.isOk w'.db := by
  induction hvs with
  | nil =>
      rintro w w' r - ⟨⟩
      exact .nil
  | cons hv _ ih =>
      intro w w' r hanchored hrun
      rw [seedEach] at hrun
      rcases hfirst : seedOne false _ w with ⟨f | created, w₁⟩
      · rw [Work.bind_of_error hfirst] at hrun
        cases hrun
        exact .stop (seedOne_sown hv hanchored hfirst)
      · have hsown := seedOne_sown hv hanchored hfirst
        rw [Work.bind_of_ok hfirst] at hrun
        rcases hrest : seedEach false _ w₁ with ⟨f | more, w₂⟩
        · rw [Work.bind_of_error hrest] at hrun
          cases hrun
          exact .cons hsown (ih (hsown.grows.anchored hanchored) hrest)
        · have hall := ih (hsown.grows.anchored hanchored) hrest
          rw [Work.bind_of_ok hrest] at hrun
          cases hrun
          exact .cons hsown hall

/-- A run over a list of definitions, whatever step fails. -/
theorem seed_sown {vs : List Value} (hvs : List.Forall₂ Defines vs ds) {w : World}
    (hanchored : w.db.Anchored) :
    SownAll ds w.db (seed (.list vs) false w).1.isOk (seed (.list vs) false w).2.db := by
  let start : World := { w with cache := RuleCache.empty }
  have hseed : seed (.list vs) false w = withOwnCache (seedEach false vs) w := rfl
  rcases hrun : seedEach false vs start with ⟨r, w'⟩
  have hall : SownAll ds start.db r.isOk w'.db := seedEach_sown hvs hanchored hrun
  rw [hseed, withOwnCache, hrun]
  exact hall

end Seed

end Warrant
