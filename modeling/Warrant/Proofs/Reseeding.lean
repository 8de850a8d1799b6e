import Warrant.Proofs.Seeding
import Warrant.Proofs.Supplies

/-!
# Seeding again

Seeding that has failed is done again. If nothing fails the second time, it
finishes what the first run has not begun, and finds the roles that the first
run has made. Among these may be the one that the first run was making when it
failed. It is found by its name like the others and left alone, so it stays
without the rest of its rules.

That a run ends well takes more than steps that do not fail. Each role and each
permission has an identifier that must be new to its table, and a time; so has
the record of each. `World.Stocked` says that there is enough of both.
-/

namespace Warrant

/-! ## What a run draws on -/

namespace World

/-- A world that has all that so many draws take, whether for permissions or for roles. -/
structure Stocked (w : World) (n : Nat) : Prop extends w.Supplied n where
  unheld : ∀ id ∈ w.coming n, w.db.hasRole id = false

namespace Stocked

variable {w w' : World} {m n : Nat}

theorem of_le (h : w.Stocked n) (hle : m ≤ n) : w.Stocked m := by
  induction hle with
  | refl => exact h
  | @step n _ ih =>
      exact ih ⟨h.of_succ, fun id hid => h.unheld id ((w.coming_sublist n).subset hid)⟩

theorem unused (h : w.Stocked n) (hdb : w'.db = w.db) (hsupplies : w'.supplies = w.supplies) :
    w'.Stocked n := by
  refine ⟨h.toSupplied.unused hdb hsupplies, ?_⟩
  rw [coming_congr (supplies_eq.mp hsupplies).2.1, hdb]
  exact h.unheld

theorem drawn (h : w.Stocked (n + 1)) (hdraws : w.Draws w') : w'.Stocked n :=
  ⟨h.toSupplied.drawn hdraws, h.free_of_draws hdraws h.unheld hdraws.roles⟩

end Stocked

end World

namespace Store

theorem roleNamed_supplies (name : Value) : Work.Keeps World.supplies (roleNamed name) := by
  refine Work.Keeps.bind (Work.Keeps.queryBeside (fun _ _ => rfl) _ _) fun found => ?_
  cases found with
  | none => exact Work.Keeps.pure none
  | some id => exact Work.Keeps.bind (roles_supplies (some [id])) fun _ => Work.Keeps.pure _

end Store

namespace Mutation

variable {w w₁ : World} {n : Nat}

theorem insertRole_supplies (r : Role) : Work.Keeps World.supplies (insertRole r) := by
  have hbody : Work.Keeps World.supplies (insertRoleBody r) := by
    refine Work.Keeps.bind (Store.roleNamed_supplies _) fun found => ?_
    split
    · exact Work.Keeps.refuse _
    · exact Work.Keeps.writeBeside (fun _ _ => rfl) (fun _ _ => rfl) _ _
  exact (Work.Keeps.transactBeside (fun _ _ => rfl) (fun _ _ => rfl) hbody).asMutation

/-- If no step fails, a role is added that the table takes. -/
theorem insertRole_apply (hsound : w.faults = FaultPlan.none) {r : Role} {db : Database}
    (hinsert : w.db.insertRole ⟨r.id, r.name, r.description, r.createdAt⟩ = .ok db) :
    ∃ w', insertRole r w = (.ok (), w') := by
  have hopen : ({ w with steps := w.steps + 1 } : World).faults = FaultPlan.none := hsound
  obtain ⟨w₁, hbody, hdb, hsound₁⟩ := insertRoleBody_apply hopen r
  have hfree : ¬ ((w.db.roleNamed? r.name).bind w.db.role?).isSome = true := fun hsome =>
    Database.roleNamed?_isSome_iff.mp hsome (Database.insertRole_ok_iff.mp hinsert).2.1
  have hdb : w₁.db = w.db := hdb
  rw [← hdb] at hinsert
  rw [if_neg hfree, Store.insertRole, Work.write_apply hsound₁ .roleInsert hinsert] at hbody
  exact ⟨_, Work.asMutation_ok.mpr (Work.transact_apply hsound hbody hsound₁)⟩

/-- After a change that draws once, a record that draws once leaves enough for two draws less. -/
theorem Stages.run_stocked {α : Type} {s : Stages α} {done : s.Changed}
    (hw : w.Stocked (n + 2)) (hchange : s.change w = (.ok done, w₁))
    (hsound : w₁.faults = FaultPlan.none) (hdraws : w.Draws w₁) (hlogs : Work.Logs (s.close done))
    (hblind : Work.Blind (s.close done))
    (hrecord : ∀ {w : World}, w.Supplied (n + 1) → w.Draws (s.close done w).2) :
    ∃ w', s.run w = (.ok (s.result done), w') ∧ w'.faults = FaultPlan.none ∧ w'.Stocked n := by
  have hreload : Work.Keeps World.supplies (reload (s.touched done)) := by
    cases s.touched done with
    | none => exact Work.Keeps.pure ()
    | some id => exact Reload.refresh_supplies id
  have hw₂ := (hw.drawn hdraws).unused (reload_db _ w₁) (hreload w₁)
  have hsound₂ : (reload (s.touched done) w₁).2.faults = FaultPlan.none :=
    (World.supplies_eq.mp (hreload w₁)).2.2.trans hsound
  exact ⟨_, run_of_ok hchange hlogs, hblind.sound hsound₂, hw₂.drawn (hrecord hw₂.toSupplied)⟩

end Mutation

namespace Seed

open Mutation

variable {d : Definition} {ds : List Definition} {w : World} {n : Nat}

/-! ## Nothing fails -/

theorem draftRole_apply (hd : d.Clean) {next : Instant}
    (hnext : w.clock.now.add? w.clock.tick = some next) :
    draftRole (.text d.name) (.ofOption .text d.description) w =
      (.ok ⟨Work.freshId (w.issued + 1), d.name, d.description, [], some w.clock.now⟩,
        { w with issued := w.issued + 1, clock := { w.clock with now := next } }) := by
  unfold draftRole
  rw [newName_of_trimmed hd.trimmed hd.nonempty, textIfGiven_ofOption]
  exact Work.bind_ok.mpr ⟨_, w, rfl, Work.bind_ok.mpr ⟨_, w, rfl, Work.bind_ok.mpr ⟨_, _,
    rfl, Work.bind_ok.mpr ⟨_, _, Work.readClock_ok.mpr ⟨next, hnext, rfl, rfl⟩, rfl⟩⟩⟩⟩

/-- With enough to draw on, a role is drawn up and added if there is none of the name. -/
theorem insertDraft_apply (hd : d.Clean) (hsound : w.faults = FaultPlan.none)
    (hlacks : w.db.Lacks d.name) (hw : w.Stocked (n + 1)) :
    ∃ role w', insertDraft (.text d.name) (.ofOption .text d.description) w = (.ok role, w') ∧
      w'.faults = FaultPlan.none ∧ w.Draws w' := by
  obtain ⟨next, hnext⟩ := Option.isSome_iff_exists.mp hw.runs
  let role : Role := ⟨Work.freshId (w.issued + 1), d.name, d.description, [], some w.clock.now⟩
  let row : RoleRow := ⟨role.id, role.name, role.description, role.createdAt⟩
  let w₁ : World := { w with issued := w.issued + 1, clock := { w.clock with now := next } }
  have hdraft : draftRole (.text d.name) (.ofOption .text d.description) w = (.ok role, w₁) :=
    draftRole_apply hd hnext
  have hnew : w.db.hasRole row.id = false := hw.unheld _ List.mem_cons_self
  have hrow : w₁.db.insertRole row = .ok { w.db with roles := w.db.roles ++ [row] } :=
    Database.insertRole_ok_iff.mpr ⟨hd.fits, hlacks, hnew, rfl⟩
  obtain ⟨w₂, hinsert⟩ := insertRole_apply (show w₁.faults = FaultPlan.none from hsound) hrow
  have hdb : w₂.db = { w.db with roles := w.db.roles ++ [row] } :=
    Except.ok.inj (((insertRole_atomic role).ok hinsert).symm.trans hrow)
  obtain ⟨hclock, hissued, hfaults⟩ :=
    World.supplies_eq.mp ((insertRole_supplies role).after hinsert)
  refine ⟨role, w₂, ?_, hfaults.trans hsound, ?_, hissued, fun id hid => ?_, fun id hid => ?_⟩
  · unfold insertDraft
    rw [Work.bind_of_ok hdraft, Work.bind_of_ok hinsert]
    rfl
  · rw [Clock.next?, hnext, hclock]
    rfl
  · obtain ⟨other, hother, rfl⟩ := Database.hasRole_iff.mp hid
    rw [hdb] at hother
    refine (List.mem_append.mp hother).imp (fun hold => ?_) fun hnew => ?_
    · exact Database.hasRole_iff.mpr ⟨other, hold, rfl⟩
    · rw [List.mem_singleton.mp hnew]
  · rw [hdb] at hid
    exact .inl hid

/-- With enough to draw on, the role of a definition is created if there is none of the name. -/
theorem createRole_apply (hd : d.Clean) (hsound : w.faults = FaultPlan.none)
    (hlacks : w.db.Lacks d.name) (hw : w.Stocked (n + 2)) :
    ∃ role w', createRole (.text d.name) (.ofOption .text d.description) {} w = (.ok role, w') ∧
      w'.db.hasRole role.id = true ∧ w'.faults = FaultPlan.none ∧ w'.Stocked n := by
  obtain ⟨role, w₁, hchange, hsound₁, hdraws⟩ :=
    insertDraft_apply hd hsound hlacks hw
  obtain ⟨w', hrun, hsound', hw'⟩ := Stages.run_stocked hw
    (s := (Command.createRole (.text d.name) (.ofOption .text d.description)).stages {}) hchange
    hsound₁ hdraws (Audit.record_logs _)
    (Work.Blind.bind (Audit.record_blind _) fun _ => Work.Blind.pure ()) fun hw => by
      show World.Draws _ ((do let _ ← Audit.record _; return () : Work Unit) _).2
      rw [Audit.record_run]
      exact Audit.record_draws rfl hw
  rw [← Command.execute_eq] at hrun
  refine ⟨role, w', hrun, ?_, hsound', hw'⟩
  obtain ⟨_, db₁, log, hrole, hwrite, hdb⟩ | ⟨hfailed, -⟩ :=
    createRole_inserts hd hrun
  · cases hrole
    obtain ⟨-, rfl⟩ := Database.insertRole_ok hwrite
    rw [hdb]
    exact Database.hasRole_iff.mpr ⟨_, List.mem_append_right _ List.mem_cons_self, rfl⟩
  · cases hfailed

/-- With enough to draw on, a rule that can be stored is added to a role. -/
theorem addPermission_apply (hsound : w.faults = FaultPlan.none) {roleId : Uuid}
    (hrole : w.db.hasRole roleId = true) {rule : RuleInput} {t : Terms} (hrule : rule.StoredAs t)
    (hw : w.Stocked (n + 2)) :
    ∃ p w', addPermission roleId rule {} w = (.ok p, w') ∧ w'.db.hasRole roleId = true ∧
      w'.faults = FaultPlan.none ∧ w'.Stocked n := by
  obtain ⟨conditions, hconditions, -⟩ := id hrule
  obtain ⟨p, w₁, hinsert, hdraws⟩ := insert_apply hsound hrole hconditions hw.toSupplied
  have hp := Command.addPermission_shaped ((insert_atomic roleId rule).ok hinsert)
  have hsound₁ : w₁.faults = FaultPlan.none := by
    have hkept := (insert_blind roleId rule).sound hsound
    rw [hinsert] at hkept
    exact hkept
  obtain ⟨w', hrun, hsound', hw'⟩ := Stages.run_stocked hw
    (s := (Command.addPermission roleId rule).stages {}) hinsert hsound₁ hdraws
    (recordInsert_logs {} roleId hp) (recordInsert_blind {} roleId p)
    (recordInsert_draws {} roleId hp)
  refine ⟨p, w', hrun, ?_, hsound', hw'⟩
  obtain ⟨-, hadds⟩ | ⟨hfailed, -⟩ := addPermission_adds hrule roleId {} hrun
  · rw [hadds.hasRole, hrole]
  · cases hfailed

theorem addRules_apply {roleId : Uuid} {rules : List RuleInput} {ts : List Terms}
    (hrules : List.Forall₂ RuleInput.StoredAs rules ts) : ∀ {w : World},
    w.faults = FaultPlan.none → w.db.hasRole roleId = true → w.Stocked (n + 2 * ts.length) →
    ∃ w', addRules roleId rules w = (.ok (), w') ∧ w'.faults = FaultPlan.none ∧ w'.Stocked n := by
  induction hrules with
  | nil => exact fun hsound _ hw => ⟨_, rfl, hsound, hw⟩
  | cons hrule _ ih =>
      intro w hsound hrole hw
      obtain ⟨p, w₁, hfirst, hrole₁, hsound₁, hw₁⟩ := addPermission_apply hsound hrole hrule hw
      obtain ⟨w', hrest, hsound', hw'⟩ := ih hsound₁ hrole₁ hw₁
      refine ⟨w', ?_, hsound', hw'⟩
      rw [addRules, Work.bind_of_ok hfirst]
      exact hrest

/-- How much is drawn for a definition at most: for its role, for each of its rules, and for the
records of these. -/
def Definition.draws (d : Definition) : Nat := 2 * (d.terms.length + 1)

/-- How much is drawn for several definitions at most. -/
def drawsFor : List Definition → Nat
  | [] => 0
  | d :: rest => drawsFor rest + d.draws

/-- With enough to draw on, seeding a definition ends well. -/
theorem seedOne_apply {v : Value} (h : Defines v d) (hsound : w.faults = FaultPlan.none)
    (hw : w.Stocked (n + d.draws)) :
    ∃ created w', seedOne false v w = (.ok created, w') ∧ w'.faults = FaultPlan.none ∧
      w'.Stocked n := by
  obtain ⟨rules, hrules, heq⟩ := seedOne_eq h
  obtain ⟨w₁, hread, hsound₁⟩ : ∃ w₁, Work.transact (Store.roleNamed (.text d.name)) w =
      (.ok ((w.db.roleNamed? d.name).bind w.db.role?), w₁) ∧ w₁.faults = FaultPlan.none := by
    have hopen : ({ w with steps := w.steps + 1 } : World).faults = FaultPlan.none := hsound
    obtain ⟨w₁, hbody, hsound₁⟩ := Store.roleNamed_apply hopen d.name
    exact ⟨_, Work.transact_apply hsound hbody hsound₁, hsound₁⟩
  have hdb := (World.state_eq.mp ((Store.roleNamed_answers _).transact.state hread)).1
  have hsupplies : Work.Keeps World.supplies (Work.transact (Store.roleNamed (.text d.name))) :=
    Work.Keeps.transactBeside (fun _ _ => rfl) (fun _ _ => rfl) (Store.roleNamed_supplies _)
  have hw₁ := hw.unused hdb (hsupplies.after hread)
  rw [heq, Work.bind_of_ok hread]
  split
  · exact ⟨none, _, rfl, hsound₁, hw₁.of_le (Nat.le_add_right _ _)⟩
  · next hmissing =>
      have hlacks : w.db.Lacks d.name := by
        rw [Database.roleNamed?_isSome_iff, not_not] at hmissing
        exact hmissing
      rw [← hdb] at hlacks
      have hstocked : w₁.Stocked (n + 2 * d.terms.length + 2) :=
        hw₁.of_le (by rw [Definition.draws]; omega)
      obtain ⟨role, w₂, hcreate, hrole, hsound₂, hw₂⟩ :=
        createRole_apply h.clean hsound₁ hlacks hstocked
      obtain ⟨w', hadd, hsound', hw'⟩ := addRules_apply hrules hsound₂ hrole hw₂
      refine ⟨some (.text role.name), w', ?_, hsound', hw'⟩
      unfold plant
      rw [Work.bind_of_ok hcreate, Work.bind_of_ok hadd]
      rfl

/-- With enough to draw on for all of them, seeding definitions ends well. -/
theorem seedEach_apply {vs : List Value} (hvs : List.Forall₂ Defines vs ds) : ∀ {w : World},
    w.faults = FaultPlan.none → w.Stocked (drawsFor ds) →
    ∃ created w', seedEach false vs w = (.ok created, w') := by
  induction hvs with
  | nil => exact fun _ _ => ⟨[], _, rfl⟩
  | cons hv _ ih =>
      intro w hsound hw
      obtain ⟨created, w₁, hfirst, hsound₁, hw₁⟩ := seedOne_apply hv hsound hw
      obtain ⟨more, w', hrest⟩ := ih hsound₁ hw₁
      refine ⟨created.toList ++ more, w', ?_⟩
      rw [seedEach, Work.bind_of_ok hfirst, Work.bind_of_ok hrest]
      rfl

/-! ## Two runs -/

/-- Seeding that is done again. Wherever the first run has failed, if it has, the second one ends
well if nothing fails and there is enough to draw on, and what there was before is as it was. There
is at most one definition that the first run has broken off, and none if that run ended well. All
others have their roles as they should be, if there was none of the name to begin with; the one that
was broken off has the rules that the first run had added, and not the rest. -/
theorem seed_again {vs : List Value} (hvs : List.Forall₂ Defines vs ds)
    (hnames : (ds.map Definition.name).Nodup) {w w₁ w₂ : World} {r : Except Failure (List Value)}
    (hanchored : w.db.Anchored) (hfirst : seed (.list vs) false w = (r, w₁))
    (hagain : w₂.db = w₁.db) (hsound : w₂.faults = FaultPlan.none)
    (hstocked : w₂.Stocked (drawsFor ds)) :
    ∃ created w', seed (.list vs) false w₂ = (.ok created, w') ∧
      w.db.roles <+: w'.db.roles ∧
      (∀ row ∈ w.db.roles, w'.db.permissionsOf row.id = w.db.permissionsOf row.id) ∧
      ∃ broken : Option String, (r.isOk = true → broken = none) ∧
        ∀ d ∈ ds, w.db.Lacks d.name → d.Planted w'.db ∨
          (broken = some d.name ∧
            ∃ k < d.terms.length, (d.upTo k).Planted w₁.db ∧ (d.upTo k).Planted w'.db) := by
  have hsown : SownAll ds w.db r.isOk w₁.db := by
    have hall := seed_sown hvs hanchored
    rw [hfirst] at hall
    exact hall
  let start : World := { w₂ with cache := RuleCache.empty }
  have hstart : start.Stocked (drawsFor ds) := hstocked.unused rfl rfl
  obtain ⟨created, w', hrun⟩ := seedEach_apply hvs (w := start) hsound hstart
  have hsecond : seed (.list vs) false w₂ = (.ok created, { w' with cache := w₂.cache }) := by
    show withOwnCache (seedEach false vs) w₂ = _
    rw [withOwnCache, hrun]
  have hanchored₂ : w₂.db.Anchored := hagain ▸ hsown.grows.anchored hanchored
  have hagain' : SownAll ds w₁.db true w'.db := by
    have hall := seed_sown hvs hanchored₂
    rw [hsecond, hagain] at hall
    exact hall
  have hgrows := hsown.grows.trans hagain'.grows
  obtain ⟨new, hroles, -⟩ := hgrows.roles
  refine ⟨created, _, hsecond, ⟨new, hroles.symm⟩, fun row hrow => ?_, hsown.again hagain' hnames⟩
  exact hgrows.permissions row.id (Database.hasRole_iff.mpr ⟨row, hrow, rfl⟩)

/-! ### Auditors and editors -/

/-- A definition in its plainest form: a name, and actions on accounts. -/
def asked (name : String) (actions : List Action) : Value :=
  .map
    [("name", .text name),
     ("permissions", .list (actions.map fun a =>
       .map [("action", .text a.name), ("subject", .text "account")]))]

/-- What it asks for. -/
def wanted (name : String) (actions : List Action) : Definition where
  name := name
  description := none
  terms := actions.map fun a =>
    { action := .ofTexts [a.name]
      subject := .ofTexts ["account"]
      fields := .null
      conditions := .null
      inverted := .bool false
      reason := .null }

theorem asked_defines {name : String} {actions : List Action} (h : (wanted name actions).Clean) :
    Defines (asked name actions) (wanted name actions) := by
  refine ⟨rfl, rfl, ⟨_, _, actions.map fun a => ⟨[a], [.account], none, none, false, .null⟩, rfl, rfl,
    ?_, ?_⟩, h⟩
  · clear h
    induction actions with
    | nil => rfl
    | cons a rest ih =>
        have hrule : RuleInput.ofValue (.map [("action", .text a.name), ("subject", .text "account")]) =
            .ok ⟨[a], [.account], none, none, false, .null⟩ := by cases a <;> rfl
        rw [List.map_cons, List.map_cons, readRules, hrule, ih]
        rfl
  · rw [wanted, List.forall₂_map_left_iff, List.forall₂_map_right_iff, List.forall₂_same]
    exact fun a _ => ⟨.null, rfl, rfl⟩

/-- Two definitions, of auditors with two rules and of editors with one. -/
def staff : Value := .list [asked "auditors" [.read, .update], asked "editors" [.update]]

/-- Clerks to begin with, and a table of permissions that takes no more after a while. -/
def stalling : World := .sample fun n s => s = .permissionInsert && 20 ≤ n

/-- The tables as a first run has left them, and nothing fails any more. -/
def restarted : World := { (seed staff false stalling).2 with faults := FaultPlan.none }

theorem restarted_stocked : restarted.Stocked 10 :=
  ⟨⟨by decide +kernel, by decide +kernel, by decide +kernel⟩, by decide +kernel⟩

/-- Editors are made up for. The auditors have the one rule that the first run had added before it
was broken off. -/
theorem seed_again_auditors :
    ∃ created w', seed staff false restarted = (.ok created, w') ∧
      ((wanted "auditors" [.read, .update]).upTo 1).Planted w'.db ∧
      (wanted "editors" [.update]).Planted w'.db := by
  have hdefines : List.Forall₂ Defines [asked "auditors" [.read, .update], asked "editors" [.update]]
      [wanted "auditors" [.read, .update], wanted "editors" [.update]] :=
    .cons (asked_defines ⟨by decide +kernel, by decide, by decide⟩)
      (.cons (asked_defines ⟨by decide +kernel, by decide, by decide⟩) .nil)
  obtain ⟨created, w', hrun, -, -, broken, -, hfates⟩ := seed_again hdefines (by decide)
    (show stalling.db.Anchored by decide)
    (show seed staff false stalling = (_, (seed staff false stalling).2) from rfl)
    (show restarted.db = _ from rfl) rfl restarted_stocked
  have hafter : (seed staff false restarted).2 = w' := congrArg Prod.snd hrun
  have hauditors : ∀ row ∈ w'.db.roles, row.name = "auditors" →
      (w'.db.permissionsOf row.id).length = 1 := by
    rw [← hafter]
    decide +kernel
  have heditors : (seed staff false stalling).2.db.Lacks "editors" := by decide +kernel
  rw [List.forall_mem_cons, List.forall_mem_singleton] at hfates
  refine ⟨created, w', hrun, ?_, ?_⟩
  · rcases hfates.1 (by decide) with hplanted | ⟨-, k, hk, -, hplanted⟩
    · obtain ⟨row, hrow, hname, hcount⟩ := hplanted.count
      rw [hauditors row hrow hname] at hcount
      cases hcount
    · obtain ⟨row, hrow, hname, hcount⟩ := hplanted.count
      have hk : k < 2 := hk
      have hcount : 1 = min k 2 := (hauditors row hrow hname).symm.trans
        (hcount.trans List.length_take)
      obtain rfl : k = 1 := by omega
      exact hplanted
  · rcases hfates.2 (by decide) with hplanted | ⟨-, k, -, hplanted, -⟩
    · exact hplanted
    · obtain ⟨row, hrow, hname, -⟩ := hplanted.count
      exact absurd hname (heditors row hrow)

/-- Empty tables, of which that of permissions takes none. -/
def barren : World := { World.sample (.on [.permissionInsert]) with db := Database.empty }

/-- One definition, of clerks with one rule. -/
def clerks : Value := .list [asked "clerks" [.read]]

/-- The tables as seeding the clerks has left them, and nothing fails any more. -/
def abandoned : World := { (seed clerks false barren).2 with faults := FaultPlan.none }

/-- Seeding again does not make up for everything. There were no clerks, the first run added their
role and failed at its rule, and the second run, in which nothing fails, leaves the role without
it. -/
theorem seed_again_clerks :
    Defines (asked "clerks" [.read]) (wanted "clerks" [.read]) ∧ barren.db.Lacks "clerks" ∧
      (seed clerks false barren).1.isOk = false ∧ (seed clerks false abandoned).1.isOk = true ∧
      ¬ (wanted "clerks" [.read]).Planted (seed clerks false abandoned).2.db := by
  refine ⟨asked_defines ⟨by decide +kernel, by decide, by decide⟩, by decide, by decide +kernel,
    by decide +kernel, fun hplanted => ?_⟩
  have hnone : ∀ row ∈ (seed clerks false abandoned).2.db.roles,
      ((seed clerks false abandoned).2.db.permissionsOf row.id).length = 0 := by decide +kernel
  obtain ⟨row, hrow, -, hcount⟩ := hplanted.count
  rw [hnone row hrow] at hcount
  cases hcount

end Seed

end Warrant
