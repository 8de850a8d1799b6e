import Warrant.Proofs.Effects
import Warrant.Proofs.Scrutiny

/-!
# What is written is what is enforced

A permission is checked on the way in and read as a rule on the way out, and the
two have to agree. If a row could be written that cannot be read as a rule, then
no rules could be loaded any more, not even those of other roles.

The rows that pass the checks are described by `Terms.Valid`: at least one
action and one subject out of the vocabulary, all fields or a list of texts, no
conditions or a mapping, and a truth value. Adding and changing permissions
establish this form whichever way the input comes, and everything else leaves it
alone, so in a database that was once empty all rows have it. Such a row is read
without a fault, and the rule says what the row says. A load can then fail only
at a step of the database.
-/

namespace Warrant

/-! ## What passes the checks -/

namespace RuleInput

/-- A rule that names at least one action and one subject. -/
structure Complete (rule : RuleInput) : Prop where
  action : rule.action ≠ []
  subject : rule.subject ≠ []

theorem complete_of_ofValue {v : Value} {rule : RuleInput} (h : ofValue v = .ok rule) :
    rule.Complete := by
  cases v with
  | map es =>
      obtain ⟨-, -, hread⟩ := ofValue_map_ok.mp h
      obtain ⟨haction, hsubject, -⟩ := readEntries_ok_iff.mp hread
      exact ⟨readPart_ne_nil haction, readPart_ne_nil hsubject⟩
  | _ => cases h

end RuleInput

namespace RuleChange

theorem readIfPresent_some {α : Type} {read : Value → Except Failure α} {part : Option Value}
    {a : α} (h : readIfPresent read part = .ok (some a)) : ∃ v, read v = .ok a := by
  cases part with
  | none => cases h
  | some v =>
      refine ⟨v, ?_⟩
      unfold readIfPresent at h
      dsimp only at h
      cases hread : read v with
      | error e =>
          rw [hread] at h
          cases h
      | ok b =>
          rw [hread] at h
          cases h
          rfl

/-- A change that leaves at least one action and one subject, if it replaces them. -/
structure Complete (parts : RuleEdits) : Prop where
  action : parts.action ≠ some []
  subject : parts.subject ≠ some []

theorem complete_of_ofValue {v : Value} {parts : RuleEdits} (h : ofValue v = .ok (.edits parts)) :
    Complete parts := by
  obtain ⟨names, -, h⟩ := Fault.bind_ok.mp h
  obtain ⟨u, -, h⟩ := Fault.bind_ok.mp h
  cases v with
  | map es =>
      dsimp only at h
      obtain ⟨read, hread, heq⟩ := Fault.map_ok.mp h
      cases heq
      obtain ⟨action, haction, hread⟩ := Fault.bind_ok.mp hread
      obtain ⟨subject, hsubject, hread⟩ := Fault.bind_ok.mp hread
      obtain ⟨fields, -, hread⟩ := Fault.bind_ok.mp hread
      obtain ⟨conditions, -, hread⟩ := Fault.bind_ok.mp hread
      cases hread
      constructor
      · rintro rfl
        obtain ⟨v, hv⟩ := readIfPresent_some haction
        exact RuleInput.readPart_ne_nil hv rfl
      · rintro rfl
        obtain ⟨v, hv⟩ := readIfPresent_some hsubject
        exact RuleInput.readPart_ne_nil hv rfl
  | bytes octets => cases h
  | _ =>
      dsimp only at h
      split at h <;> cases h

end RuleChange

/-! ## The form of what is written -/

namespace Terms

/-- What a permission says after it has passed the checks. -/
structure Valid (t : Terms) : Prop where
  action : ∃ actions, actions ≠ [] ∧ t.action = RuleInput.storedActions actions
  subject : ∃ subjects, subjects ≠ [] ∧ t.subject = RuleInput.storedSubjects subjects
  fields : ∃ names, t.fields = .ofOption .ofTexts names
  conditions : ∃ es, t.conditions = .ofOption .map es
  inverted : ∃ b, t.inverted = .bool b

theorem Valid.shaped {t : Terms} (h : t.Valid) : t.Shaped := by
  obtain ⟨actions, -, hactions⟩ := h.action
  obtain ⟨subjects, -, hsubjects⟩ := h.subject
  exact ⟨⟨_, hactions⟩, ⟨_, hsubjects⟩, h.fields, h.conditions⟩

end Terms

theorem RuleInput.Complete.valid {rule : RuleInput} (h : rule.Complete) (id roleId : Uuid)
    (createdAt : Instant) : (rule.toPermission id roleId createdAt).toTerms.Valid :=
  ⟨⟨rule.action, h.action, rfl⟩, ⟨rule.subject, h.subject, rfl⟩, ⟨rule.fields, rfl⟩,
    ⟨rule.conditions, rfl⟩, ⟨rule.inverted, rfl⟩⟩

/-- A change leaves what is valid valid, whichever parts it replaces. -/
theorem RuleChange.Complete.valid {parts : RuleEdits} (h : Complete parts) {t : Terms}
    (ht : t.Valid) : (applyEdits parts t).Valid := by
  have hshaped : (applyEdits parts t).Shaped :=
    @apply_shaped (.edits parts) t _ ht.shaped rfl
  refine ⟨?_, ?_, hshaped.fields, hshaped.conditions, ?_⟩
  · show ∃ actions, _ ∧ (parts.action.map RuleInput.storedActions).getD t.action = _
    cases hparts : parts.action with
    | none => exact ht.action
    | some actions => exact ⟨actions, fun hnone => h.action (hnone ▸ hparts), rfl⟩
  · show ∃ subjects, _ ∧ (parts.subject.map RuleInput.storedSubjects).getD t.subject = _
    cases hparts : parts.subject with
    | none => exact ht.subject
    | some subjects => exact ⟨subjects, fun hnone => h.subject (hnone ▸ hparts), rfl⟩
  · show ∃ b, (parts.inverted.map Value.bool).getD t.inverted = .bool b
    cases parts.inverted with
    | none => exact ht.inverted
    | some b => exact ⟨b, rfl⟩

namespace Database

/-- A database in which every permission has passed the checks. -/
def Valid (db : Database) : Prop := ∀ p ∈ db.permissions, p.toTerms.Valid

variable {db db' : Database}

theorem storedPermission_valid {p row : Permission} (hp : p.toTerms.Valid)
    (h : storedPermission p = .ok row) : row.toTerms.Valid := by
  obtain ⟨-, -, hshaped⟩ := storedPermission_ok hp.shaped h
  obtain ⟨conditions, -, rfl⟩ := storedPermission_eq hp.shaped h
  exact ⟨hp.action, hp.subject, hp.fields, hshaped.conditions, hp.inverted⟩

theorem insertPermission_valid {p : Permission} (hdb : db.Valid) (hp : p.toTerms.Valid)
    (h : db.insertPermission p = .ok db') : db'.Valid := by
  obtain ⟨row, hrow, -, rfl⟩ := insertPermission_ok h
  intro q hq
  rcases List.mem_append.mp hq with hq | hq
  · exact hdb q hq
  · rw [List.mem_singleton.mp hq]
    exact storedPermission_valid hp hrow

theorem updatePermission_valid {p : Permission} (hdb : db.Valid) (hp : p.toTerms.Valid)
    (h : db.updatePermission p = .ok db') : db'.Valid := by
  obtain ⟨row, hrow, rfl⟩ := updatePermission_ok h
  have hvalid := storedPermission_valid hp hrow
  intro q hq
  obtain ⟨old, hold, rfl⟩ := List.mem_map.mp hq
  split
  · exact ⟨hvalid.action, hvalid.subject, hvalid.fields, hvalid.conditions, hvalid.inverted⟩
  · exact hdb old hold

end Database

namespace Mutation

/-- The rule or the change of a command has passed the checks, whatever it came from. -/
def Command.Checked : Command → Prop
  | addPermission _ rule => ∃ v, RuleInput.ofValue v = .ok rule
  | updatePermission _ _ change => ∃ v, RuleChange.ofValue v = .ok change
  | _ => True

/-- What is given to an operation has passed the checks. A bulk run checks its items itself. -/
def Operation.Checked : Operation → Prop
  | one c => c.Checked
  | _ => True

theorem Operation.Checked.makes {op : Operation} (h : op.Checked) {c : Command} (hc : op.Makes c) :
    c.Checked := by
  cases op with
  | one made =>
      obtain rfl : c = made := hc
      exact h
  | addPermissions roleId rules =>
      obtain ⟨items, -, item, -, rule, hrule, rfl⟩ := hc
      exact ⟨item, hrule⟩
  | removePermissions roleId ids =>
      obtain ⟨id, -, rfl⟩ := hc
      trivial

theorem Command.Checked.writes_valid {c : Command} (h : c.Checked) {db db' : Database}
    {result : c.Result} (hwrites : c.Writes db result db') (hdb : db.Valid) : db'.Valid := by
  cases c with
  | addPermission roleId rule =>
      obtain ⟨v, hrule⟩ := h
      obtain ⟨-, ⟨id, createdAt, rfl⟩, hinsert⟩ := hwrites
      exact Database.insertPermission_valid hdb
        ((RuleInput.complete_of_ofValue hrule).valid id roleId createdAt) hinsert
  | updatePermission roleId permissionId change =>
      obtain ⟨v, hchange⟩ := h
      obtain ⟨old, terms, hold, -, hterms, rfl, hupdate⟩ := hwrites
      obtain ⟨row, hrow, -, rfl⟩ := Database.permission?_some hold
      cases change with
      | formless => cases hterms
      | edits parts =>
          cases hterms
          refine Database.updatePermission_valid hdb ?_ hupdate
          rw [Database.readPermission_of_bool (hdb row hrow).inverted]
          exact (RuleChange.complete_of_ofValue hchange).valid (hdb row hrow)
  | removePermission roleId permissionId =>
      obtain ⟨-, -, rfl⟩ := hwrites
      exact fun p hp => hdb p (List.mem_filter.mp hp).1
  | deleteRole id =>
      obtain ⟨-, rfl⟩ := hwrites
      exact fun p hp => hdb p (List.mem_filter.mp hp).1
  -- The other commands write to other tables.
  | createRole name description =>
      obtain ⟨-, -, -, hinsert⟩ := hwrites
      obtain ⟨-, rfl⟩ := Database.insertRole_ok hinsert
      exact hdb
  | updateRole id name description =>
      obtain ⟨old, name?, description?, -, -, -, -, hupdate⟩ := hwrites
      rw [Database.updateRole_ok hupdate]
      exact hdb
  | reassignRole accountId roleId =>
      obtain ⟨old, -, -, -, rfl⟩ := hwrites
      exact hdb

end Mutation

/-- A period in which all input is checked keeps a database valid. -/
theorem Period.valid {w w' : World} {events : List Event} (h : Period w events w')
    (hchecked : ∀ d, Event.operation d ∈ events → d.op.Checked) (hdb : w.db.Valid) :
    w'.db.Valid := by
  refine h.keeping (fun hvalid => hvalid) (fun d hd hbefore => ?_) hdb
  exact d.op.execute_keeping (fun hvalid => hvalid) d.caller
    (fun c hc _ _ _ hwrites => ((hchecked d hd).makes hc).writes_valid hwrites) hbefore

/-! ## What is read -/

/-- A rule says what a permission says, part by part, and which permission that is. A mapping
without entries is no condition. -/
structure Rule.Tells (r : Rule) (p : Permission) : Prop where
  actions : .list r.actions = p.action
  subjects : .list r.subjects = p.subject
  fields : .ofOption .list r.fields = p.fields
  conditions : p.conditions ≠ .map [] → r.conditions = p.conditions
  noConditions : p.conditions = .map [] → r.conditions = .null
  inverted : .bool r.inverted = p.inverted
  reason : r.reason = p.reason
  permissionId : r.permissionId = .uuid p.id

theorem Rule.States.tells {p : Permission} {r : Rule} (h : Rule.States (.uuid p.id) p.toTerms r)
    (hp : p.toTerms.Valid) : r.Tells p := by
  obtain ⟨actions, -, hactions⟩ := hp.action
  obtain ⟨subjects, -, hsubjects⟩ := hp.subject
  obtain ⟨names, hnames⟩ := hp.fields
  obtain ⟨es, hes⟩ := hp.conditions
  obtain ⟨b, hb⟩ := hp.inverted
  obtain ⟨fields, hdecoded, hfields⟩ := h.fields
  obtain ⟨conditions, hread, hconditions⟩ := h.conditions
  have hactions' := h.actions
  have hsubjects' := h.subjects
  have hinverted := h.inverted
  rw [hactions] at hactions'
  rw [hsubjects] at hsubjects'
  rw [hnames] at hdecoded
  rw [hes] at hread
  rw [hb] at hinverted
  refine ⟨?_, ?_, ?_, fun hsome => ?_, fun hnone => ?_, ?_, h.reason, h.permissionId⟩
  · rw [hactions, ← Except.ok.inj hactions']
    rfl
  · rw [hsubjects, ← Except.ok.inj hsubjects']
    rfl
  · rw [hnames]
    cases names with
    | none =>
        cases hdecoded
        rw [← Except.ok.inj hfields]
        rfl
    | some names =>
        cases hdecoded
        rw [← Except.ok.inj hfields]
        rfl
  · rw [hes] at hsome ⊢
    cases es with
    | none =>
        cases hread
        exact hconditions
    | some es =>
        cases hread
        cases es with
        | nil => exact absurd rfl hsome
        | cons entry rest => exact hconditions
  · rw [hes] at hnone
    rw [hnone] at hread
    cases hread
    exact hconditions
  · rw [hb, hinverted]
    rfl

/-- A permission that has passed the checks is read as a rule, and the rule says the same. -/
theorem Terms.Valid.enforced {p : Permission} (hp : p.toTerms.Valid) :
    ∃ r, Rule.ofPermission (Database.readPermission p) = .ok r ∧ r.Tells p := by
  rw [Database.readPermission_of_bool hp.inverted]
  obtain ⟨r, hr⟩ := hp.shaped.rule (.uuid p.id)
  exact ⟨r, hr, (Rule.states_of_ofTerms hr).tells hp⟩

/-! ## What can fail -/

/-- One of the steps that the database took between two worlds failed. -/
def World.StepFailed (w w' : World) : Prop :=
  ∃ n s, w.steps ≤ n ∧ n < w'.steps ∧ w.faults n s = true

namespace Work

/-- An operation that fails only at a step of the database. -/
structure FailsByStep {α : Type} (t : Work α) : Prop where
  onward : ∀ w : World, w.Onward (t w).2
  error : ∀ {w w' : World} {f : Failure}, t w = (.error f, w') → w.StepFailed w'

variable {α β : Type}

theorem FailsByStep.pure (a : α) : FailsByStep (Pure.pure a) :=
  ⟨fun w => World.Onward.refl w, nofun⟩

theorem FailsByStep.step (s : DbStep) : FailsByStep (Work.step s) := by
  refine ⟨fun w => ?_, fun {w w' f} h => ?_⟩
  · unfold Work.step
    dsimp only
    split <;> exact ⟨rfl, Nat.le_succ w.steps⟩
  · unfold Work.step at h
    dsimp only at h
    split at h
    · next hfails =>
        cases h
        exact ⟨w.steps, s, Nat.le_refl _, Nat.lt_succ_self _, hfails⟩
    · cases h

theorem FailsByStep.bind {t : Work α} {next : α → Work β} (ht : FailsByStep t)
    (hnext : ∀ a, FailsByStep (next a)) : FailsByStep (t >>= next) := by
  refine ⟨fun w => ?_, fun {w w' f} h => ?_⟩
  · have hfirst := ht.onward w
    rw [bind_apply]
    split
    · next a w₁ hrun =>
        rw [hrun] at hfirst
        exact hfirst.trans ((hnext a).onward w₁)
    · next f w₁ hrun =>
        rw [hrun] at hfirst
        exact hfirst
  · rcases bind_error.mp h with h | ⟨a, w₁, hrun, h⟩
    · exact ht.error h
    · obtain ⟨n, s, hfrom, hto, hfails⟩ := (hnext a).error h
      have hfirst := ht.onward w
      rw [hrun] at hfirst
      refine ⟨n, s, Nat.le_trans hfirst.steps hfrom, hto, ?_⟩
      rw [← hfirst.faults]
      exact hfails

theorem FailsByStep.query (s : DbStep) (read : Database → α) : FailsByStep (Work.query s read) :=
  FailsByStep.bind (FailsByStep.step s) fun _ => ⟨fun w => World.Onward.refl w, nofun⟩

theorem FailsByStep.transact {body : Work α} (h : FailsByStep body) :
    FailsByStep (Work.transact body) := by
  have hrun : FailsByStep (do Work.step .connect; let a ← body; Work.commit a : Work α) :=
    FailsByStep.bind (FailsByStep.step .connect) fun _ => FailsByStep.bind h fun a =>
      FailsByStep.bind (FailsByStep.step .commit) fun _ => FailsByStep.pure a
  refine ⟨fun w => ?_, fun {w w' f} h => ?_⟩
  · have honward := hrun.onward w
    unfold Work.transact
    split
    · next a after hr =>
        rw [hr] at honward
        exact honward
    · next f after hr =>
        rw [hr] at honward
        exact ⟨honward.faults, honward.steps⟩
  · unfold Work.transact at h
    split at h
    · cases h
    · next g after hr =>
        cases h
        obtain ⟨n, s, hfrom, hto, hfails⟩ := hrun.error hr
        exact ⟨n, s, hfrom, hto, hfails⟩

end Work

theorem Store.roles_failsByStep (scope : Option (List Uuid)) :
    Work.FailsByStep (Store.roles scope) := by
  refine Work.FailsByStep.bind (Work.FailsByStep.query _ _) fun rows => ?_
  split
  · exact Work.FailsByStep.pure []
  · exact Work.FailsByStep.query _ _

/-- From a valid database a load fails only at a step of the database. -/
theorem Database.Valid.load_error {w w' : World} (hdb : w.db.Valid) {scope : Option (List Uuid)}
    {f : Failure} (h : Reload.load scope w = (.error f, w')) : w.StepFailed w' := by
  have hread := (Store.roles_failsByStep scope).transact
  rcases hfetch : Reload.fetch scope w with ⟨g | reload, w₁⟩
  · unfold Reload.load at h
    rw [Work.bind_apply, Work.attempt_apply, hfetch] at h
    cases h
    rcases Work.bind_error.mp hfetch with hfetch | ⟨roles, w₂, hroles, hfetch⟩
    · exact hread.error hfetch
    -- Once the roles are read their rules are found.
    · obtain ⟨found, hfound⟩ : ∃ found, Reload.rulesOf roles = .ok found := by
        rw [(Store.roles_answers scope).transact.result hroles]
        refine Reload.rulesOf_ok fun row _ => Rule.ofPermissions_ok_iff.mpr fun p hp => ?_
        obtain ⟨stored, hstored, -, rfl⟩ := Database.mem_permissionsOf hp
        obtain ⟨r, hr, -⟩ := (hdb stored hstored).enforced
        exact ⟨r, hr⟩
      rw [hfound] at hfetch
      cases hfetch
  · unfold Reload.load at h
    rw [Work.bind_apply, Work.attempt_apply, hfetch] at h
    cases h

/-! ## From writing to enforcing -/

end Warrant
