import Warrant.Proofs.Grid

/-!
# Rows in other spellings

A row may say the same thing in several ways. A single action or subject may stand
by itself, a null is an empty list, and fields and conditions may be JSON in a text
or in octets. Rules are made of all of these. The matrix, though, goes through the
columns as they are: a word that stands by itself is taken letter by letter, a null
cannot be gone through at all, and a text counts as conditions, whatever it says.

`Permission.spelledOut` is the row as its rule has it, and `Permission.Misread` says
which rows look different to the matrix when they are spelled out. There are four
kinds. `Matrix.forRole_spelledOut` is that this is all: a role without misread rows
has the same cells either way, and a row that is misread shows when it is alone.
-/

namespace Warrant

/-! ## The parts of a row -/

namespace Rule

/-- A part of a row with members is null, a text by itself, or something that is gone through. -/
theorem members_ok {v : Value} {vs : List Value} (h : members v = .ok vs) :
    v = .null ∧ vs = [] ∨ (∃ s, v = .text s ∧ vs = [.text s]) ∨
      v.isText = false ∧ v.items? = some vs := by
  have hitems : v.items = .ok vs → v.items? = some vs := by
    unfold Value.items
    cases v.items? with
    | none => exact nofun
    | some items =>
        rintro ⟨⟩
        rfl
  cases v with
  | null =>
      cases h
      exact Or.inl ⟨rfl, rfl⟩
  | text s =>
      cases h
      exact Or.inr (Or.inl ⟨s, rfl, rfl⟩)
  | _ => exact Or.inr (Or.inr ⟨rfl, hitems h⟩)

end Rule

namespace Value

theorem items?_text (s : String) :
    (text s).items? = some (s.toList.map fun c => text (String.singleton c)) := rfl

/-- The words of a text by itself are its letters, so a longer word is not among them. -/
theorem not_mem_words_text {s name : String} (hname : name.length ≠ 1) :
    name ∉ (text s).words := by
  intro hmem
  obtain ⟨v, hv, hword⟩ := List.mem_filterMap.mp hmem
  obtain ⟨c, -, rfl⟩ := List.mem_map.mp hv
  cases hword
  exact hname String.length_singleton

theorem words_of_members {v : Value} {vs : List Value} (h : Rule.members v = .ok vs)
    (hv : v.isText = false) : v.words = (list vs).words := by
  rcases Rule.members_ok h with ⟨rfl, rfl⟩ | ⟨s, rfl, -⟩ | ⟨-, hitems⟩
  · rfl
  · cases hv
  · unfold words
    rw [hitems]
    rfl

end Value

theorem Action.length_name (a : Action) : a.name.length ≠ 1 := by cases a <;> decide

theorem Subject.length_name (s : Subject) : s.name.length ≠ 1 := by cases s <;> decide

theorem Permission.namesSubject_letters (cs : List Char) :
    namesSubject (cs.map fun c => .text (String.singleton c)) = false := by
  rw [Bool.eq_false_iff]
  intro hnames
  obtain ⟨v, hv, hsome⟩ := List.any_eq_true.mp hnames
  obtain ⟨c, -, rfl⟩ := List.mem_map.mp hv
  obtain ⟨s, hs⟩ := Option.isSome_iff_exists.mp hsome
  have hname : s.name = String.singleton c := Subject.ofName?_eq_some_iff.mp hs
  exact s.length_name (by rw [hname, String.length_singleton])

namespace Rule

/-- What says something when it is read does so as it is stored: there is no JSON in nothing. -/
theorem isTruthy_of_decode {v w : Value} (h : decode v = .ok w) (hw : w.isTruthy = true) :
    v.isTruthy = true := by
  cases v with
  | text s =>
      by_cases hempty : s = ""
      · have hnothing : (Json.read "").isOk = false := by decide +kernel
        rw [hempty] at h
        rw [show Json.read "" = .ok w from h] at hnothing
        cases hnothing
      · simpa [Value.isTruthy] using hempty
  | bytes octets =>
      cases octets with
      | nil =>
          have hnothing : (Json.readOctets []).isOk = false := by decide +kernel
          rw [show Json.readOctets [] = .ok w from h] at hnothing
          cases hnothing
      | cons => rfl
  | _ =>
      cases h
      exact hw

end Rule

/-! ## Rows spelled out -/

namespace Permission

/-- The row as its rule has it: actions and subjects in lists, fields and conditions read. A row
that states no rule stays as it is. -/
def spelledOut (p : Permission) : Permission :=
  match Rule.ofPermission p, Rule.decode p.fields, Rule.decode p.conditions with
  | .ok r, .ok fields, .ok conditions =>
      { p with action := .list r.actions, subject := .list r.subjects, fields, conditions }
  | _, _, _ => p

/-- There is a cell that the row alone would fill. -/
def Fills (p : Permission) : Prop :=
  p.isListed = true ∧ ∃ action subject, p.names action subject = true

/-- The rows that the matrix reads otherwise than their rule. -/
inductive Misread (p : Permission) : Prop where
  /-- Null for no subjects cannot be gone through. -/
  | subjectless (subject : p.subject = .null)
  /-- Nor can null for no actions, once there is a subject to look for them. -/
  | actionless {subjects : List Value} (action : p.action = .null)
      (items : p.subject.items? = some subjects) (hashable : subjects.all Value.isHashable = true)
      (names : namesSubject subjects = true)
  /-- A word by itself is gone through letter by letter, and none of its letters is a word. -/
  | single (fills : p.spelledOut.Fills) (text : p.action.isText = true ∨ p.subject.isText = true)
  /-- A text that says that there are no conditions is taken for conditions. -/
  | vacuous (fills : p.spelledOut.Fills) (grants : p.forbids = false)
      (stored : p.conditions.isTruthy = true) (read : p.spelledOut.conditions.isTruthy = false)

/-- Two rows that do the same to every cell. -/
structure Alike (p q : Permission) : Prop where
  id : q.id = p.id
  forbids : q.forbids = p.forbids
  isListed : q.isListed = p.isListed
  names : p.isListed = true → ∀ a s, q.names a s = p.names a s
  stateBy : p.isListed = true → ∀ a s, p.names a s = true → Cell.stateBy q = Cell.stateBy p

variable {p : Permission}

/-- What the parts of a row are read as, and that this is what stands in the row spelled out. -/
structure Spells (p : Permission) (actions subjects : List Value) (conditions : Value) : Prop where
  action : Rule.members p.action = .ok actions
  subject : Rule.members p.subject = .ok subjects
  decode : Rule.decode p.conditions = .ok conditions
  row : ∃ fields, p.spelledOut =
    { p with action := .list actions, subject := .list subjects, fields, conditions }

theorem exists_spells {r : Rule} (h : Rule.ofPermission p = .ok r) :
    ∃ actions subjects conditions, p.Spells actions subjects conditions := by
  have hstates := Rule.states_of_ofTerms h
  obtain ⟨fields, hfields, -⟩ := hstates.fields
  obtain ⟨conditions, hconditions, -⟩ := hstates.conditions
  refine ⟨_, _, conditions, hstates.actions, hstates.subjects, hconditions, fields, ?_⟩
  unfold spelledOut
  rw [h, hfields, hconditions]

theorem names_of_isText (h : p.action.isText = true ∨ p.subject.isText = true) (a : Action)
    (s : Subject) : p.names a s = false := by
  have hletters : ∀ {v : Value} {name : String}, v.isText = true → name.length ≠ 1 →
      v.words.contains name = false := by
    intro v name hv hname
    cases v with
    | text t =>
        rw [Bool.eq_false_iff, ne_eq, List.contains_iff_mem]
        exact Value.not_mem_words_text hname
    | _ => cases hv
  unfold names
  rcases h with h | h
  · rw [hletters h a.length_name, Bool.false_and]
  · rw [hletters h s.length_name, Bool.and_false]

section

variable {actions subjects : List Value} {conditions : Value}
  (h : p.Spells actions subjects conditions)

include h

theorem Spells.isListed_spelledOut : p.spelledOut.isListed = subjects.all Value.isHashable := by
  obtain ⟨fields, hspelled⟩ := h.row
  rw [isListed, hspelled]
  exact Bool.and_true _

theorem Spells.conditions_spelledOut : p.spelledOut.conditions = conditions := by
  obtain ⟨fields, hspelled⟩ := h.row
  rw [hspelled]

theorem Spells.id_spelledOut : p.spelledOut.id = p.id := by
  obtain ⟨fields, hspelled⟩ := h.row
  rw [hspelled]

theorem Spells.forbids_spelledOut : p.spelledOut.forbids = p.forbids := by
  obtain ⟨fields, hspelled⟩ := h.row
  rw [hspelled]
  rfl

theorem Spells.names_spelledOut (haction : p.action.isText = false)
    (hsubject : p.subject.isText = false) (a : Action) (s : Subject) :
    p.spelledOut.names a s = p.names a s := by
  obtain ⟨fields, hspelled⟩ := h.row
  rw [names, names, Value.words_of_members h.action haction,
    Value.words_of_members h.subject hsubject, hspelled]

theorem Spells.isListed_of_not_misread (hsound : ¬ p.Misread) :
    p.isListed = subjects.all Value.isHashable := by
  rw [isListed]
  rcases Rule.members_ok h.subject with ⟨hnull, -⟩ | ⟨s, hs, rfl⟩ | ⟨-, hitems⟩
  · exact absurd (.subjectless hnull) hsound
  · rw [hs, Value.items?_text]
    dsimp only
    rw [namesSubject_letters]
    simp [Value.isHashable]
  · rw [hitems]
    dsimp only
    rcases Rule.members_ok h.action with ⟨hnull, -⟩ | ⟨t, ht, -⟩ | ⟨-, hitems'⟩
    · cases hhashable : subjects.all Value.isHashable with
      | false => rfl
      | true =>
          have hnames : namesSubject subjects = false := by
            rw [Bool.eq_false_iff]
            exact fun hnames => hsound (.actionless hnull hitems hhashable hnames)
          rw [hnames, Bool.not_false, Bool.or_true, Bool.and_true]
    · rw [ht, Value.items?_text, Option.isSome_some, Bool.true_or, Bool.and_true]
    · rw [hitems', Option.isSome_some, Bool.true_or, Bool.and_true]

/-- Each of the four kinds makes a difference. -/
theorem Spells.not_alike (hmisread : p.Misread) : ¬ p.Alike p.spelledOut := by
  intro halike
  have hlisted := h.isListed_spelledOut
  rw [halike.isListed] at hlisted
  have hfills : p.spelledOut.Fills → p.isListed = true ∧ ∃ a s, p.names a s = true := by
    rintro ⟨hgone, a, s, hnames⟩
    rw [halike.isListed] at hgone
    rw [halike.names hgone] at hnames
    exact ⟨hgone, a, s, hnames⟩
  cases hmisread with
  | subjectless hnull =>
      have hsubjects := h.subject
      rw [hnull] at hsubjects
      cases hsubjects
      rw [isListed, hnull] at hlisted
      cases hlisted
  | @actionless items hnull hitems hhashable hnames =>
      have hsame : items = subjects := by
        rcases Rule.members_ok h.subject with ⟨hnull', -⟩ | ⟨s, hs, -⟩ | ⟨-, hitems'⟩
        · rw [hnull'] at hitems
          cases hitems
        · rw [hs, Value.items?_text] at hitems
          cases hitems
          rw [namesSubject_letters] at hnames
          cases hnames
        · exact Option.some.inj (hitems.symm.trans hitems')
      rw [isListed, hitems, hnull, ← hsame] at hlisted
      dsimp only at hlisted
      rw [hhashable, hnames] at hlisted
      cases hlisted
  | single fills htext =>
      obtain ⟨-, a, s, hnames⟩ := hfills fills
      rw [names_of_isText htext] at hnames
      cases hnames
  | vacuous fills hgrants hstored hread =>
      obtain ⟨hgone, a, s, hnames⟩ := hfills fills
      have hstate := halike.stateBy hgone a s hnames
      rw [Cell.stateBy_of_grants (h.forbids_spelledOut.trans hgrants), hread,
        Cell.stateBy_of_grants hgrants, hstored] at hstate
      cases hstate

/-- And there are no others. -/
theorem Spells.alike (hsound : ¬ p.Misread) : p.Alike p.spelledOut := by
  have hlisted : p.spelledOut.isListed = p.isListed :=
    h.isListed_spelledOut.trans (h.isListed_of_not_misread hsound).symm
  -- A word by itself names nothing, but then neither does the row that is spelled out.
  have hnames : p.isListed = true → ∀ a s, p.spelledOut.names a s = p.names a s := by
    intro hgone a s
    by_cases htext : p.action.isText = true ∨ p.subject.isText = true
    · rw [names_of_isText htext, Bool.eq_false_iff]
      exact fun hnames => hsound (.single ⟨hlisted.trans hgone, a, s, hnames⟩ htext)
    · rw [not_or, Bool.not_eq_true, Bool.not_eq_true] at htext
      exact h.names_spelledOut htext.1 htext.2 a s
  refine ⟨h.id_spelledOut, h.forbids_spelledOut, hlisted, hnames, fun hgone a s hnames' => ?_⟩
  cases hgrants : p.forbids with
  | true =>
      rw [Cell.stateBy_of_forbids hgrants,
        Cell.stateBy_of_forbids (h.forbids_spelledOut.trans hgrants)]
  | false =>
      have htruthy : p.spelledOut.conditions.isTruthy = p.conditions.isTruthy := by
        cases hread : p.spelledOut.conditions.isTruthy with
        | true =>
            rw [h.conditions_spelledOut] at hread
            exact (Rule.isTruthy_of_decode h.decode hread).symm
        | false =>
            refine (Bool.eq_false_iff.mpr fun hstored => hsound ?_).symm
            exact .vacuous ⟨hlisted.trans hgone, a, s, (hnames hgone a s).trans hnames'⟩ hgrants
              hstored hread
      rw [Cell.stateBy_of_grants hgrants,
        Cell.stateBy_of_grants (h.forbids_spelledOut.trans hgrants), htruthy]

end

/-- Spelling a row out that states a rule does not matter to the cells if and only if it is not
among those that are misread. -/
theorem alike_spelledOut_iff {r : Rule} (h : Rule.ofPermission p = .ok r) :
    p.Alike p.spelledOut ↔ ¬ p.Misread := by
  obtain ⟨actions, subjects, conditions, hspells⟩ := exists_spells h
  exact ⟨fun halike hmisread => hspells.not_alike hmisread halike, hspells.alike⟩

end Permission

/-! ## What stands in the cells -/

/-- A cell without the texts that it carries: where it is, its state and the row that it is from. -/
def Cell.standing (c : Cell) : Action × Subject × CellState × Option Uuid :=
  (c.action, c.subject, c.state, c.permissionId)

namespace Matrix

def standings (m : Matrix) : List (Action × Subject × CellState × Option Uuid) :=
  m.cells.map Cell.standing

theorem standings_ofRole (r : Role) :
    (ofRole r).map standings =
      if r.permissions.all Permission.isListed then
        .ok (blank.map fun c => (c.filledBy (settle Permission.forbids
          (Permission.names c.action c.subject) none r.permissions).2).standing)
      else .error .wrongKind := by
  split
  · next hlisted =>
      rw [ofRole_eq (List.all_eq_true.mp hlisted)]
      exact congrArg Except.ok List.map_map
  · next hunlisted =>
      rw [ofRole, coverAll_eq, if_neg hunlisted]
      rfl

/-- Where rows do the same one by one, they leave the same in a cell. -/
theorem standing_congr {ps qs : List Permission}
    (h : List.Forall₂ (fun p q => p.isListed = true ∧ p.Alike q) ps qs) (c : Cell) :
    (c.filledBy (settle Permission.forbids (Permission.names c.action c.subject) none
        qs).2).standing =
      (c.filledBy (settle Permission.forbids (Permission.names c.action c.subject) none
        ps).2).standing := by
  have hrelated := @settle_related _ _ _ Permission.forbids
    (Permission.names c.action c.subject) Permission.forbids
    (Permission.names c.action c.subject) (fun p q hpq => hpq.2.forbids)
    (fun p q hpq => hpq.2.names hpq.1 _ _) _ _ h none none .none
  have hnames : ∀ p, (settle Permission.forbids (Permission.names c.action c.subject) none ps).2 =
      some p → p.names c.action c.subject = true := fun p hp => (settle_decider_iff.mp hp).1
  -- Only what decides is left to compare, and that names the cell.
  generalize (settle Permission.forbids (Permission.names c.action c.subject) none ps).2 = decider
    at hrelated hnames ⊢
  generalize (settle Permission.forbids (Permission.names c.action c.subject) none qs).2 = decider'
    at hrelated ⊢
  cases hrelated with
  | none => rfl
  | @some p q hpq =>
      show (c.action, c.subject, Cell.stateBy q, some q.id) =
        (c.action, c.subject, Cell.stateBy p, some p.id)
      rw [hpq.2.stateBy hpq.1 _ _ (hnames p rfl), hpq.2.id]

theorem standings_congr {r r' : Role}
    (h : List.Forall₂ Permission.Alike r.permissions r'.permissions) :
    (ofRole r').map standings = (ofRole r).map standings := by
  have hlisted : ∀ {ps qs : List Permission}, List.Forall₂ Permission.Alike ps qs →
      qs.all Permission.isListed = ps.all Permission.isListed := by
    intro ps qs hrows
    induction hrows with
    | nil => rfl
    | cons hpq _ ih => rw [List.all_cons, List.all_cons, hpq.isListed, ih]
  rw [standings_ofRole, standings_ofRole, hlisted h]
  split
  · next hall =>
      have hrows := (List.forall₂_and_left _ _).mpr ⟨List.all_eq_true.mp hall, h⟩
      exact congrArg Except.ok (List.map_congr_left fun c _ => standing_congr hrows c)
  · rfl

/-- A row by itself shows all that it does. -/
theorem alike_of_standings {r : Role} {p q : Permission} (hforbids : q.forbids = p.forbids)
    (h : (ofRole { r with permissions := [q] }).map standings =
      (ofRole { r with permissions := [p] }).map standings) (hid : q.id = p.id) : p.Alike q := by
  have halone : ∀ (p : Permission) (c : Cell),
      (settle Permission.forbids (Permission.names c.action c.subject) none [p]).2 =
        if p.names c.action c.subject then some p else none := by
    intro p c
    simp only [settle]
    split
    · split <;> rfl
    · rfl
  rw [standings_ofRole, standings_ofRole] at h
  simp only [List.all_cons, List.all_nil, Bool.and_true, halone] at h
  have hlisted : q.isListed = p.isListed := by
    cases hp : p.isListed <;> cases hq : q.isListed <;> rw [hp, hq] at h <;> first | rfl | cases h
  -- Each cell tells whether the row has filled it, and with which state.
  have hcell : p.isListed = true → ∀ a s,
      q.names a s = p.names a s ∧ (p.names a s = true → Cell.stateBy q = Cell.stateBy p) := by
    intro hp a s
    rw [hlisted, hp, if_pos rfl, if_pos rfl, Except.ok.injEq, List.map_inj_left] at h
    have hsame := h { action := a, subject := s } (mem_blank.mpr rfl)
    dsimp only at hsame
    cases hnames : p.names a s <;> cases hnames' : q.names a s <;> rw [hnames, hnames'] at hsame
    · exact ⟨rfl, fun hnamed => absurd hnamed Bool.false_ne_true⟩
    · have hid' : some q.id = none := congrArg (fun standing => standing.2.2.2) hsame
      cases hid'
    · have hid' : none = some p.id := congrArg (fun standing => standing.2.2.2) hsame
      cases hid'
    · exact ⟨rfl, fun _ => congrArg (fun standing => standing.2.2.1) hsame⟩
  exact ⟨hid, hforbids, hlisted, fun hp a s => (hcell hp a s).1, fun hp a s => (hcell hp a s).2⟩

end Matrix

/-! ## The tables spelled out -/

namespace Work

variable {α β γ δ : Type}

/-- On tables that have been rewritten, one operation comes to what another comes to on the tables
as they were, its result rewritten as well. -/
def Follows (f : Database → Database) (g : α → β) (t : Work α) (t' : Work β) : Prop :=
  ∀ w, t' { w with db := f w.db } = ((t w).1.map g, { (t w).2 with db := f (t w).2.db })

variable {f : Database → Database} {g : α → β} {t : Work α} {t' : Work β}

theorem Follows.pure (a : α) : Follows f g (Pure.pure a) (Pure.pure (g a)) := fun _ => rfl

theorem Follows.bind {next : α → Work γ} {next' : β → Work δ} {k : γ → δ} (ht : Follows f g t t')
    (hnext : ∀ a, Follows f k (next a) (next' (g a))) :
    Follows f k (t >>= next) (t' >>= next') := by
  intro w
  rw [bind_apply, bind_apply, ht w]
  rcases t w with ⟨e | a, w₁⟩
  · rfl
  · exact hnext a w₁

theorem Follows.step (s : DbStep) : Follows f id (step s) (step s) := by
  intro w
  unfold Work.step
  dsimp only
  split <;> rfl

theorem Follows.query {s : DbStep} {read : Database → α} {read' : Database → β}
    (h : ∀ db, read' (f db) = g (read db)) : Follows f g (query s read) (query s read') := by
  refine (Follows.step s).bind fun _ w => ?_
  show (Except.ok (read' (f w.db)), _) = (Except.ok (g (read w.db)), _)
  rw [h]
  rfl

theorem Follows.transact (ht : Follows f g t t') :
    Follows f g (transact t) (transact t') := by
  have hrun : Follows f g (do Work.step .connect; let a ← t; commit a)
      (do Work.step .connect; let b ← t'; commit b) :=
    (Follows.step .connect).bind fun _ => ht.bind fun a =>
      (Follows.step .commit).bind fun _ => Follows.pure a
  intro w
  unfold Work.transact
  rw [hrun w]
  rcases (do Work.step .connect; let a ← t; commit a : Work α) w with ⟨e | a, w₁⟩ <;> rfl

theorem map_ofFault (r : Except Fault α) (k : α → β) (w : World) :
    (ofFault r w).1.map k = Failure.ofFault (r.map k) := by
  cases r <;> rfl

end Work

def Role.spelledOut (r : Role) : Role :=
  { r with permissions := r.permissions.map Permission.spelledOut }

namespace Database

/-- The tables with every row of a permission spelled out. -/
def spelledOut (db : Database) : Database :=
  { db with permissions := db.permissions.map Permission.spelledOut }

end Database

def World.spelledOut (w : World) : World := { w with db := w.db.spelledOut }

theorem Permission.spelledOut_roleId (p : Permission) : p.spelledOut.roleId = p.roleId := by
  unfold spelledOut
  split <;> rfl

/-- The flag that forbids is no matter of spelling. -/
theorem Permission.spelledOut_readPermission (p : Permission) :
    (Database.readPermission p).spelledOut = Database.readPermission p.spelledOut := by
  have htruthy : ∀ b : Bool, (Value.bool b).isTruthy = b := fun _ => rfl
  have hrule : Rule.ofPermission (Database.readPermission p) = Rule.ofPermission p := by
    simp only [Rule.ofPermission, Rule.ofTerms, Database.readPermission, htruthy]
  unfold spelledOut
  rw [hrule]
  show (match Rule.ofPermission p, Rule.decode p.fields, Rule.decode p.conditions with
    | .ok r, .ok fields, .ok conditions => _
    | _, _, _ => _) = _
  split <;> rfl

namespace Database

theorem permissionsOf_spelledOut (db : Database) (id : Uuid) :
    db.spelledOut.permissionsOf id = (db.permissionsOf id).map Permission.spelledOut := by
  unfold permissionsOf spelledOut
  dsimp only
  rw [List.filter_map, List.map_map, List.map_map]
  have hsame : ((fun p : Permission => decide (p.roleId = id)) ∘ Permission.spelledOut) =
      fun p => decide (p.roleId = id) := by
    funext p
    rw [Function.comp_apply, p.spelledOut_roleId]
  rw [hsame]
  exact List.map_congr_left fun p _ => p.spelledOut_readPermission.symm

theorem attach_spelledOut (db : Database) (rows : List RoleRow) :
    db.spelledOut.attach rows = (db.attach rows).map Role.spelledOut := by
  unfold attach
  rw [List.map_map]
  refine List.map_congr_left fun row _ => ?_
  rw [permissionsOf_spelledOut]
  rfl

end Database

theorem Store.role_follows (id : Uuid) :
    Work.Follows Database.spelledOut (Option.map Role.spelledOut) (role id) (role id) := by
  have hroles : Work.Follows Database.spelledOut (List.map Role.spelledOut) (roles (some [id]))
      (roles (some [id])) := by
    have hrows : Work.Follows Database.spelledOut (fun rows => rows)
        (Work.query .roleSelect fun db => db.roleRows (some [id]))
        (Work.query .roleSelect fun db => db.roleRows (some [id])) :=
      Work.Follows.query fun _ => rfl
    refine hrows.bind fun rows => ?_
    split
    · exact Work.Follows.pure []
    · exact Work.Follows.query fun db => db.attach_spelledOut rows
  refine hroles.bind fun found => ?_
  rw [List.head?_map]
  exact Work.Follows.pure found.head?

namespace Matrix

/-- A role none of whose rows is misread has the same cells when its rows are spelled out: the same
states, and from the same rows. And spelling out a row that is alone changes what stands in the
cells if and only if the row is misread. -/
theorem forRole_spelledOut {w : World} {id : Uuid}
    (haccepted : ∀ p ∈ w.db.permissionsOf id, ∃ r, Rule.ofPermission p = .ok r) :
    ((∀ p ∈ w.db.permissionsOf id, ¬ p.Misread) →
      (forRole id w.spelledOut).1.map standings = (forRole id w).1.map standings) ∧
    ∀ p ∈ w.db.permissionsOf id, ∀ r : Role,
      ((ofRole { r with permissions := [p.spelledOut] }).map standings =
        (ofRole { r with permissions := [p] }).map standings) ↔ ¬ p.Misread := by
  refine ⟨fun hsound => ?_, fun p hp r => ?_⟩
  · have hspelled : ∀ p ∈ w.db.permissionsOf id, p.Alike p.spelledOut := by
      intro p hp
      obtain ⟨rule, hrule⟩ := haccepted p hp
      exact (Permission.alike_spelledOut_iff hrule).mpr (hsound p hp)
    unfold forRole World.spelledOut
    rw [Work.bind_apply, Work.bind_apply, (Store.role_follows id).transact w]
    rcases hread : Work.transact (Store.role id) w with ⟨f | found, w₁⟩
    · rfl
    · have hrole := (Store.role_answers id).transact.result hread
      cases found with
      | none => rfl
      | some r =>
          obtain ⟨-, -, hrows⟩ := Database.role?_some hrole.symm
          rw [← hrows] at hspelled
          have hrows := List.forall₂_map_right_iff.mpr (List.forall₂_same.mpr hspelled)
          have hsame := @standings_congr r r.spelledOut hrows
          show (Work.ofFault (ofRole r.spelledOut) _).1.map standings =
            (Work.ofFault (ofRole r) _).1.map standings
          rw [Work.map_ofFault, Work.map_ofFault, hsame]
  · obtain ⟨rule, hrule⟩ := haccepted p hp
    rw [← Permission.alike_spelledOut_iff hrule]
    obtain ⟨actions, subjects, conditions, hspells⟩ := Permission.exists_spells hrule
    constructor
    · intro h
      exact alike_of_standings hspells.forbids_spelledOut h hspells.id_spelledOut
    · intro halike
      exact standings_congr (.cons halike .nil)

end Matrix

/-! ## Readers in other spellings

One role with one row. The row of the readers of the blue team has its conditions and fields in
texts, which makes no difference. The other three rows are each misread in a way of their own. -/

def World.ofRow (p : Permission) : World :=
  { sample FaultPlan.none with db := ⟨[⟨Uuid.ofNat 2, "reader", none, none⟩], [p], [], []⟩ }

/-- Of the blue team, their email. -/
def Permission.inTexts : Permission :=
  { toReadAccounts (.text "\x7b\"team\": \"blue\"\x7d") with fields := .text "[\"email\"]" }

/-- One action on one subject. -/
def Permission.inWords : Permission :=
  { toReadAccounts .null with action := .text "read", subject := .text "account" }

/-- No conditions, in a text. -/
def Permission.inVain : Permission := toReadAccounts (.text "\x7b\x7d")

/-- Nothing to read. -/
def Permission.ofNothing : Permission := { toReadAccounts .null with subject := .null }

theorem Permission.inTexts_not_misread : ¬ inTexts.Misread := by
  intro hmisread
  cases hmisread with
  | subjectless hnull => cases hnull
  | actionless hnull => cases hnull
  | single _ htext => rcases htext with htext | htext <;> cases htext
  | vacuous _ _ _ hread =>
      have htruthy : inTexts.spelledOut.conditions.isTruthy = true := by decide +kernel
      rw [hread] at htruthy
      cases htruthy

/-- Whether a matrix was made that has this in one of its cells. -/
def Matrix.hasStanding (r : Except Failure Matrix)
    (standing : Action × Subject × CellState × Option Uuid) : Bool :=
  r.toOption.any fun m => m.standings.contains standing

/-- With its parts in texts the row leaves the same in the cells, a grant under conditions. -/
theorem Matrix.forRole_spelledOut_texts :
    (forRole (Uuid.ofNat 2) (World.ofRow .inTexts).spelledOut).1.map standings =
        (forRole (Uuid.ofNat 2) (.ofRow .inTexts)).1.map standings ∧
      hasStanding (forRole (Uuid.ofNat 2) (.ofRow .inTexts)).1
        (.read, .account, .conditional, some (Uuid.ofNat 3)) = true := by
  have hrows : (World.ofRow .inTexts).db.permissionsOf (Uuid.ofNat 2) = [.inTexts] := rfl
  have haccepted : (Rule.ofPermission .inTexts).isOk = true := by decide +kernel
  obtain ⟨hsame, -⟩ := @forRole_spelledOut (World.ofRow .inTexts) (Uuid.ofNat 2) (by
    rw [hrows, List.forall_mem_singleton]
    cases hrule : Rule.ofPermission .inTexts with
    | error e =>
        rw [hrule] at haccepted
        cases haccepted
    | ok r => exact ⟨r, rfl⟩)
  rw [hrows, List.forall_mem_singleton] at hsame
  exact ⟨hsame Permission.inTexts_not_misread, by decide +kernel⟩

/-- A rule is made of each of the three rows. Of the words the matrix sees nothing, where their rule
grants. For the text it tells of conditions, where there are none. And of the last row there is no
matrix, where the rule is about nothing. -/
theorem Matrix.forRole_misread :
    ([Permission.inWords, .inVain, .ofNothing].all fun p => (Rule.ofPermission p).isOk) = true ∧
      (hasStanding (forRole (Uuid.ofNat 2) (.ofRow .inWords)).1
          (.read, .account, .uncovered, none) = true ∧
        hasStanding (forRole (Uuid.ofNat 2) (World.ofRow .inWords).spelledOut).1
          (.read, .account, .granted, some (Uuid.ofNat 3)) = true) ∧
      (hasStanding (forRole (Uuid.ofNat 2) (.ofRow .inVain)).1
          (.read, .account, .conditional, some (Uuid.ofNat 3)) = true ∧
        hasStanding (forRole (Uuid.ofNat 2) (World.ofRow .inVain).spelledOut).1
          (.read, .account, .granted, some (Uuid.ofNat 3)) = true) ∧
      (forRole (Uuid.ofNat 2) (.ofRow .ofNothing)).1.isOk = false ∧
        (forRole (Uuid.ofNat 2) (World.ofRow .ofNothing).spelledOut).1.isOk = true := by
  decide +kernel

end Warrant
