import Warrant.Proofs.Cells
import Warrant.Proofs.Verdicts

/-!
# What the cells of a matrix show

The matrix is filled permission by permission, subject by subject and action by
action, and one permission may come to the same cell many times. What stands in a
cell afterwards can be read off the list of permissions alone. `Cell.Shows` says it:
the cell shows the first forbid that lists its action and its subject, or without
one the last permission that does, and if nothing lists them it is empty.

To list a word is to have it among the texts of a list. Nothing else reaches a
cell, neither the words that stand for all the others nor words that no cell has.

`Matrix.forRole_shows` says that the matrix consists of the cells that the rows
show, one for each place, and that a row matters only to the cells that it lists.
-/

namespace Warrant

namespace Permission

/-- A row whose actions and subjects are lists of texts. -/
structure ListsTexts (p : Permission) : Prop where
  action : ∃ names, p.action = .ofTexts names
  subject : ∃ names, p.subject = .ofTexts names

/-- A row has the action and the subject on its lists. -/
structure Lists (p : Permission) (action : Action) (subject : Subject) : Prop where
  action : ∃ names, p.action = .ofTexts names ∧ action.name ∈ names
  subject : ∃ names, p.subject = .ofTexts names ∧ subject.name ∈ names

variable {p : Permission}

theorem Lists.names {action : Action} {subject : Subject} (h : p.Lists action subject) :
    p.names action subject = true := by
  obtain ⟨as, has, ha⟩ := h.action
  obtain ⟨ss, hss, hs⟩ := h.subject
  simp [Permission.names, has, hss, Value.words_ofTexts, ha, hs]

theorem ListsTexts.names_iff (h : p.ListsTexts) {action : Action} {subject : Subject} :
    p.names action subject = true ↔ p.Lists action subject := by
  refine ⟨fun hnames => ?_, Lists.names⟩
  obtain ⟨as, has⟩ := h.action
  obtain ⟨ss, hss⟩ := h.subject
  simp only [Permission.names, has, hss, Value.words_ofTexts, Bool.and_eq_true,
    List.contains_iff_mem] at hnames
  exact ⟨⟨as, has, hnames.1⟩, ⟨ss, hss, hnames.2⟩⟩

theorem ListsTexts.isListed (h : p.ListsTexts) : p.isListed = true := by
  obtain ⟨as, has⟩ := h.action
  obtain ⟨ss, hss⟩ := h.subject
  simp [Permission.isListed, has, hss, Value.ofTexts, Value.items?, Value.isHashable]

end Permission

namespace Cell

/-- What a cell shows of the rows of a role. -/
inductive Shows (rows : List Permission) : Cell → Prop where
  /-- The first forbid that lists the place. -/
  | forbidden {before after : List Permission} {p : Permission} {a : Action} {s : Subject}
      (split : rows = before ++ p :: after) (lists : p.Lists a s) (forbids : p.forbids = true)
      (first : ∀ q ∈ before, q.forbids = true → ¬ q.Lists a s) :
      Shows rows ⟨a, s, .forbidden, some p.id, p.reason, p.fields, p.conditions⟩
  /-- Without a forbid, the last row that lists the place, if it has conditions. -/
  | conditional {before after : List Permission} {p : Permission} {a : Action} {s : Subject}
      (split : rows = before ++ p :: after) (lists : p.Lists a s)
      (unopposed : ∀ q ∈ rows, q.forbids = true → ¬ q.Lists a s)
      (last : ∀ q ∈ after, ¬ q.Lists a s) (conditions : p.conditions.isTruthy = true) :
      Shows rows ⟨a, s, .conditional, some p.id, p.reason, p.fields, p.conditions⟩
  /-- And the same row if it has none. -/
  | granted {before after : List Permission} {p : Permission} {a : Action} {s : Subject}
      (split : rows = before ++ p :: after) (lists : p.Lists a s)
      (unopposed : ∀ q ∈ rows, q.forbids = true → ¬ q.Lists a s)
      (last : ∀ q ∈ after, ¬ q.Lists a s) (conditions : p.conditions.isTruthy = false) :
      Shows rows ⟨a, s, .granted, some p.id, p.reason, p.fields, p.conditions⟩
  /-- Where no row lists the place there is nothing to show. -/
  | uncovered {a : Action} {s : Subject} (unlisted : ∀ q ∈ rows, ¬ q.Lists a s) :
      Shows rows ⟨a, s, .uncovered, none, .null, .null, .null⟩

variable {rows : List Permission}

theorem filledBy_some {a : Action} {s : Subject} (p : Permission) :
    ({ action := a, subject := s } : Cell).filledBy (some p) =
      ⟨a, s, stateBy p, some p.id, p.reason, p.fields, p.conditions⟩ := rfl

theorem stateBy_of_forbids {p : Permission} (h : p.forbids = true) : stateBy p = .forbidden :=
  (stateBy_eq_forbidden_iff p).mpr h

theorem stateBy_of_grants {p : Permission} (h : p.forbids = false) :
    stateBy p = if p.conditions.isTruthy then .conditional else .granted := by
  have hgrants : p.inverted.isTruthy = false := h
  simp [stateBy, hgrants]

theorem shows_of_settle (hlists : ∀ p ∈ rows, p.ListsTexts) (a : Action) (s : Subject) :
    (({ action := a, subject := s } : Cell).filledBy
      (settle Permission.forbids (Permission.names a s) none rows).2).Shows rows := by
  have hnot : ∀ q ∈ rows, (q.names a s = false ↔ ¬ q.Lists a s) := by
    intro q hq
    rw [← (hlists q hq).names_iff, Bool.not_eq_true]
  cases hdecider : (settle Permission.forbids (Permission.names a s) none rows).2 with
  | none =>
      rw [settle_undecided_iff] at hdecider
      exact .uncovered fun q hq => (hnot q hq).mp (hdecider q hq)
  | some p =>
      obtain ⟨hnames, before, after, hsplit, hdecides⟩ := settle_decider_iff.mp hdecider
      have hmem : ∀ q, q ∈ before ∨ q = p ∨ q ∈ after → q ∈ rows := by
        intro q hq
        rw [hsplit, List.mem_append, List.mem_cons]
        exact hq
      have hp := (hlists p (hmem p (Or.inr (Or.inl rfl)))).names_iff.mp hnames
      rw [filledBy_some]
      rcases hdecides with ⟨hforbids, hfirst⟩ | ⟨hfree, hlast⟩
      · rw [stateBy_of_forbids hforbids]
        refine .forbidden hsplit hp hforbids fun q hq hq' => ?_
        exact (hnot q (hmem q (Or.inl hq))).mp (hfirst q hq hq')
      · have hgrants := hfree p (hmem p (Or.inr (Or.inl rfl))) hnames
        have hunopposed : ∀ q ∈ rows, q.forbids = true → ¬ q.Lists a s := by
          intro q hq hforbids hlists'
          rw [hfree q hq hlists'.names] at hforbids
          cases hforbids
        have hlast' : ∀ q ∈ after, ¬ q.Lists a s :=
          fun q hq => (hnot q (hmem q (Or.inr (Or.inr hq)))).mp (hlast q hq)
        -- Only of a grant do the conditions show in the state.
        rw [stateBy_of_grants hgrants]
        cases hconditions : p.conditions.isTruthy with
        | true => exact .conditional hsplit hp hunopposed hlast' hconditions
        | false => exact .granted hsplit hp hunopposed hlast' hconditions

theorem Shows.settle_eq {c : Cell} (h : c.Shows rows) (hlists : ∀ p ∈ rows, p.ListsTexts) :
    c = ({ action := c.action, subject := c.subject } : Cell).filledBy
      (settle Permission.forbids (Permission.names c.action c.subject) none rows).2 := by
  have hnames : ∀ {q a s}, q ∈ rows → ¬ q.Lists a s → q.names a s = false := by
    intro q a s hq hunlisted
    rwa [← (hlists q hq).names_iff, Bool.not_eq_true] at hunlisted
  -- The last row that lists the place decides, with conditions or without.
  have hlast : ∀ {before after p a s}, rows = before ++ p :: after → p.Lists a s →
      (∀ q ∈ rows, q.forbids = true → ¬ q.Lists a s) → (∀ q ∈ after, ¬ q.Lists a s) →
      p.forbids = false ∧
        (settle Permission.forbids (Permission.names a s) none rows).2 = some p := by
    intro before after p a s hsplit hp hunopposed hlast
    have hmem : ∀ q, q = p ∨ q ∈ after → q ∈ rows := by
      intro q hq
      rw [hsplit]
      exact List.mem_append_right _ (List.mem_cons.mpr hq)
    have hfree : ∀ q ∈ rows, q.names a s = true → q.forbids = false := by
      intro q hq hq'
      rw [Bool.eq_false_iff]
      exact fun hforbids => hunopposed q hq hforbids ((hlists q hq).names_iff.mp hq')
    exact ⟨hfree p (hmem p (Or.inl rfl)) hp.names, settle_decider_iff.mpr ⟨hp.names, before, after,
      hsplit, Or.inr ⟨hfree, fun q hq => hnames (hmem q (Or.inr hq)) (hlast q hq)⟩⟩⟩
  cases h with
  | @forbidden before after p a s hsplit hp hforbids hfirst =>
      have hdecider : (settle Permission.forbids (Permission.names a s) none rows).2 = some p := by
        refine settle_decider_iff.mpr ⟨hp.names, before, after, hsplit, Or.inl ⟨hforbids, ?_⟩⟩
        intro q hq hq'
        exact hnames (by rw [hsplit]; exact List.mem_append_left _ hq) (hfirst q hq hq')
      dsimp only
      rw [hdecider, filledBy_some, stateBy_of_forbids hforbids]
  | conditional hsplit hp hunopposed hafter hconditions =>
      obtain ⟨hgrants, hdecider⟩ := hlast hsplit hp hunopposed hafter
      dsimp only
      rw [hdecider, filledBy_some, stateBy_of_grants hgrants, if_pos hconditions]
  | granted hsplit hp hunopposed hafter hconditions =>
      obtain ⟨hgrants, hdecider⟩ := hlast hsplit hp hunopposed hafter
      dsimp only
      rw [hdecider, filledBy_some, stateBy_of_grants hgrants, hconditions]
      rfl
  | @uncovered a s hunlisted =>
      have hdecider : (settle Permission.forbids (Permission.names a s) none rows).2 = none :=
        settle_undecided_iff.mpr fun q hq => hnames hq (hunlisted q hq)
      dsimp only
      rw [hdecider]
      rfl

theorem mem_filled_iff_shows (hlists : ∀ p ∈ rows, p.ListsTexts) {c : Cell} :
    c ∈ Matrix.blank.map (fun c => c.filledBy (settle Permission.forbids
        (Permission.names c.action c.subject) none rows).2) ↔ c.Shows rows := by
  rw [List.mem_map]
  constructor
  · rintro ⟨d, hd, rfl⟩
    rw [Matrix.mem_blank.mp hd]
    exact shows_of_settle hlists d.action d.subject
  · intro hshows
    exact ⟨{ action := c.action, subject := c.subject }, Matrix.mem_blank.mpr rfl,
      (hshows.settle_eq hlists).symm⟩

end Cell

namespace Matrix

/-- A row that does not list the place of a cell does not matter to it. -/
theorem cell_ofRole_filter {r : Role} {m : Matrix} (hlists : ∀ p ∈ r.permissions, p.ListsTexts)
    (hm : ofRole r = .ok m) {a : Action} {s : Subject} {keep : Permission → Bool}
    (hkeep : ∀ p ∈ r.permissions, p.Lists a s → keep p = true) :
    ∃ m', ofRole { r with permissions := r.permissions.filter keep } = .ok m' ∧
      m'.cell a.name s.name = m.cell a.name s.name := by
  have hlisted : ∀ p ∈ r.permissions, p.isListed = true := fun p hp => (hlists p hp).isListed
  have hlisted' : ∀ p ∈ r.permissions.filter keep, p.isListed = true :=
    fun p hp => hlisted p (List.mem_filter.mp hp).1
  have hnames : ∀ p ∈ r.permissions, p.names a s = true → keep p = true :=
    fun p hp hp' => hkeep p hp ((hlists p hp).names_iff.mp hp')
  refine ⟨_, ofRole_eq hlisted', ?_⟩
  rw [cell_ofRole hlisted hm, cell_ofRole hlisted' (ofRole_eq hlisted')]
  dsimp only
  rw [settle_filter none hnames]

/-- The matrix of a role whose rows list texts is made. It has one cell for each action on each
subject, its cells are those that the rows show, and a cell is the same without the rows that do not
list it, whatever else they list. -/
theorem forRole_shows {w : World} {id : Uuid} (hrole : w.db.hasRole id = true)
    (hlists : ∀ p ∈ w.db.permissionsOf id, p.ListsTexts) :
    (w.faults = FaultPlan.none → ∃ m w', forRole id w = (.ok m, w')) ∧
      ∀ m w', forRole id w = (.ok m, w') →
        m.cells.map (fun c => (c.subject, c.action)) =
            (Subject.all.flatMap fun s => Action.all.map fun a => (s, a)) ∧
          (∀ c, c ∈ m.cells ↔ c.Shows (w.db.permissionsOf id)) ∧
          ∀ (a : Action) (s : Subject) (keep : Permission → Bool),
            (∀ p ∈ w.db.permissionsOf id, p.Lists a s → keep p = true) →
            ∃ m', ofRole { m.role with permissions := m.role.permissions.filter keep } = .ok m' ∧
              m'.cell a.name s.name = m.cell a.name s.name := by
  refine ⟨fun hsound => forRole_apply hsound hrole fun p hp => (hlists p hp).isListed,
    fun m w' hrun => ?_⟩
  obtain ⟨r, hr, hm⟩ := forRole_ok hrun
  rw [← (Database.role?_some hr).2.2] at hlists ⊢
  have hfilled := ofRole_eq fun p hp => (hlists p hp).isListed
  rw [hm] at hfilled
  cases hfilled
  refine ⟨?_, fun c => Cell.mem_filled_iff_shows hlists,
    fun a s keep hkeep => cell_ofRole_filter hlists hm hkeep⟩
  have hplaces : blank.map (fun c => (c.subject, c.action)) =
      Subject.all.flatMap fun s => Action.all.map fun a => (s, a) := rfl
  rw [← hplaces, List.map_map]
  refine List.map_congr_left fun c _ => ?_
  have hplace := c.filledBy_place (settle Permission.forbids
    (Permission.names c.action c.subject) none r.permissions).2
  rw [Function.comp_apply, hplace.1, hplace.2]

end Matrix

/-! ## A role of editors

They may read the files of their team and manage everything, but then reading files is forbidden, and
granted again. Some of the words are listed twice, and some are in no vocabulary. -/

def Permission.ofEditors (n : Nat) (actions subjects : List String) (conditions : Value)
    (inverted : Bool) : Permission where
  id := Uuid.ofNat n
  roleId := Uuid.ofNat 2
  action := .ofTexts actions
  subject := .ofTexts subjects
  fields := .null
  conditions := conditions
  inverted := .bool inverted
  reason := .null
  createdAt := none

def Permission.editorRows : List Permission :=
  [.ofEditors 11 ["read", "read", "fly"] ["file", "file"] .ownTeam false,
    .ofEditors 12 ["manage"] ["all"] .null false,
    .ofEditors 13 ["read", "update"] ["file", "rocket"] .null true,
    .ofEditors 14 ["read", "delete"] ["file"] .null false,
    .ofEditors 15 ["delete"] ["file", "file"] .ownTeam false]

def World.ofEditors : World :=
  { sample FaultPlan.none with
    db := ⟨[⟨Uuid.ofNat 2, "editor", none, none⟩], Permission.editorRows, [], []⟩ }

theorem World.ofEditors_lists :
    ∀ p ∈ World.ofEditors.db.permissionsOf (Uuid.ofNat 2), p.ListsTexts := by
  intro p hp
  obtain ⟨q, hq, rfl⟩ := List.mem_map.mp hp
  have hrow := (List.mem_filter.mp hq).1
  simp only [ofEditors, Permission.editorRows, List.mem_cons, List.not_mem_nil, or_false] at hrow
  rcases hrow with rfl | rfl | rfl | rfl | rfl <;> exact ⟨⟨_, rfl⟩, ⟨_, rfl⟩⟩

theorem Matrix.forRole_shows_editors :
    ∃ m w', forRole (Uuid.ofNat 2) World.ofEditors = (.ok m, w') ∧
      (⟨.read, .file, .forbidden, some (Uuid.ofNat 13), .null, .null, .null⟩ : Cell) ∈ m.cells ∧
      (⟨.delete, .file, .conditional, some (Uuid.ofNat 15), .null, .null, .ownTeam⟩ : Cell) ∈
        m.cells ∧
      (⟨.manage, .everything, .granted, some (Uuid.ofNat 12), .null, .null, .null⟩ : Cell) ∈
        m.cells ∧
      (⟨.read, .account, .uncovered, none, .null, .null, .null⟩ : Cell) ∈ m.cells := by
  obtain ⟨hmade, hshows⟩ := @forRole_shows World.ofEditors (Uuid.ofNat 2) (by decide +kernel)
    World.ofEditors_lists
  obtain ⟨m, w', hrun⟩ := hmade rfl
  obtain ⟨-, hcells, -⟩ := hshows m w' hrun
  have hunlisted : ∀ {a : Action} {s : Subject} {rows : List Permission},
      (∀ q ∈ rows, q.names a s = false) → ∀ q ∈ rows, ¬ q.Lists a s := by
    intro a s rows hnames q hq hlists
    have hnot := hnames q hq
    rw [hlists.names] at hnot
    cases hnot
  have hfree : ∀ {a : Action} {s : Subject} {rows : List Permission},
      (∀ q ∈ rows, (q.forbids && q.names a s) = false) →
        ∀ q ∈ rows, q.forbids = true → ¬ q.Lists a s := by
    intro a s rows hnames q hq hforbids hlists
    have hnot := hnames q hq
    rw [hforbids, hlists.names] at hnot
    cases hnot
  refine ⟨m, w', hrun, (hcells _).mpr ?_, (hcells _).mpr ?_, (hcells _).mpr ?_, (hcells _).mpr ?_⟩
  · exact @Cell.Shows.forbidden _ (Permission.editorRows.take 2) _
      (.ofEditors 13 ["read", "update"] ["file", "rocket"] .null true) _ _ rfl
      ⟨⟨_, rfl, by decide⟩, ⟨_, rfl, by decide⟩⟩ rfl (hfree (by decide +kernel))
  · exact @Cell.Shows.conditional _ (Permission.editorRows.take 4) []
      (.ofEditors 15 ["delete"] ["file", "file"] .ownTeam false) _ _ rfl
      ⟨⟨_, rfl, by decide⟩, ⟨_, rfl, by decide⟩⟩ (hfree (by decide +kernel)) nofun rfl
  · exact @Cell.Shows.granted _ (Permission.editorRows.take 1) (Permission.editorRows.drop 2)
      (.ofEditors 12 ["manage"] ["all"] .null false) _ _ rfl
      ⟨⟨_, rfl, by decide⟩, ⟨_, rfl, by decide⟩⟩ (hfree (by decide +kernel))
      (hunlisted (by decide +kernel)) rfl
  · exact .uncovered (hunlisted (by decide +kernel))

end Warrant
