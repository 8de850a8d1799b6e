import Warrant.Matrix
import Warrant.Proofs.Coarsening
import Warrant.Proofs.Command
import Warrant.Proofs.Conditionality
import Warrant.Proofs.Degradation
import Warrant.Proofs.Reading
import Warrant.Proofs.Tables

/-!
# What the matrix shows and what a check answers

The matrix of a role and a check by subject name read the same permissions in
two ways. The matrix fills a grid permission by permission, and a cell that is
forbidden once is left alone; a check goes through the rules and stops at a
forbid. Here both are seen to be one scan: a cell is filled by what the scan of
the permissions that name it settles on.

What keeps the two apart are words and conditions. The matrix takes the words of
a permission as they stand, while a rule that names managing, or every subject,
covers more than it names; and a forbid under conditions or for some fields
shows in the matrix, but counts in no check by name. A permission without these
is literal, and for a role whose permissions are literal the two agree, down to
the permission that decides.
-/

namespace Warrant

/-! ## Permissions that name a cell -/

/-- The words of a part of a permission: the texts among its items. -/
def Value.words (v : Value) : List String := (v.items?.getD []).filterMap text?

theorem Value.words_ofTexts (names : List String) : (ofTexts names).words = names := by
  show (names.map text).filterMap text? = names
  rw [List.filterMap_map]
  exact List.filterMap_some

namespace Permission

/-- Whether a permission names an action and a subject. -/
def names (action : Action) (subject : Subject) (p : Permission) : Bool :=
  p.action.words.contains action.name && p.subject.words.contains subject.name

def forbids (p : Permission) : Bool := p.inverted.isTruthy

/-- Whether one of the values is the word for a subject. -/
def namesSubject (vs : List Value) : Bool := vs.any fun v => (v.text?.bind Subject.ofName?).isSome

/-- Whether a permission can be gone through for what it names. Its actions are looked at only if it
names a subject. -/
def isListed (p : Permission) : Bool :=
  match p.subject.items? with
  | none => false
  | some subjects =>
      subjects.all Value.isHashable && (p.action.items?.isSome || !namesSubject subjects)

theorem isListed_of_shaped {p : Permission} (h : p.toTerms.Shaped) : p.isListed = true := by
  obtain ⟨as, haction⟩ := h.action
  obtain ⟨ss, hsubject⟩ := h.subject
  have hhashable : (ss.map Value.text).all Value.isHashable = true := by simp [Value.isHashable]
  unfold isListed
  rw [haction, hsubject]
  show ((ss.map Value.text).all Value.isHashable && (true || _)) = true
  rw [hhashable, Bool.true_or, Bool.and_true]

/-- A permission in shape that covers what it names and no more, and that forbids, if it does, under
no conditions and for every field. -/
structure Literal (p : Permission) : Prop where
  shaped : p.toTerms.Shaped
  unmanaged : Action.manage.name ∉ p.action.words
  particular : Subject.everything.name ∉ p.subject.words
  plain : p.forbids = true → p.conditions.isTruthy = false ∧ p.fields = .null

end Permission

/-! ## Cells -/

namespace Cell

/-- The cell after a permission that may name it. -/
def after (c : Cell) (named : Bool) (p : Permission) : Cell := if named then c.coveredBy p else c

/-- The cell as what decides it fills it. -/
def filledBy (c : Cell) : Option Permission → Cell
  | none => c
  | some p =>
      { c with
        state := stateBy p, permissionId := some p.id, reason := p.reason, fields := p.fields
        conditions := p.conditions }

variable (c : Cell) (p : Permission)

theorem coveredBy_place :
    (c.coveredBy p).action = c.action ∧ (c.coveredBy p).subject = c.subject := by
  unfold coveredBy
  split <;> exact ⟨rfl, rfl⟩

theorem after_place (named : Bool) :
    (c.after named p).action = c.action ∧ (c.after named p).subject = c.subject := by
  cases named with
  | false => exact ⟨rfl, rfl⟩
  | true => exact c.coveredBy_place p

theorem filledBy_place (held : Option Permission) :
    (c.filledBy held).action = c.action ∧ (c.filledBy held).subject = c.subject := by
  cases held <;> exact ⟨rfl, rfl⟩

/-- A permission that is taken into account twice fills the cell as if it were once. -/
theorem coveredBy_coveredBy : (c.coveredBy p).coveredBy p = c.coveredBy p := by
  unfold coveredBy
  by_cases hforbidden : c.state = .forbidden
  · rw [if_pos hforbidden, if_pos hforbidden]
  · rw [if_neg hforbidden]
    split <;> rfl

theorem after_after (b named : Bool) : (c.after b p).after named p = c.after (b || named) p := by
  cases b <;> cases named <;> first | rfl | exact c.coveredBy_coveredBy p

theorem stateBy_eq_forbidden_iff : stateBy p = .forbidden ↔ p.forbids = true := by
  unfold stateBy Permission.forbids
  split
  · next h => exact ⟨fun _ => h, fun _ => rfl⟩
  · next h => split <;> exact ⟨nofun, fun hforbids => absurd hforbids h⟩

theorem isGranted_filledBy_some : (c.filledBy (some p)).isGranted = !p.forbids := by
  show (stateBy p == .granted || stateBy p == .conditional) = !p.forbids
  have hforbidden := stateBy_eq_forbidden_iff p
  cases hstate : stateBy p with
  | uncovered =>
      unfold stateBy at hstate
      split at hstate
      · cases hstate
      · split at hstate <;> cases hstate
  | forbidden =>
      rw [hforbidden.mp hstate]
      rfl
  | granted =>
      rw [Bool.eq_false_iff.mpr fun h => nomatch hstate.symm.trans (hforbidden.mpr h)]
      rfl
  | conditional =>
      rw [Bool.eq_false_iff.mpr fun h => nomatch hstate.symm.trans (hforbidden.mpr h)]
      rfl

/-- Over what a grant has filled, a permission writes itself. -/
theorem coveredBy_filledBy {held : Option Permission} (hfresh : c.state = .uncovered)
    (hheld : ∀ g, held = some g → g.forbids = false) :
    (c.filledBy held).coveredBy p = c.filledBy (some p) := by
  have hopen : (c.filledBy held).state ≠ .forbidden := by
    cases held with
    | none =>
        show c.state ≠ .forbidden
        rw [hfresh]
        exact nofun
    | some g =>
        intro h
        have hforbids := (stateBy_eq_forbidden_iff g).mp h
        rw [hheld g rfl] at hforbids
        cases hforbids
  unfold coveredBy
  rw [if_neg hopen]
  cases held <;> rfl

/-- What a forbid has filled stays. -/
theorem foldl_after_of_forbidden {named : Permission → Bool} (hforbids : p.forbids = true)
    (ps : List Permission) :
    ps.foldl (fun c p => c.after (named p) p) (c.filledBy (some p)) = c.filledBy (some p) := by
  induction ps with
  | nil => rfl
  | cons q rest ih =>
      have hforbidden : (c.filledBy (some p)).state = .forbidden :=
        (stateBy_eq_forbidden_iff p).mpr hforbids
      have hkept : (c.filledBy (some p)).after (named q) q = c.filledBy (some p) := by
        unfold after coveredBy
        rw [if_pos hforbidden, ite_self]
      rw [List.foldl_cons, hkept, ih]

/-- Filling a cell permission by permission comes to what their scan settles on. -/
theorem foldl_after {named : Permission → Bool} {held : Option Permission}
    (hfresh : c.state = .uncovered) (hheld : ∀ g, held = some g → g.forbids = false)
    (ps : List Permission) :
    ps.foldl (fun c p => c.after (named p) p) (c.filledBy held) =
      c.filledBy (settle Permission.forbids named held ps).2 := by
  -- The grant in hand is what the cell shows so far, so it is left general.
  induction ps generalizing held with
  | nil => rfl
  | cons p rest ih =>
      rw [List.foldl_cons, settle]
      cases hnamed : named p with
      | false =>
          show rest.foldl _ (c.filledBy held) = _
          rw [ih hheld]
          rfl
      | true =>
          rw [after, if_pos rfl, c.coveredBy_filledBy p hfresh hheld, if_pos rfl]
          cases hforbids : p.forbids with
          | true => rw [c.foldl_after_of_forbidden p hforbids, if_pos rfl]
          | false =>
              rw [if_neg Bool.false_ne_true]
              refine ih fun g hg => ?_
              cases hg
              exact hforbids

end Cell

/-! ## The grid -/

namespace Matrix

/-- The grid after a permission that names some of its places. -/
def coverWhere (p : Permission) (named : Action → Subject → Bool) (cells : List Cell) : List Cell :=
  cells.map fun c => c.after (named c.action c.subject) p

variable {p : Permission} {cells : List Cell}

theorem coverWhere_none : coverWhere p (fun _ _ => false) cells = cells := List.map_id cells

theorem coverWhere_coverWhere (first second : Action → Subject → Bool) :
    coverWhere p second (coverWhere p first cells) =
      coverWhere p (fun action subject => first action subject || second action subject) cells := by
  unfold coverWhere
  rw [List.map_map]
  refine List.map_congr_left fun c _ => ?_
  have hplace := c.after_place p (first c.action c.subject)
  rw [Function.comp_apply, hplace.1, hplace.2, c.after_after]

theorem cover_eq (subject : Subject) (action : Action) :
    cover p subject cells action = coverWhere p (fun a s => a == action && s == subject) cells := by
  unfold cover coverWhere Cell.after
  simp only [Bool.and_eq_true, beq_iff_eq]

/-- One action after the other, the cells of these actions in the row of a subject are covered. -/
theorem foldl_cover (subject : Subject) (actions : List Action) :
    actions.foldl (cover p subject) cells =
      coverWhere p (fun a s => actions.contains a && s == subject) cells := by
  induction actions generalizing cells with
  | nil => exact coverWhere_none.symm
  | cons action rest ih =>
      rw [List.foldl_cons, cover_eq, ih, coverWhere_coverWhere]
      congr 1
      funext a s
      rw [List.contains_cons, Bool.and_or_distrib_right]

theorem contains_filterMap_ofName (vs : List Value) (a : Action) :
    (vs.filterMap fun v => v.text?.bind Action.ofName?).contains a =
      (vs.filterMap Value.text?).contains a.name := by
  rw [Bool.eq_iff_iff, List.contains_iff_mem, List.contains_iff_mem, List.mem_filterMap,
    List.mem_filterMap]
  refine exists_congr fun v => and_congr_right fun _ => ?_
  cases v.text? with
  | none => simp
  | some name =>
      rw [Option.bind_some, Option.some.injEq, Action.ofName?_eq_some_iff, eq_comm]

theorem contains_words_of_none {v : Value} (h : v.text?.bind Subject.ofName? = none)
    (rest : List Value) (s : Subject) :
    ((v :: rest).filterMap Value.text?).contains s.name =
      (rest.filterMap Value.text?).contains s.name := by
  rw [List.filterMap_cons]
  cases hv : v.text? with
  | none => rfl
  | some name =>
      have hne : s.name ≠ name := by
        intro heq
        rw [hv, Option.bind_some, Subject.ofName?_eq_some_iff.mpr heq] at h
        cases h
      dsimp only
      rw [List.contains_cons, beq_false_of_ne hne, Bool.false_or]

theorem contains_words_of_some {v : Value} {subject : Subject}
    (h : v.text?.bind Subject.ofName? = some subject) (rest : List Value) (s : Subject) :
    ((v :: rest).filterMap Value.text?).contains s.name =
      (s == subject || (rest.filterMap Value.text?).contains s.name) := by
  obtain ⟨name, hname, hof⟩ := Option.bind_eq_some_iff.mp h
  have hrow : (s == subject) = (s.name == name) := by
    rw [Bool.eq_iff_iff, beq_iff_eq, beq_iff_eq, ← Subject.ofName?_eq_some_iff, hof, Option.some.injEq,
      eq_comm]
  rw [List.filterMap_cons, hname, hrow, List.contains_cons]

/-- Row after row, the cells are covered that the permission names. -/
theorem coverSubjects_eq (subjects : List Value) :
    coverSubjects p subjects cells =
      if subjects.all Value.isHashable &&
          (p.action.items?.isSome || !Permission.namesSubject subjects) then
        .ok (coverWhere p (fun a s => p.action.words.contains a.name &&
          (subjects.filterMap Value.text?).contains s.name) cells)
      else .error .wrongKind := by
  induction subjects generalizing cells with
  | nil =>
      have hnone : (fun (a : Action) (s : Subject) => p.action.words.contains a.name &&
          ([].filterMap Value.text?).contains s.name) = fun _ _ => false := by
        funext a s
        exact Bool.and_false _
      rw [hnone, coverWhere_none]
      simp [coverSubjects, Permission.namesSubject]
  | cons v rest ih =>
      rw [coverSubjects]
      cases hhashable : v.isHashable with
      | false => simp [hhashable]
      | true =>
          rw [if_neg (by simp), List.all_cons, hhashable, Bool.true_and]
          cases hsubject : v.text?.bind Subject.ofName? with
          | none =>
              have hnames : Permission.namesSubject (v :: rest) = Permission.namesSubject rest := by
                simp [Permission.namesSubject, hsubject]
              simp only [contains_words_of_none hsubject, hnames]
              exact ih
          | some subject =>
              have hnames : Permission.namesSubject (v :: rest) = true := by
                simp [Permission.namesSubject, hsubject]
              simp only [contains_words_of_some hsubject, hnames, Bool.not_true, Bool.or_false]
              -- Only here are the actions gone through.
              unfold Value.items
              cases hactions : p.action.items? with
              | none =>
                  rw [Option.isSome_none, Bool.and_false]
                  rfl
              | some actions =>
                  show coverSubjects p rest (List.foldl _ cells _) = _
                  rw [ih, foldl_cover, coverWhere_coverWhere]
                  simp only [hactions, Option.isSome_some, Bool.true_or, Bool.and_true,
                    Value.words, Option.getD_some, contains_filterMap_ofName,
                    ← Bool.and_or_distrib_left]

/-- Each cell goes by itself through the permissions, and is covered by those that name it. If one of
them cannot be gone through, there are no cells. -/
theorem coverAll_eq (ps : List Permission) :
    coverAll ps cells =
      if ps.all Permission.isListed then
        .ok (cells.map fun c => ps.foldl (fun d p => d.after (p.names c.action c.subject) p) c)
      else .error .wrongKind := by
  induction ps generalizing cells with
  | nil =>
      rw [coverAll]
      exact congrArg Except.ok (List.map_id cells).symm
  | cons p rest ih =>
      rw [coverAll, List.all_cons]
      unfold Value.items
      cases hsubjects : p.subject.items? with
      | none =>
          have hlisted : p.isListed = false := by rw [Permission.isListed, hsubjects]
          rw [hlisted]
          rfl
      | some subjects =>
          have hnames : (fun (a : Action) (s : Subject) => p.action.words.contains a.name &&
              (subjects.filterMap Value.text?).contains s.name) = fun a s => p.names a s := by
            funext a s
            rw [Permission.names, Value.words, Value.words, hsubjects, Option.getD_some]
          show (coverSubjects p subjects cells >>= coverAll rest) = _
          rw [coverSubjects_eq, hnames]
          have hlisted : p.isListed = (subjects.all Value.isHashable &&
              (p.action.items?.isSome || !Permission.namesSubject subjects)) := by
            rw [Permission.isListed, hsubjects]
          rw [← hlisted]
          cases p.isListed with
          | false => rfl
          | true =>
              show coverAll rest (coverWhere p (fun a s => p.names a s) cells) = _
              rw [ih, coverWhere, List.map_map, Bool.true_and]
              congr 2
              refine List.map_congr_left fun c _ => ?_
              have hplace := c.after_place p (p.names c.action c.subject)
              rw [Function.comp_apply, hplace.1, hplace.2, List.foldl_cons]

theorem mem_blank {c : Cell} : c ∈ blank ↔ c = { action := c.action, subject := c.subject } := by
  unfold blank
  rw [List.mem_flatMap]
  constructor
  · rintro ⟨s, -, hc⟩
    obtain ⟨a, -, rfl⟩ := List.mem_map.mp hc
    rfl
  · intro hc
    exact ⟨c.subject, Subject.mem_all _, List.mem_map.mpr ⟨c.action, Action.mem_all _, hc.symm⟩⟩

/-- The cell of an action and a subject is filled by what the scan of the role's permissions that
name them settles on. -/
theorem ofRole_eq {r : Role} (hlisted : ∀ p ∈ r.permissions, p.isListed = true) :
    ofRole r = .ok ⟨r, blank.map fun c =>
      c.filledBy (settle Permission.forbids (Permission.names c.action c.subject) none
        r.permissions).2⟩ := by
  unfold ofRole
  rw [coverAll_eq, if_pos (List.all_eq_true.mpr hlisted)]
  have hfilled : (blank.map fun c =>
      r.permissions.foldl (fun d p => d.after (p.names c.action c.subject) p) c) =
      blank.map fun c => c.filledBy (settle Permission.forbids
        (Permission.names c.action c.subject) none r.permissions).2 := by
    refine List.map_congr_left fun c hc => ?_
    have hfresh : c.state = .uncovered := by rw [mem_blank.mp hc]
    exact @Cell.foldl_after c _ none hfresh nofun r.permissions
  rw [hfilled]
  rfl

theorem find?_blank (a : Action) (s : Subject) :
    blank.find? (fun c => c.action.name == a.name && c.subject == s) =
      some { action := a, subject := s } := by
  cases a <;> cases s <;> rfl

theorem cell_ofRole {r : Role} (hlisted : ∀ p ∈ r.permissions, p.isListed = true) {m : Matrix}
    (hm : ofRole r = .ok m) (a : Action) (s : Subject) :
    m.cell a.name s.name =
      .ok (({ action := a, subject := s } : Cell).filledBy
        (settle Permission.forbids (Permission.names a s) none r.permissions).2) := by
  rw [ofRole_eq hlisted] at hm
  cases hm
  unfold cell
  rw [Subject.ofName?_name]
  dsimp only
  rw [List.find?_map]
  -- Filling leaves a cell in its place, so it is found there.
  have hplaces : ((fun c : Cell => c.action.name == a.name && c.subject == s) ∘ fun c : Cell =>
      c.filledBy (settle Permission.forbids (Permission.names c.action c.subject) none
        r.permissions).2) =
      fun c => c.action.name == a.name && c.subject == s := by
    funext c
    have hplace := c.filledBy_place (settle Permission.forbids
      (Permission.names c.action c.subject) none r.permissions).2
    rw [Function.comp_apply, hplace.1, hplace.2]
  rw [hplaces, find?_blank]
  rfl

end Matrix

/-! ## The rules of a literal role -/

namespace Permission

/-- A rule answers a check of an action on a subject by name as a permission says it does. -/
structure Enforced (action : Action) (subject : Subject) (p : Permission) (r : Rule) : Prop where
  applies : r.applies (.text action.name) (.of (.text subject.name)) .null = p.names action subject
  inverted : r.inverted = p.forbids
  permissionId : r.permissionId = .uuid p.id
  reason : r.reason = p.reason

end Permission

/-- Conditions that can be read for a user, and lead nowhere at no place. -/
def Rule.Resolves (user : Value) (r : Rule) : Prop :=
  ∃ v, Conditions.resolveValue user r.conditions = .ok v ∧ v.hasUnresolved = false

theorem Value.isAmong_texts (name : String) (names : List String) :
    (text name).isAmong (names.map text) = names.contains name := by
  induction names with
  | nil => rfl
  | cons first rest ih =>
      have hequal : (text first).equal (text name) = (name == first) := by
        rw [Value.equal, Bool.beq_comm]
      rw [List.contains_cons, ← ih, ← hequal]
      rfl

namespace Rule

variable {p : Permission} {r : Rule} {user : Value}

/-- A part of a permission in shape, as members of its rule, is its words. -/
theorem members_ofTexts {names : List String} {vs : List Value}
    (h : members (.ofTexts names) = .ok vs) : vs = (Value.ofTexts names).words.map .text := by
  rw [Value.words_ofTexts]
  cases h
  rfl

/-- The rule of a literal permission covers what the permission names. -/
theorem covers_iff_names (hp : p.Literal) (hstates : States (.uuid p.id) p.toTerms r) (a : Action)
    (s : Subject) :
    (r.coversAction (.text a.name) = true ∧ r.coversSubject (.text s.name) = true ∧
      r.coversField .null = true) ↔ p.names a s = true := by
  obtain ⟨as, has⟩ := hp.shaped.action
  obtain ⟨ss, hss⟩ := hp.shaped.subject
  have hactions : r.actions = p.action.words.map .text := by
    have hmembers := hstates.actions
    rw [has] at hmembers ⊢
    exact members_ofTexts hmembers
  have hsubjects : r.subjects = p.subject.words.map .text := by
    have hmembers := hstates.subjects
    rw [hss] at hmembers ⊢
    exact members_ofTexts hmembers
  have hfield : r.coversField .null = true := by
    cases hinverted : r.inverted with
    | false => exact coversField_null hinverted
    | true =>
        rw [hstates.inverted] at hinverted
        obtain ⟨fields, hdecode, hlimits⟩ := hstates.fields
        rw [(hp.plain hinverted).2] at hdecode
        cases hdecode
        unfold coversField
        rw [← Except.ok.inj hlimits]
  unfold coversAction coversSubject Permission.names
  rw [hactions, hsubjects, hfield]
  simp only [Value.isAmong_texts, Bool.or_eq_true, Bool.and_eq_true, List.contains_iff_mem,
    hp.unmanaged, hp.particular, or_false, and_true]

/-- The conditions of a permission in shape are no JSON text, so its rule has them as they are. -/
theorem hasConditions_of_shaped (hp : p.toTerms.Shaped)
    (hstates : States (.uuid p.id) p.toTerms r) : r.hasConditions = p.conditions.isTruthy := by
  obtain ⟨es, hes⟩ := hp.conditions
  obtain ⟨conditions, hdecode, hhas, -⟩ := hstates.hasConditions_eq
  rw [hhas]
  cases es <;>
  · rw [hes] at hdecode ⊢
    cases hdecode
    rfl

/-- By name, conditions of a literal permission that can be read do not stand in the way. -/
theorem conditionsHold_of_literal (hp : p.Literal) (hstates : States (.uuid p.id) p.toTerms r)
    (hresolves : r.Resolves user) (hconditions : (r.forUser user).hasConditions = true) :
    (r.forUser user).conditionsHold .null = .ok true := by
  obtain ⟨v, hv, hreadable⟩ := hresolves
  have hhas : r.hasConditions = true := by
    by_contra hnone
    unfold forUser at hconditions
    rw [if_neg hnone] at hconditions
    exact hnone hconditions
  have hgrant : r.inverted = false := by
    rw [hstates.inverted, Bool.eq_false_iff]
    intro hforbids
    rw [hasConditions_of_shaped hp.shaped hstates, (hp.plain hforbids).1] at hhas
    cases hhas
  have hsatisfiable : (r.forUser user).isSatisfiable = true := by
    unfold forUser isSatisfiable
    rw [if_pos hhas, Conditions.resolve, hv]
    dsimp only
    rw [hreadable]
    rfl
  unfold conditionsHold
  rw [forUser_inverted, hgrant, hsatisfiable]
  rfl

/-- For someone for whom its conditions can be read, the rule of a literal permission answers checks
by name as the permission says. -/
theorem enforced_of_literal (hp : p.Literal) (hstates : States (.uuid p.id) p.toTerms r)
    (hresolves : r.Resolves user) (a : Action) (s : Subject) :
    p.Enforced a s (r.forUser user) := by
  refine ⟨?_, ?_, ?_, ?_⟩
  · rw [Bool.eq_iff_iff, applies_iff, ← covers_iff_names hp hstates a s, forUser_coversAction,
      forUser_coversSubject, forUser_coversField]
    exact and_iff_left (conditionsHold_of_literal hp hstates hresolves)
  · rw [forUser_inverted, hstates.inverted]
    rfl
  · rw [forUser_permissionId, hstates.permissionId]
  · rw [forUser_reason, hstates.reason]

theorem forall₂_enforced {ps : List Permission} {rules : List Rule}
    (hstates : List.Forall₂ (fun p r => States (.uuid p.id) p.toTerms r) ps rules)
    (hliteral : ∀ p ∈ ps, p.Literal) (hresolves : ∀ r ∈ rules, r.Resolves user) (a : Action)
    (s : Subject) : List.Forall₂ (Permission.Enforced a s) ps (rules.map (forUser user)) := by
  induction hstates with
  | nil => exact .nil
  | cons hfirst _ ih =>
      rw [List.forall_mem_cons] at hliteral hresolves
      exact .cons (enforced_of_literal hliteral.1 hfirst hresolves.1 a s)
        (ih hliteral.2 hresolves.2)

end Rule

/-- Two lists that go together item by item settle on items that go together. -/
theorem settle_related {α β : Type} {R : α → β → Prop} {inverted applies : α → Bool}
    {inverted' applies' : β → Bool} (hinverted : ∀ a b, R a b → inverted' b = inverted a)
    (happlies : ∀ a b, R a b → applies' b = applies a) {xs : List α} {ys : List β}
    (h : List.Forall₂ R xs ys) {held : Option α} {held' : Option β}
    (hheld : Option.Rel R held held') :
    Option.Rel R (settle inverted applies held xs).2 (settle inverted' applies' held' ys).2 := by
  induction h generalizing held held' with
  | nil => exact hheld
  | cons hab _ ih =>
      rw [settle, settle, hinverted _ _ hab, happlies _ _ hab]
      split
      · split
        · exact .some hab
        · exact ih (.some hab)
      · exact ih hheld

/-! ## The matrix and the checks -/

/-- A cell shows what checks by name answer for an account: whether the action is allowed, and by
which permission and for which reason. -/
structure Cell.Agrees (c : Cell) (cache : RuleCache) (account : Account) : Prop where
  permits : cache.permits account (.text c.action.name) (.text c.subject.name) .null = c.isGranted
  decides : ∃ ability, cache.compile account = some ability ∧
    (ability.decide (.text c.action.name) (.text c.subject.name) .null).rule.map Rule.permissionId =
        c.permissionId.map .uuid ∧
      (ability.decide (.text c.action.name) (.text c.subject.name) .null).reason = c.reason

/-- A cell agrees with a decision by the rule of the permission that fills it. -/
theorem Cell.agrees_of_related {cache : RuleCache} {account : Account} {ability : Ability}
    {a : Action} {s : Subject} {filling : Option Permission} {d : Decision}
    (hability : cache.compile account = some ability)
    (hdecide : ability.decide (.text a.name) (.text s.name) .null = d)
    (hallowed : d.allowed = d.rule.any fun r => !r.inverted)
    (hrelated : Option.Rel (Permission.Enforced a s) filling d.rule) :
    (({ action := a, subject := s } : Cell).filledBy filling).Agrees cache account := by
  have hpermits : cache.permits account (.text a.name) (.text s.name) .null = d.allowed := by
    rw [← hdecide]
    unfold RuleCache.compile at hability
    unfold RuleCache.permits RuleSource.permits
    rw [hability]
    rfl
  obtain ⟨allowed, rule⟩ := d
  cases hrelated with
  | none =>
      refine ⟨hpermits.trans hallowed, ability, hability, ?_, ?_⟩
      · exact congrArg (fun d => d.rule.map Rule.permissionId) hdecide
      · exact congrArg Decision.reason hdecide
  | @some p r h =>
      refine ⟨?_, ability, hability, ?_, ?_⟩
      · rw [isGranted_filledBy_some, ← h.inverted]
        exact hpermits.trans hallowed
      · exact (congrArg (fun d => d.rule.map Rule.permissionId) hdecide).trans
          (congrArg some h.permissionId)
      · exact (congrArg Decision.reason hdecide).trans h.reason

namespace Matrix

theorem forRole_ok {id : Uuid} {w w' : World} {m : Matrix} (h : forRole id w = (.ok m, w')) :
    ∃ r, w.db.role? id = some r ∧ ofRole r = .ok m := by
  obtain ⟨found, w₁, hrole, h⟩ := Work.bind_ok.mp h
  rw [← (Store.role_answers id).transact.result hrole]
  cases found with
  | none => exact absurd h Work.refuse_ok
  | some r => exact ⟨r, rfl, (Work.ofFault_ok.mp h).1⟩

/-- The matrix of a role that is there is made, if no step fails. -/
theorem forRole_apply {id : Uuid} {w : World} (hsound : w.faults = FaultPlan.none)
    (hrole : w.db.hasRole id = true)
    (hlisted : ∀ p ∈ w.db.permissionsOf id, p.isListed = true) :
    ∃ m w', forRole id w = (.ok m, w') := by
  obtain ⟨r, hr⟩ := Database.exists_role? hrole
  obtain ⟨w₁, hread, hsound₁⟩ := Store.role_apply (w := { w with steps := w.steps + 1 }) hsound id
  rw [← (Database.role?_some hr).2.2] at hlisted
  obtain ⟨m, hm⟩ : ∃ m, ofRole r = .ok m := ⟨_, ofRole_eq hlisted⟩
  refine ⟨m, { w₁ with steps := w₁.steps + 1 }, ?_⟩
  unfold forRole
  rw [Work.bind_apply, Work.transact_apply hsound hread hsound₁]
  dsimp only
  rw [hr]
  exact Work.ofFault_ok.mpr ⟨hm, rfl⟩

/-- For a role whose permissions are literal and whose rules are in the cache, the matrix is made,
and every cell of it agrees with the checks of every account that holds the role and for which the
conditions of the rules can be read. -/
theorem forRole_agrees {w : World} {id : Uuid} {rules : List Rule} {account : Account}
    {held : HeldRole} (hrole : w.db.hasRole id = true)
    (hliteral : ∀ p ∈ w.db.permissionsOf id, p.Literal)
    (hrules : Rule.ofPermissions (w.db.permissionsOf id) = .ok rules)
    (hcached : w.cache.get? id = some rules) (hheld : account.role = some held)
    (hid : held.id = .uuid id) (hresolves : ∀ r ∈ rules, r.Resolves account.toValue) :
    (w.faults = FaultPlan.none → ∃ m w', forRole id w = (.ok m, w')) ∧
      ∀ m w', forRole id w = (.ok m, w') → ∀ (a : Action) (s : Subject), ∃ c,
        m.cell a.name s.name = .ok c ∧ c.action = a ∧ c.subject = s ∧ c.Agrees w.cache account := by
  have hlisted : ∀ p ∈ w.db.permissionsOf id, p.isListed = true :=
    fun p hp => Permission.isListed_of_shaped (hliteral p hp).shaped
  refine ⟨fun hsound => forRole_apply hsound hrole hlisted, fun m w' hrun a s => ?_⟩
  obtain ⟨r, hr, hm⟩ := forRole_ok hrun
  obtain ⟨-, -, hpermissions⟩ := Database.role?_some hr
  rw [← hpermissions] at hliteral hrules hlisted
  have henforced : List.Forall₂ (Permission.Enforced a s) r.permissions
      (Ability.ofRules account.toValue rules).rules := by
    exact Rule.forall₂_enforced (Rule.forall₂_of_ofPermissions hrules) hliteral hresolves a s
  have hplace := Cell.filledBy_place { action := a, subject := s }
    (settle Permission.forbids (Permission.names a s) none r.permissions).2
  refine ⟨_, cell_ofRole hlisted hm a s, hplace.1, hplace.2, ?_⟩
  exact Cell.agrees_of_related (RuleCache.compile_eq hheld hid hcached) rfl (settle_fst nofun _)
    (settle_related (fun _ _ h => h.inverted) (fun _ _ h => h.applies) henforced .none)

end Matrix

/-! ## A role of readers

The readers of the accounts of their own team, who may update none, and a reader of a team. -/

def Permission.notToUpdateAccounts : Permission :=
  { toReadAccounts .null with
    id := Uuid.ofNat 4
    action := .ofTexts ["update", "delete"]
    inverted := .bool true
    reason := .text "Accounts are kept elsewhere" }

def Rule.notToUpdateAccounts : Rule :=
  { toReadAccounts .null with
    actions := [.text "update", .text "delete"]
    inverted := true
    reason := .text "Accounts are kept elsewhere"
    permissionId := .uuid (Uuid.ofNat 4) }

def Account.ofTeam : Account := { teamless with attributes := .map [("team", .text "blue")] }

def World.ofReaders : World :=
  { sample FaultPlan.none with
    db := ⟨[⟨Uuid.ofNat 2, "reader", none, none⟩],
      [.toReadAccounts .ownTeam, .notToUpdateAccounts], [], []⟩
    cache := ⟨true, [(Uuid.ofNat 2, [.toReadAccounts .ownTeam, .notToUpdateAccounts])]⟩ }

theorem World.ofReaders_literal :
    ∀ p ∈ World.ofReaders.db.permissionsOf (Uuid.ofNat 2), p.Literal := by
  have hrows : World.ofReaders.db.permissionsOf (Uuid.ofNat 2) =
      [.toReadAccounts .ownTeam, .notToUpdateAccounts] := rfl
  rw [hrows, List.forall_mem_cons, List.forall_mem_cons]
  refine ⟨⟨⟨⟨["read"], rfl⟩, ⟨["account"], rfl⟩, ⟨none, rfl⟩, ⟨some _, rfl⟩⟩, by decide +kernel,
    by decide +kernel, nofun⟩,
    ⟨⟨⟨["update", "delete"], rfl⟩, ⟨["account"], rfl⟩, ⟨none, rfl⟩, ⟨none, rfl⟩⟩,
    by decide +kernel, by decide +kernel, fun _ => ⟨rfl, rfl⟩⟩, nofun⟩

/-- The matrix of the readers shows what a reader of a team may do. -/
theorem Matrix.forRole_agrees_readers :
    ∃ m w', forRole (Uuid.ofNat 2) World.ofReaders = (.ok m, w') ∧
      ∀ (a : Action) (s : Subject), ∃ c, m.cell a.name s.name = .ok c ∧ c.action = a ∧
        c.subject = s ∧ c.Agrees World.ofReaders.cache .ofTeam := by
  obtain ⟨hmade, hagrees⟩ := @forRole_agrees World.ofReaders (Uuid.ofNat 2)
    [.toReadAccounts .ownTeam, .notToUpdateAccounts] .ofTeam .reader (by decide +kernel)
    World.ofReaders_literal rfl rfl rfl rfl
    (List.forall_mem_cons.mpr ⟨⟨.map [("team", .text "blue")], by rfl, rfl⟩,
      List.forall_mem_singleton.mpr ⟨.null, rfl, rfl⟩⟩)
  obtain ⟨m, w', hrun⟩ := hmade rfl
  exact ⟨m, w', hrun, hagrees m w' hrun⟩

end Warrant
