import Mathlib.Logic.Basic
import Warrant.RuleCache

/-!
# How rules decide

The scan over the rules of an ability keeps a grant in its hand and may stop at
a forbid, so its course depends on the order of the rules. Its outcome can be
said without that course: the first forbid that applies decides against, and
without one the last grant that applies decides in favour. `settle_eq` is that
closed form, and everything else about decisions follows from it.

What a rule says for a user differs from the rule in its conditions alone, so
whether it covers a check is a matter of the cached rule.
-/

namespace Warrant

/-! ## The scan -/

section

variable {α : Type} {inverted applies : α → Bool}

/-- The first forbid that applies. -/
def firstForbid (inverted applies : α → Bool) (rs : List α) : Option α :=
  rs.find? fun r => applies r && inverted r

/-- The last rule that applies. -/
def lastApplied (applies : α → Bool) (rs : List α) : Option α := (rs.filter applies).getLast?

theorem firstForbid_append (xs ys : List α) :
    firstForbid inverted applies (xs ++ ys) =
      (firstForbid inverted applies xs).or (firstForbid inverted applies ys) :=
  List.find?_append

theorem firstForbid_cons (r : α) (rest : List α) :
    firstForbid inverted applies (r :: rest) =
      if applies r = true ∧ inverted r = true then some r
      else firstForbid inverted applies rest := by
  unfold firstForbid
  rw [List.find?_cons]
  cases applies r <;> cases inverted r <;> rfl

theorem firstForbid_eq_none_iff {rs : List α} :
    firstForbid inverted applies rs = none ↔ ∀ r ∈ rs, applies r = true → inverted r = false := by
  unfold firstForbid
  rw [List.find?_eq_none]
  simp only [Bool.and_eq_true, not_and, Bool.not_eq_true]

theorem lastApplied_append (xs ys : List α) :
    lastApplied applies (xs ++ ys) = (lastApplied applies ys).or (lastApplied applies xs) := by
  unfold lastApplied
  rw [List.filter_append, List.getLast?_append]

theorem lastApplied_cons (r : α) (rest : List α) :
    lastApplied applies (r :: rest) =
      (lastApplied applies rest).or (if applies r = true then some r else none) := by
  rw [← List.singleton_append, lastApplied_append]
  unfold lastApplied
  rw [List.filter_cons, List.filter_nil]
  cases applies r <;> rfl

theorem lastApplied_eq_none_iff {rs : List α} :
    lastApplied applies rs = none ↔ ∀ r ∈ rs, applies r = false := by
  unfold lastApplied
  rw [List.getLast?_eq_none_iff, List.filter_eq_nil_iff]
  simp only [Bool.not_eq_true]

/-- The outcome of the scan: the first forbid that applies, or else the last grant that does. -/
theorem settle_eq (granted : Option α) (rs : List α) :
    settle inverted applies granted rs =
      match firstForbid inverted applies rs with
      | some r => (false, some r)
      | none => (((lastApplied applies rs).or granted).isSome, (lastApplied applies rs).or granted) := by
  -- The grant in hand stands for the last one before these rules, so it is left general.
  induction rs generalizing granted with
  | nil => rfl
  | cons r rest ih =>
      rw [settle, firstForbid_cons, lastApplied_cons]
      by_cases happlies : applies r = true
      · by_cases hinverted : inverted r = true
        · rw [if_pos happlies, if_pos hinverted, if_pos ⟨happlies, hinverted⟩]
        · rw [if_pos happlies, if_neg hinverted, if_neg fun h => hinverted h.2, ih,
            if_pos happlies, Option.or_assoc, Option.some_or]
      · rw [if_neg happlies, if_neg fun h => happlies h.1, ih, if_neg happlies, Option.or_none]

/-- The answer of a scan is told by what decides it. -/
theorem settle_fst {held : Option α} (hheld : ∀ g, held = some g → inverted g = false)
    (rs : List α) :
    (settle inverted applies held rs).1 =
      (settle inverted applies held rs).2.any fun r => !inverted r := by
  induction rs generalizing held with
  | nil =>
      cases held with
      | none => rfl
      | some g =>
          show true = !inverted g
          rw [hheld g rfl]
          rfl
  | cons r rest ih =>
      rw [settle]
      split
      · split
        · next hinverted =>
            show false = !inverted r
            rw [hinverted]
            rfl
        · next hgrant =>
            refine ih fun g hg => ?_
            cases hg
            exact Bool.eq_false_iff.mpr hgrant
      · exact ih hheld

/-- A check is allowed if some rule applies and all that apply are grants. -/
theorem settle_allowed_iff {rs : List α} :
    (settle inverted applies none rs).1 = true ↔
      (∃ r ∈ rs, applies r = true) ∧ ∀ r ∈ rs, applies r = true → inverted r = false := by
  rw [settle_eq, ← firstForbid_eq_none_iff]
  cases hforbid : firstForbid inverted applies rs with
  | some r =>
      dsimp only
      simp only [Bool.false_eq_true, reduceCtorEq, and_false]
  | none =>
      dsimp only
      rw [Option.or_none, Option.isSome_iff_ne_none, ne_eq, lastApplied_eq_none_iff]
      simp only [not_forall, Bool.not_eq_false, exists_prop, and_true]

/-- What is allowed stays allowed where more grants and fewer forbids apply. -/
theorem settle_allowed_mono {applies' : α → Bool} {rs : List α}
    (hgrants : ∀ r ∈ rs, inverted r = false → applies r = true → applies' r = true)
    (hforbids : ∀ r ∈ rs, inverted r = true → applies' r = true → applies r = true)
    (h : (settle inverted applies none rs).1 = true) :
    (settle inverted applies' none rs).1 = true := by
  rw [settle_allowed_iff] at h ⊢
  obtain ⟨⟨g, hg, happlies⟩, hall⟩ := h
  refine ⟨⟨g, hg, hgrants g hg (hall g hg happlies) happlies⟩, fun r hr happlies' => ?_⟩
  cases hinverted : inverted r with
  | false => rfl
  | true =>
      have hfree := hall r hr (hforbids r hr hinverted happlies')
      rw [hinverted] at hfree
      cases hfree

/-- A grant among the rules matters to the outcome exactly if it applies, no forbid does, no later
rule does, and the outcome without it is not the same grant. -/
theorem settle_insert_iff {before after : List α} {g : α} (hgrant : inverted g = false) :
    settle inverted applies none (before ++ g :: after) =
        settle inverted applies none (before ++ after) ↔
      ¬ (applies g = true ∧
        (∀ r ∈ before ++ after, applies r = true → inverted r = false) ∧
        (∀ r ∈ after, applies r = false) ∧ lastApplied applies before ≠ some g) := by
  have hsame : firstForbid inverted applies (before ++ g :: after) =
      firstForbid inverted applies (before ++ after) := by
    rw [firstForbid_append, firstForbid_append, firstForbid_cons, hgrant,
      if_neg fun h => Bool.false_ne_true h.2]
  rw [settle_eq, settle_eq, hsame, ← firstForbid_eq_none_iff, ← lastApplied_eq_none_iff,
    Option.or_none, Option.or_none, lastApplied_append, lastApplied_append, lastApplied_cons]
  cases firstForbid inverted applies (before ++ after) with
  | some r => simp only [reduceCtorEq, false_and, and_false, not_false_eq_true]
  | none =>
      by_cases happlies : applies g = true
      · rw [if_pos happlies]
        cases lastApplied applies after with
        | some r => simp only [Option.some_or, reduceCtorEq, false_and, and_false, not_false_eq_true]
        | none =>
            simp only [Option.none_or, Option.some_or, happlies, true_and, ne_eq, not_not]
            constructor
            · intro h
              exact (Prod.mk.inj h).2.symm
            · intro h
              rw [h]
      · rw [if_neg happlies, Option.or_none]
        simp only [happlies, Bool.false_eq_true, false_and, not_false_eq_true]

end

/-! ## Rules for a user -/

namespace Rule

variable (user : Value) (r : Rule)

/-- What a rule says for a user differs in its conditions alone. -/
theorem forUser_eq : ∃ conditions, r.forUser user = { r with conditions } := by
  unfold forUser
  split
  · exact ⟨_, rfl⟩
  · exact ⟨r.conditions, rfl⟩

@[simp] theorem forUser_inverted : (r.forUser user).inverted = r.inverted := by
  obtain ⟨conditions, h⟩ := r.forUser_eq user
  rw [h]

@[simp] theorem forUser_permissionId : (r.forUser user).permissionId = r.permissionId := by
  obtain ⟨conditions, h⟩ := r.forUser_eq user
  rw [h]

@[simp] theorem forUser_reason : (r.forUser user).reason = r.reason := by
  obtain ⟨conditions, h⟩ := r.forUser_eq user
  rw [h]

@[simp] theorem forUser_coversAction (action : Value) :
    (r.forUser user).coversAction action = r.coversAction action := by
  obtain ⟨conditions, h⟩ := r.forUser_eq user
  rw [h]
  rfl

@[simp] theorem forUser_coversSubject (subject : Value) :
    (r.forUser user).coversSubject subject = r.coversSubject subject := by
  obtain ⟨conditions, h⟩ := r.forUser_eq user
  rw [h]
  rfl

@[simp] theorem forUser_coversField (field : Value) :
    (r.forUser user).coversField field = r.coversField field := by
  obtain ⟨conditions, h⟩ := r.forUser_eq user
  rw [h]
  rfl

/-- A rule applies to a check that it covers, if its conditions hold or it has none. -/
theorem applies_iff {r : Rule} {action field : Value} {target : Target} :
    r.applies action target field = true ↔
      (r.coversAction action = true ∧ r.coversSubject (.text target.subject) = true ∧
        r.coversField field = true) ∧
      (r.hasConditions = true → r.conditionsHold target.attributes = .ok true) := by
  unfold applies applies?
  split
  · next b hb =>
      split at hb
      · next hcovers =>
          simp only [Bool.and_eq_true] at hcovers
          split at hb
          · next hconditions =>
              rw [hb, Except.ok.injEq]
              exact ⟨fun h => ⟨⟨hcovers.1.1, hcovers.1.2, hcovers.2⟩, fun _ => h⟩,
                fun h => h.2 hconditions⟩
          · next hnone =>
              cases hb
              exact ⟨fun _ => ⟨⟨hcovers.1.1, hcovers.1.2, hcovers.2⟩, fun h => absurd h hnone⟩,
                fun _ => rfl⟩
      · next hcovers =>
          cases hb
          refine ⟨nofun, fun h => absurd ?_ hcovers⟩
          rw [h.1.1, h.1.2.1, h.1.2.2]
          rfl
  · next e he =>
      refine ⟨nofun, fun h => ?_⟩
      rw [h.1.1, h.1.2.1, h.1.2.2, Bool.and_self, Bool.and_self, if_pos rfl] at he
      split at he
      · next hconditions =>
          rw [h.2 hconditions] at he
          cases he
      · cases he

end Rule

/-- An ability allows what some rule applies to, if all that apply are grants. -/
theorem Ability.can_iff {a : Ability} {action subject field : Value} :
    a.can action subject field = true ↔
      (∃ r ∈ a.rules, r.applies action (.of subject) field = true) ∧
      ∀ r ∈ a.rules, r.applies action (.of subject) field = true → r.inverted = false :=
  settle_allowed_iff

/-- An account that holds a role of the cache has an ability: the rules of the role as they read
for the account. -/
theorem RuleCache.compile_eq {c : RuleCache} {account : Account} {held : HeldRole} {id : Uuid}
    {rules : List Rule} (hheld : account.role = some held) (hid : held.id = .uuid id)
    (hrules : c.get? id = some rules) :
    c.compile account = some (.ofRules account.toValue rules) := by
  have hsource : c.source held.id = some rules := by
    rw [hid]
    exact hrules
  unfold RuleCache.compile RuleSource.compile
  rw [hheld]
  dsimp only
  rw [hsource]
  rfl

theorem RuleSource.permits_eq_true_iff {rules : RuleSource} {account : Account}
    {action subject field : Value} :
    rules.permits account action subject field = true ↔
      ∃ ability, rules.compile account = some ability ∧
        ability.can action subject field = true := by
  unfold RuleSource.permits
  cases rules.compile account with
  | none => simp only [Bool.false_eq_true, reduceCtorEq, false_and, exists_false]
  | some ability => simp only [Option.some.injEq, exists_eq_left']

/-- What an account may do by the cache: some rule of its role, as it reads for the account,
applies, and all that apply are grants. -/
theorem RuleCache.permits_iff {c : RuleCache} {account : Account} {held : HeldRole} {id : Uuid}
    {rules : List Rule} {action subject field : Value} (hheld : account.role = some held)
    (hid : held.id = .uuid id) (hrules : c.get? id = some rules) :
    c.permits account action subject field = true ↔
      (∃ r ∈ rules, (r.forUser account.toValue).applies action (.of subject) field = true) ∧
      ∀ r ∈ rules, (r.forUser account.toValue).applies action (.of subject) field = true →
        r.inverted = false := by
  have hcompile := compile_eq hheld hid hrules
  unfold compile at hcompile
  unfold permits
  simp only [RuleSource.permits_eq_true_iff, hcompile, Option.some.injEq, exists_eq_left',
    Ability.can_iff, Ability.ofRules, List.mem_map, exists_exists_and_eq_and, forall_exists_index,
    and_imp, forall_apply_eq_imp_iff₂, Rule.forUser_inverted]

end Warrant
