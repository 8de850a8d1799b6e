import Mathlib.Data.List.Forall2
import Warrant.Rule

/-!
# What a permission states

Reading a permission as a rule can fail in four places, and if none of them
fails each part of the rule comes from one part of the permission. Of a list of
permissions all are read or none, one rule for each and in their order.
-/

namespace Warrant

theorem Fault.bind_ok {ε α β : Type} {r : Except ε α} {next : α → Except ε β} {b : β} :
    (r >>= next) = .ok b ↔ ∃ a, r = .ok a ∧ next a = .ok b := by
  cases r with
  | error e => exact ⟨nofun, fun ⟨_, h, _⟩ => nomatch h⟩
  | ok a => exact ⟨fun h => ⟨a, rfl, h⟩, fun ⟨_, rfl, h⟩ => h⟩

theorem Fault.bind_error {ε α β : Type} {r : Except ε α} {next : α → Except ε β} {e : ε} :
    (r >>= next) = .error e ↔ r = .error e ∨ ∃ a, r = .ok a ∧ next a = .error e := by
  cases r with
  | error f =>
      constructor
      · intro h
        cases h
        exact Or.inl rfl
      · rintro (h | ⟨_, h, -⟩) <;> cases h
        rfl
  | ok a => exact ⟨fun h => Or.inr ⟨a, rfl, h⟩, fun h => h.elim nofun fun ⟨_, rfl, h⟩ => h⟩

theorem Fault.map_ok {ε α β : Type} {f : α → β} {r : Except ε α} {b : β} :
    r.map f = .ok b ↔ ∃ a, r = .ok a ∧ f a = b := by
  cases r with
  | error e => exact ⟨nofun, fun ⟨_, h, _⟩ => nomatch h⟩
  | ok a => exact ⟨fun h => ⟨a, rfl, Except.ok.inj h⟩, fun ⟨_, rfl, h⟩ => congrArg Except.ok h⟩

theorem Fault.toOption_map {ε α β : Type} (f : α → β) (x : Except ε α) :
    (x.map f).toOption = x.toOption.map f := by
  cases x <;> rfl

/-- To go through a list without a fault is to map it. -/
theorem Fault.mapM_eq_map {α β : Type} {f : α → Except Fault β} {g : α → β} {xs : List α}
    (h : ∀ x ∈ xs, f x = .ok (g x)) : xs.mapM f = .ok (xs.map g) := by
  induction xs with
  | nil => rfl
  | cons x rest ih =>
      rw [List.mapM_cons, h x List.mem_cons_self, ih fun y hy => h y (List.mem_cons_of_mem x hy)]
      rfl

/-- What stands on the right of two lists that are related item by item has its match on the left. -/
theorem exists_left_of_mem {α β : Type} {R : α → β → Prop} {xs : List α} {ys : List β}
    (h : List.Forall₂ R xs ys) {y : β} (hy : y ∈ ys) : ∃ x ∈ xs, R x y := by
  induction h with
  | nil => cases hy
  | @cons x _ _ _ hxy _ ih =>
      rcases List.mem_cons.mp hy with rfl | hy
      · exact ⟨x, List.mem_cons_self, hxy⟩
      · obtain ⟨x, hx, hxy⟩ := ih hy
        exact ⟨x, List.mem_cons_of_mem _ hx, hxy⟩

namespace Rule

/-- The parts of a rule, each read from its part of the permission. -/
structure States (id : Value) (t : Terms) (r : Rule) : Prop where
  actions : members t.action = .ok r.actions
  subjects : members t.subject = .ok r.subjects
  fields : ∃ fields, decode t.fields = .ok fields ∧ fieldMembers fields = .ok r.fields
  conditions : ∃ conditions, decode t.conditions = .ok conditions ∧
    r.conditions = if conditions.isTruthy then conditions else .null
  inverted : r.inverted = t.inverted.isTruthy
  reason : r.reason = t.reason
  permissionId : r.permissionId = id

theorem states_of_ofTerms {id : Value} {t : Terms} {r : Rule} (h : ofTerms id t = .ok r) :
    States id t r := by
  obtain ⟨fields, hfields, h⟩ := Fault.bind_ok.mp h
  obtain ⟨conditions, hconditions, h⟩ := Fault.bind_ok.mp h
  obtain ⟨actions, hactions, h⟩ := Fault.bind_ok.mp h
  obtain ⟨subjects, hsubjects, h⟩ := Fault.bind_ok.mp h
  obtain ⟨limits, hlimits, h⟩ := Fault.bind_ok.mp h
  cases h
  exact ⟨hactions, hsubjects, ⟨fields, hfields, hlimits⟩, ⟨conditions, hconditions, rfl⟩, rfl, rfl,
    rfl⟩

theorem forall₂_of_ofPermissions {ps : List Permission} {rules : List Rule}
    (h : ofPermissions ps = .ok rules) :
    List.Forall₂ (fun p r => States (.uuid p.id) p.toTerms r) ps rules := by
  induction ps generalizing rules with
  | nil =>
      cases h
      exact .nil
  | cons p rest ih =>
      obtain ⟨r, hr, h⟩ := Fault.bind_ok.mp h
      obtain ⟨more, hmore, h⟩ := Fault.bind_ok.mp h
      cases h
      exact .cons (states_of_ofTerms hr) (ih hmore)

/-- A list of permissions can be read if each of them can. -/
theorem ofPermissions_ok_iff {ps : List Permission} :
    (∃ rules, ofPermissions ps = .ok rules) ↔ ∀ p ∈ ps, ∃ r, ofPermission p = .ok r := by
  induction ps with
  | nil => exact ⟨fun _ => nofun, fun _ => ⟨[], rfl⟩⟩
  | cons p rest ih =>
      rw [List.forall_mem_cons, ← ih]
      simp only [ofPermissions, Fault.bind_ok]
      constructor
      · rintro ⟨_, r, hr, rules, hrules, -⟩
        exact ⟨⟨r, hr⟩, rules, hrules⟩
      · rintro ⟨⟨r, hr⟩, rules, hrules⟩
        exact ⟨_, r, hr, rules, hrules, rfl⟩

end Rule

end Warrant
