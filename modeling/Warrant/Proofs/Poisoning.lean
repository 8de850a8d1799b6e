import Warrant.Proofs.Degradation
import Warrant.Proofs.Matching
import Warrant.Proofs.Verdicts

/-!
# Poisoned conditions

Two recursions go over the conditions of a rule. One looks for an unresolved
value at any depth. The other holds them against a resource and ends as soon as
something does not fit, and on its way it walks paths, takes null for absence and
compares lengths, none of which the search knows about.

`Value.Occurs` says what it is to stand in a tree without any search, and the
search finds just that. Matching cannot say yes before it has been everywhere,
so it comes to what is unresolved or ends before. A rule with such conditions is
as good as none, whether it grants or forbids.
-/

namespace Warrant

/-! ## What stands in a tree -/

namespace Value

/-- A value stands in a tree of mappings and sequences, as the whole of it or at any depth. -/
inductive Occurs (v : Value) : Value → Prop where
  | whole : Occurs v v
  | entry {es : List (String × Value)} {k : String} {w : Value} (hmem : (k, w) ∈ es)
      (hbelow : Occurs v w) : Occurs v (.map es)
  | item {items : List Value} {w : Value} (hmem : w ∈ items) (hbelow : Occurs v w) :
      Occurs v (.list items)
  | component {items : List Value} {w : Value} (hmem : w ∈ items) (hbelow : Occurs v w) :
      Occurs v (.tuple items)

theorem itemsHaveUnresolved_of_mem {items : List Value} {w : Value} (hmem : w ∈ items)
    (h : w.hasUnresolved = true) : itemsHaveUnresolved items = true := by
  induction items with
  | nil => cases hmem
  | cons v rest ih =>
      rw [itemsHaveUnresolved, Bool.or_eq_true]
      rcases List.mem_cons.mp hmem with rfl | hmem
      · exact Or.inl h
      · exact Or.inr (ih hmem)

theorem entriesHaveUnresolved_of_mem {es : List (String × Value)} {k : String} {w : Value}
    (hmem : (k, w) ∈ es) (h : w.hasUnresolved = true) : entriesHaveUnresolved es = true := by
  induction es with
  | nil => cases hmem
  | cons entry rest ih =>
      rw [entriesHaveUnresolved, Bool.or_eq_true]
      rcases List.mem_cons.mp hmem with rfl | hmem
      · exact Or.inl h
      · exact Or.inr (ih hmem)

theorem hasUnresolved_of_occurs {v : Value} (h : Occurs .unresolved v) :
    v.hasUnresolved = true := by
  induction h with
  | whole => rfl
  | entry hmem _ ih => exact entriesHaveUnresolved_of_mem hmem ih
  | item hmem _ ih => exact itemsHaveUnresolved_of_mem hmem ih
  | component hmem _ ih => exact itemsHaveUnresolved_of_mem hmem ih

mutual

theorem occurs_of_hasUnresolved : ∀ v : Value, v.hasUnresolved = true → Occurs .unresolved v
  | .unresolved, _ => .whole
  | .map es, h => by
      obtain ⟨k, w, hmem, hbelow⟩ := occurs_of_entriesHaveUnresolved es h
      exact .entry hmem hbelow
  | .list items, h => by
      obtain ⟨w, hmem, hbelow⟩ := occurs_of_itemsHaveUnresolved items h
      exact .item hmem hbelow
  | .tuple items, h => by
      obtain ⟨w, hmem, hbelow⟩ := occurs_of_itemsHaveUnresolved items h
      exact .component hmem hbelow
  | .null, h | .bool _, h | .int _, h | .double _, h | .text _, h | .bytes _, h | .uuid _, h
  | .object .., h | .entity .., h | .resource .., h => by cases h

theorem occurs_of_itemsHaveUnresolved : ∀ items : List Value, itemsHaveUnresolved items = true →
    ∃ w ∈ items, Occurs .unresolved w
  | v :: rest, h => by
      rw [itemsHaveUnresolved, Bool.or_eq_true] at h
      rcases h with hfirst | hrest
      · exact ⟨v, List.mem_cons_self, occurs_of_hasUnresolved v hfirst⟩
      · obtain ⟨w, hmem, hbelow⟩ := occurs_of_itemsHaveUnresolved rest hrest
        exact ⟨w, List.mem_cons_of_mem v hmem, hbelow⟩

theorem occurs_of_entriesHaveUnresolved : ∀ es : List (String × Value),
    entriesHaveUnresolved es = true → ∃ k w, (k, w) ∈ es ∧ Occurs .unresolved w
  | (k, v) :: rest, h => by
      rw [entriesHaveUnresolved, Bool.or_eq_true] at h
      rcases h with hfirst | hrest
      · exact ⟨k, v, List.mem_cons_self, occurs_of_hasUnresolved v hfirst⟩
      · obtain ⟨k', w, hmem, hbelow⟩ := occurs_of_entriesHaveUnresolved rest hrest
        exact ⟨k', w, List.mem_cons_of_mem (k, v) hmem, hbelow⟩

end

/-- The search for an unresolved value finds one exactly where one stands. -/
theorem hasUnresolved_iff_occurs {v : Value} : v.hasUnresolved = true ↔ Occurs .unresolved v :=
  ⟨occurs_of_hasUnresolved v, hasUnresolved_of_occurs⟩

end Value

/-! ## No resource matches -/

namespace Conditions

/-- Conditions are found to have an unresolved value in them if and only if one stands there, at
whatever depth, and such conditions do not hold for any target: either that is the answer, or it is
never reached for a fault on the way. -/
theorem unresolved_never_holds (conditions : Value) :
    (conditions.hasUnresolved = true ↔ Value.Occurs .unresolved conditions) ∧
      (conditions.hasUnresolved = true → ∀ target : Value,
        holds conditions target = .ok false ∨ ∃ why, holds conditions target = .error why) := by
  refine ⟨Value.hasUnresolved_iff_occurs, fun hpoison target => ?_⟩
  cases houtcome : holds conditions target with
  | error why => exact Or.inr ⟨why, rfl⟩
  | ok held =>
      cases held with
      | false => exact Or.inl rfl
      | true =>
          rw [hasUnresolved_of_holds houtcome] at hpoison
          cases hpoison

end Conditions

/-! ### Tags of a team

The second half of a tag has come to nothing. One resource has all that is there to compare, and of
another not even the team can be read. -/

/-- A team, and a pair among tags of which one half is unresolved. -/
def Value.halfTagged : Value :=
  .map [("team", .text "blue"), ("tags", .list [.tuple [.text "kind", .unresolved], .text "old"])]

/-- Whatever might stand for the missing half, null included, the rest fits. -/
def Value.tagged (half : Value) : Value :=
  .map [("team", .text "blue"), ("tags", .list [.list [.text "kind", half], .text "old"])]

theorem Conditions.unresolved_never_holds_tags :
    Value.halfTagged.hasUnresolved = true ∧
      (∀ half : Value, holds .halfTagged (.tagged half) = .ok false ∨
        ∃ why, holds .halfTagged (.tagged half) = .error why) ∧
      holds .halfTagged (.tagged .null) = .ok false ∧
      (holds .halfTagged (.object "File" none [] ["team"]) = .ok false ∨
        ∃ why, holds .halfTagged (.object "File" none [] ["team"]) = .error why) ∧
      holds .halfTagged (.object "File" none [] ["team"]) = .error .attributeFailed := by
  obtain ⟨-, hnever⟩ := unresolved_never_holds .halfTagged
  exact ⟨rfl, fun half => hnever rfl (.tagged half), by cbv, hnever rfl _, by cbv⟩

/-! ## No rule to be reckoned with -/

/-- A rule whose conditions have something unresolved in them applies to no check, neither of a
resource nor by name. -/
theorem Rule.applies_of_poisoned {r : Rule} {action field : Value} {target : Target}
    (hconditions : r.hasConditions = true) (hpoison : r.isSatisfiable = false) :
    r.applies action target field = false := by
  rw [Bool.eq_false_iff]
  intro happlies
  have hmet := (applies_iff.mp happlies).2 hconditions
  unfold conditionsHold at hmet
  split at hmet
  · rw [hpoison, Bool.and_false] at hmet
    cases hmet
  · rw [isSatisfiable, Conditions.hasUnresolved_of_holds hmet] at hpoison
    cases hpoison

/-- Every decision is the same without such a rule, a grant or a forbid, wherever it stands. -/
theorem Ability.decide_without_poisoned {r : Rule} (hconditions : r.hasConditions = true)
    (hpoison : r.isSatisfiable = false) (before after : List Rule)
    (action subject field : Value) :
    (⟨before ++ r :: after⟩ : Ability).decide action subject field =
      (⟨before ++ after⟩ : Ability).decide action subject field :=
  decide_eq_iff.mpr
    (settle_drop (r := r) (Rule.applies_of_poisoned hconditions hpoison) before after)

end Warrant
