import Warrant.Conditions.Resolve
import Warrant.Entity
import Warrant.Proofs.Templates

/-!
# Templates on their way into a comparison

A condition that names an attribute of the account goes through two hands.
Resolving puts the attribute in the place of the template, somewhere in a tree;
matching then compares it with what the target has at the key. This file follows
one template through the first.

Resolving is all or nothing. If every attribute can be read, each entry of a
mapping is resolved by itself, and an entry at the top of the conditions ends up
in the comparison as it is. If one attribute cannot be read, wherever in the tree
its template stands, the tree as a whole is left as it was.
-/

namespace Warrant

/-- What a path in a template leads to from an account. -/
def Account.at? (account : Account) (path : String) : Except Fault Value :=
  account.toValue.walk (Template.fromUser path)

namespace Conditions

variable {user : Value}

/-! ## Resolving -/

theorem resolveItems_cons {v : Value} {rest items' : List Value} :
    resolveItems user (v :: rest) = .ok items' ↔
      ∃ w more, resolveValue user v = .ok w ∧ resolveItems user rest = .ok more ∧
        items' = w :: more := by
  rw [resolveItems]
  cases resolveValue user v with
  | error e => simp
  | ok w =>
      cases resolveItems user rest with
      | error e => simp [Except.map]
      | ok more => simp [Except.map, eq_comm]

theorem resolveEntries_cons {k : String} {v : Value} {rest es' : List (String × Value)} :
    resolveEntries user ((k, v) :: rest) = .ok es' ↔
      ∃ w more, resolveValue user v = .ok w ∧ resolveEntries user rest = .ok more ∧
        es' = (k, w) :: more := by
  rw [resolveEntries]
  cases resolveValue user v with
  | error e => simp
  | ok w =>
      cases resolveEntries user rest with
      | error e => simp [Except.map]
      | ok more => simp [Except.map, eq_comm]

/-- If all entries of a mapping can be resolved, each is there with its key. -/
theorem resolveEntries_mem {es es' : List (String × Value)} {k : String} {v : Value}
    (h : resolveEntries user es = .ok es') (hmem : (k, v) ∈ es) :
    ∃ w, resolveValue user v = .ok w ∧ (k, w) ∈ es' := by
  induction es generalizing es' with
  | nil => cases hmem
  | cons entry rest ih =>
      obtain ⟨key, value⟩ := entry
      obtain ⟨w, more, hvalue, hrest, rfl⟩ := resolveEntries_cons.mp h
      rcases List.mem_cons.mp hmem with heq | hmem
      · cases heq
        exact ⟨w, hvalue, List.mem_cons_self⟩
      · obtain ⟨w', hw', hmem'⟩ := ih hrest hmem
        exact ⟨w', hw', List.mem_cons_of_mem _ hmem'⟩

/-- Conditions that are a mapping are a mapping after resolving. -/
theorem resolveValue_map {es : List (String × Value)} {v : Value}
    (h : resolveValue user (.map es) = .ok v) :
    ∃ es', v = .map es' ∧ resolveEntries user es = .ok es' := by
  rw [resolveValue] at h
  cases hes : resolveEntries user es with
  | error e =>
      rw [hes] at h
      cases h
  | ok es' =>
      rw [hes] at h
      cases h
      exact ⟨es', rfl, rfl⟩

/-- Conditions that are a sequence are a list after resolving. -/
theorem resolveItems_map_list {items : List Value} {v : Value}
    (h : (resolveItems user items).map Value.list = .ok v) :
    ∃ items', v = .list items' ∧ resolveItems user items = .ok items' := by
  cases hitems : resolveItems user items with
  | error e =>
      rw [hitems] at h
      cases h
  | ok items' =>
      rw [hitems] at h
      cases h
      exact ⟨items', rfl, rfl⟩

theorem resolveItems_length {items items' : List Value}
    (h : resolveItems user items = .ok items') : items'.length = items.length := by
  induction items generalizing items' with
  | nil =>
      cases h
      rfl
  | cons v rest ih =>
      obtain ⟨w, more, -, hrest, rfl⟩ := resolveItems_cons.mp h
      rw [List.length_cons, List.length_cons, ih hrest]

/-- The keys of a mapping stay, in their order. -/
theorem resolveEntries_keys {es es' : List (String × Value)}
    (h : resolveEntries user es = .ok es') : es'.map Prod.fst = es.map Prod.fst := by
  induction es generalizing es' with
  | nil =>
      cases h
      rfl
  | cons entry rest ih =>
      obtain ⟨key, v⟩ := entry
      obtain ⟨w, more, -, hrest, rfl⟩ := resolveEntries_cons.mp h
      rw [List.map_cons, List.map_cons, ih hrest]

theorem resolveValue_whole {path : String} (hpath : path ≠ "") (hline : '\n' ∉ path.toList) :
    resolveValue user (.text (Template.whole path)) = resolvePath user path := by
  rw [resolveValue, Template.path?_whole hpath hline]

/-- Where a path leads from an account is what its template becomes. -/
theorem resolvePath_account {account : Account} {path : String} {v : Value}
    (h : account.at? path = .ok v) : resolvePath account.toValue path = .ok v := by
  unfold Account.at? at h
  unfold resolvePath
  rw [h]
  cases v <;> rfl

theorem resolvePath_error {account : Account} {path : String} {e : Fault}
    (h : account.at? path = .error e) : resolvePath account.toValue path = .error e := by
  unfold Account.at? at h
  unfold resolvePath
  rw [h]

mutual

/-- The paths of the templates in a tree that resolving replaces. -/
def wholePaths : Value → List String
  | .text s => (Template.path? s).toList
  | .map es => wholePathsOfEntries es
  | .list items => wholePathsOfItems items
  | .tuple items => wholePathsOfItems items
  | _ => []

/-- The paths of the templates in the items. -/
def wholePathsOfItems : List Value → List String
  | [] => []
  | v :: rest => wholePaths v ++ wholePathsOfItems rest

/-- The paths of the templates in the values of the entries. -/
def wholePathsOfEntries : List (String × Value) → List String
  | [] => []
  | (_, v) :: rest => wholePaths v ++ wholePathsOfEntries rest

end

mutual

/-- A template that cannot be read fails the tree that it stands in. -/
theorem resolveValue_fails {path : String} {e : Fault} (hfails : resolvePath user path = .error e) :
    ∀ v : Value, path ∈ wholePaths v → ∃ f, resolveValue user v = .error f
  | .text s, h => by
      rw [wholePaths, Option.mem_toList] at h
      rw [resolveValue, h]
      exact ⟨e, hfails⟩
  | .map es, h => by
      obtain ⟨f, hf⟩ := resolveEntries_fails hfails es (by rw [wholePaths] at h; exact h)
      exact ⟨f, by rw [resolveValue, hf]; rfl⟩
  | .list items, h => by
      obtain ⟨f, hf⟩ := resolveItems_fails hfails items (by rw [wholePaths] at h; exact h)
      exact ⟨f, by rw [resolveValue, hf]; rfl⟩
  | .tuple items, h => by
      obtain ⟨f, hf⟩ := resolveItems_fails hfails items (by rw [wholePaths] at h; exact h)
      exact ⟨f, by rw [resolveValue, hf]; rfl⟩
  | .null, h | .bool _, h | .int _, h | .double _, h | .bytes _, h | .uuid _, h
  | .unresolved, h | .object .., h | .entity .., h | .resource .., h => by cases h

theorem resolveItems_fails {path : String} {e : Fault} (hfails : resolvePath user path = .error e) :
    ∀ items : List Value, path ∈ wholePathsOfItems items → ∃ f, resolveItems user items = .error f
  | [], h => by cases h
  | v :: rest, h => by
      rw [resolveItems]
      cases hv : resolveValue user v with
      | error f => exact ⟨f, rfl⟩
      | ok w =>
          rw [wholePathsOfItems, List.mem_append] at h
          rcases h with h | h
          · obtain ⟨f, hf⟩ := resolveValue_fails hfails v h
            rw [hv] at hf
            cases hf
          · obtain ⟨f, hf⟩ := resolveItems_fails hfails rest h
            exact ⟨f, by rw [hf]; rfl⟩

theorem resolveEntries_fails {path : String} {e : Fault}
    (hfails : resolvePath user path = .error e) :
    ∀ es : List (String × Value), path ∈ wholePathsOfEntries es →
      ∃ f, resolveEntries user es = .error f
  | [], h => by cases h
  | (k, v) :: rest, h => by
      rw [resolveEntries]
      cases hv : resolveValue user v with
      | error f => exact ⟨f, rfl⟩
      | ok w =>
          rw [wholePathsOfEntries, List.mem_append] at h
          rcases h with h | h
          · obtain ⟨f, hf⟩ := resolveValue_fails hfails v h
            rw [hv] at hf
            cases hf
          · obtain ⟨f, hf⟩ := resolveEntries_fails hfails rest h
            exact ⟨f, by rw [hf]; rfl⟩

end

end Conditions

end Warrant
