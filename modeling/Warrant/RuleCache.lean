import Warrant.Ability

/-!
# The rule cache

Checks are answered from a cache of rules by role, never from the database. A
role that is not in the cache has no ability, so an empty cache denies
everything. Loading comes in two steps that other work may come between: the
rules are read, and then installed. Installing all roles replaces the cache;
installing some replaces just those, and drops the ones that are gone.
-/

namespace Warrant

/-- The rules by role, and whether all roles have been loaded since the cache was last empty. -/
structure RuleCache where
  initialized : Bool
  entries : List (Uuid × List Rule)
  deriving Inhabited

/-- What a reload has read: the roles it was asked for, `none` for all, and the rules it found. -/
structure Reload where
  scope : Option (List Uuid)
  found : List (Uuid × List Rule)
  deriving Inhabited

namespace RuleCache

/-- The cache before anything is loaded. -/
def empty : RuleCache := ⟨false, []⟩

/-- The rules of a role. -/
def lookup (id : Uuid) : List (Uuid × List Rule) → Option (List Rule)
  | [] => none
  | (key, rules) :: rest => if key = id then some rules else lookup id rest

/-- The entries without those of a role. -/
def without (id : Uuid) (entries : List (Uuid × List Rule)) : List (Uuid × List Rule) :=
  entries.filter fun entry => entry.1 ≠ id

/-- The rules of a role, if it is in the cache. -/
def get? (c : RuleCache) (id : Uuid) : Option (List Rule) := lookup id c.entries

/-- The entries with one role set to what was found for it: replaced, or dropped. -/
def refresh (found : List (Uuid × List Rule)) (entries : List (Uuid × List Rule)) (id : Uuid) :
    List (Uuid × List Rule) :=
  match lookup id found with
  | some rules => (id, rules) :: without id entries
  | none => without id entries

/-- Installs what a reload has read. -/
def install (c : RuleCache) (reload : Reload) : RuleCache :=
  match reload.scope with
  | none => ⟨true, reload.found⟩
  | some ids => { c with entries := ids.foldl (refresh reload.found) c.entries }

/-- The cache as a source of rules. What is no identifier is the id of no role in it. -/
def source (c : RuleCache) : RuleSource
  | .uuid id => c.get? id
  | _ => none

/-- The ability of an account, if it holds a role and the role is in the cache. -/
def compile (c : RuleCache) (account : Account) : Option Ability := c.source.compile account

/-- Whether an account may do something by the rules in the cache. -/
def permits (c : RuleCache) (account : Account) (action subject field : Value) : Bool :=
  c.source.permits account action subject field

/-- Looking up a role after its entries are removed finds nothing. -/
theorem lookup_without_self (id : Uuid) (entries : List (Uuid × List Rule)) :
    lookup id (without id entries) = none := by
  induction entries with
  | nil => rfl
  | cons entry rest ih =>
      obtain ⟨key, rules⟩ := entry
      by_cases h : key = id <;> simp_all [without, lookup]

/-- Removing a role leaves the others alone. -/
theorem lookup_without_of_ne {id other : Uuid} (h : other ≠ id)
    (entries : List (Uuid × List Rule)) :
    lookup other (without id entries) = lookup other entries := by
  induction entries with
  | nil => rfl
  | cons entry rest ih =>
      obtain ⟨key, rules⟩ := entry
      by_cases hk : key = id
      · subst hk
        have hk' : key ≠ other := Ne.symm h
        simp_all [without, lookup]
      · by_cases ho : key = other <;> simp_all [without, lookup]

end RuleCache

end Warrant
