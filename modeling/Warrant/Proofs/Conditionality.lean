import Warrant.Proofs.Decisions
import Warrant.Proofs.Resolving
import Warrant.Proofs.Rules

/-!
# Conditions that stay conditions

Whether a rule has conditions is asked again at every stage: when the permission
is read, when the rule is made for a user, and when it is applied. What is asked
about is not the same value each time, since resolving puts attributes of the
user in the place of templates. A rule whose conditions became empty on the way
would grant or forbid without any.

Resolving rebuilds a mapping with its keys and a sequence with its length, and
leaves everything else as it is, except for one thing: conditions that are a
template as a whole, and no mapping, become whatever the template stands for. If
that is empty, or if the path leads nowhere, the rule has no conditions left.
-/

namespace Warrant

namespace Conditions

variable {user : Value}

theorem isEmpty_resolveItems {items items' : List Value}
    (h : resolveItems user items = .ok items') : items'.isEmpty = items.isEmpty := by
  rw [Bool.eq_iff_iff, List.isEmpty_iff_length_eq_zero, List.isEmpty_iff_length_eq_zero,
    resolveItems_length h]

/-- What is no text is as empty after resolving as before. -/
theorem isTruthy_resolveValue {v w : Value} (hv : v.isText = false)
    (h : resolveValue user v = .ok w) : w.isTruthy = v.isTruthy := by
  cases v with
  | text s => cases hv
  | map es =>
      obtain ⟨es', rfl, hes⟩ := resolveValue_map h
      have hempty := congrArg List.isEmpty (resolveEntries_keys hes)
      rw [List.isEmpty_map, List.isEmpty_map] at hempty
      rw [Value.isTruthy, Value.isTruthy, hempty]
  | list items =>
      rw [resolveValue] at h
      obtain ⟨items', rfl, hitems⟩ := resolveItems_map_list h
      rw [Value.isTruthy, Value.isTruthy, isEmpty_resolveItems hitems]
  | tuple items =>
      rw [resolveValue] at h
      obtain ⟨items', rfl, hitems⟩ := resolveItems_map_list h
      rw [Value.isTruthy, Value.isTruthy, isEmpty_resolveItems hitems]
  | bytes octets =>
      cases h
      rw [Value.isTruthy, Value.isTruthy, List.isEmpty_map]
  | _ =>
      cases h
      rfl

end Conditions

/-- Conditions that are a template as a whole, which stands for something empty, or for nothing. -/
def Account.Voids (account : Account) (conditions : Value) : Prop :=
  ∃ s path v, conditions = .text s ∧ Template.path? s = some path ∧ account.at? path = .ok v ∧
    v.isTruthy = false

theorem Account.voids_text_iff {account : Account} {s : String} :
    account.Voids (.text s) ↔
      ∃ path v, Template.path? s = some path ∧ account.at? path = .ok v ∧ v.isTruthy = false := by
  constructor
  · rintro ⟨t, path, v, heq, h⟩
    cases heq
    exact ⟨path, v, h⟩
  · rintro ⟨path, v, h⟩
    exact ⟨s, path, v, rfl, h⟩

namespace Conditions

variable {account : Account}

theorem isTruthy_resolve_text_iff {s : String} (hs : (Value.text s).isTruthy = true) :
    (resolve account.toValue (.text s)).isTruthy = true ↔ ¬ account.Voids (.text s) := by
  rw [Account.voids_text_iff, resolve, resolveValue]
  cases Template.path? s with
  | none =>
      refine iff_of_true hs ?_
      rintro ⟨path, v, hnone, -⟩
      cases hnone
  | some path =>
      dsimp only
      cases hat : account.at? path with
      | error e =>
          -- The template stays as it was written, and so it is there.
          rw [resolvePath_error hat]
          refine iff_of_true hs ?_
          rintro ⟨other, v, heq, hv, -⟩
          cases heq
          rw [hat] at hv
          cases hv
      | ok v =>
          rw [resolvePath_account hat]
          dsimp only
          constructor
          · rintro htruthy ⟨other, w, heq, hw, hempty⟩
            cases heq
            rw [hat] at hw
            cases hw
            rw [htruthy] at hempty
            cases hempty
          · intro hkept
            by_contra hempty
            exact hkept ⟨path, v, rfl, hat, Bool.eq_false_iff.mpr hempty⟩

/-- Conditions are there for an account, unless it voids them. -/
theorem isTruthy_resolve_iff {conditions : Value} (hconditions : conditions.isTruthy = true) :
    (resolve account.toValue conditions).isTruthy = true ↔ ¬ account.Voids conditions := by
  by_cases htext : conditions.isText = true
  · cases conditions with
    | text s => exact isTruthy_resolve_text_iff hconditions
    | _ => cases htext
  · have hnone : ¬ account.Voids conditions := by
      rintro ⟨s, -, -, rfl, -⟩
      exact htext rfl
    refine iff_of_true ?_ hnone
    unfold resolve
    split
    · next v hv => rw [isTruthy_resolveValue (Bool.eq_false_iff.mpr htext) hv, hconditions]
    · exact hconditions

end Conditions

theorem Rule.hasConditions_forUser_iff {account : Account} {r : Rule} :
    (r.forUser account.toValue).hasConditions = true ↔
      r.hasConditions = true ∧ ¬ account.Voids r.conditions := by
  unfold forUser
  by_cases hconditions : r.hasConditions = true
  · rw [if_pos hconditions]
    have hresolve : (Conditions.resolve account.toValue r.conditions).isTruthy = true ↔
        ¬ account.Voids r.conditions := Conditions.isTruthy_resolve_iff hconditions
    exact ⟨fun h => ⟨hconditions, hresolve.mp h⟩, fun h => hresolve.mpr h.2⟩
  · rw [if_neg hconditions]
    exact ⟨fun h => absurd h hconditions, fun h => h.1⟩

/-- A rule has the conditions of its permission, unless they say nothing. -/
theorem Rule.States.hasConditions_eq {id : Value} {t : Terms} {r : Rule} (h : States id t r) :
    ∃ conditions, decode t.conditions = .ok conditions ∧
      r.hasConditions = conditions.isTruthy ∧
      (conditions.isTruthy = true → r.conditions = conditions) := by
  obtain ⟨conditions, hdecode, hconditions⟩ := h.conditions
  refine ⟨conditions, hdecode, ?_, fun htruthy => ?_⟩
  · rw [hasConditions, hconditions]
    split
    · rfl
    · next hempty =>
        rw [Bool.eq_false_iff.mpr hempty]
        rfl
  · rw [hconditions, if_pos htruthy]

/-- The rule of a permission, conditional exactly if the permission's conditions say something and
the account does not void them. -/
structure Rule.Conditioned (account : Account) (p : Permission) (r : Rule) : Prop where
  permissionId : r.permissionId = .uuid p.id
  conditional : ∃ conditions, decode p.conditions = .ok conditions ∧
    (r.hasConditions = true ↔ conditions.isTruthy = true ∧ ¬ account.Voids conditions)

/-- The ability of an account that holds a role of the cache has one rule for each permission of the
role, and a rule is conditional exactly if the permission's conditions say something and the account
does not void them. -/
theorem RuleCache.compiled_conditional_iff {c : RuleCache} {account : Account} {held : HeldRole}
    {id : Uuid} {permissions : List Permission} {rules : List Rule}
    (hrules : Rule.ofPermissions permissions = .ok rules) (hcached : c.get? id = some rules)
    (hheld : account.role = some held) (hid : held.id = .uuid id) :
    ∃ ability, c.compile account = some ability ∧
      List.Forall₂ (Rule.Conditioned account) permissions ability.rules := by
  refine ⟨_, compile_eq hheld hid hcached, List.forall₂_map_right_iff.mpr ?_⟩
  refine (Rule.forall₂_of_ofPermissions hrules).imp fun p r hstates => ⟨?_, ?_⟩
  · rw [Rule.forUser_permissionId]
    exact hstates.permissionId
  · obtain ⟨conditions, hdecode, hhas, hsame⟩ := hstates.hasConditions_eq
    refine ⟨conditions, hdecode, ?_⟩
    rw [Rule.hasConditions_forUser_iff, hhas]
    exact and_congr_right fun htruthy => by rw [hsame htruthy]

/-! ## Someone without a team

One permission, to read accounts under conditions, for a role that someone holds who is of no
team. -/

def Permission.toReadAccounts (conditions : Value) : Permission where
  id := Uuid.ofNat 3
  roleId := Uuid.ofNat 2
  action := .ofTexts ["read"]
  subject := .ofTexts ["account"]
  fields := .null
  conditions := conditions
  inverted := .bool false
  reason := .null
  createdAt := none

def Rule.toReadAccounts (conditions : Value) : Rule where
  actions := [.text "read"]
  subjects := [.text "account"]
  fields := none
  conditions := conditions
  inverted := false
  reason := .null
  permissionId := .uuid (Uuid.ofNat 3)

def Value.ownTeam : Value := .map [("team", .text (Template.whole "user.team"))]

def HeldRole.reader : HeldRole where
  id := .uuid (Uuid.ofNat 2)
  name := .text "reader"
  description := .null
  permissions := []

def Account.teamless : Account where
  id := .uuid (Uuid.ofNat 1)
  email := .null
  externalId := .null
  role := some .reader
  attributes := .map []

def RuleCache.ofReader (conditions : Value) : RuleCache :=
  ⟨true, [(Uuid.ofNat 2, [.toReadAccounts conditions])]⟩

/-- Where the template is a value in a mapping, the mapping stays, though the account has no
team. -/
theorem RuleCache.compiled_conditional_team :
    ∃ ability, (ofReader .ownTeam).compile .teamless = some ability ∧
      List.Forall₂ (Rule.Conditioned .teamless) [.toReadAccounts .ownTeam] ability.rules :=
  @compiled_conditional_iff (ofReader .ownTeam) .teamless .reader (Uuid.ofNat 2)
    [.toReadAccounts .ownTeam] [.toReadAccounts .ownTeam] rfl rfl rfl rfl

/-- Where the template is all there is, in a column that holds it as JSON text, nothing stays, and
the account may read accounts of any team. -/
theorem RuleCache.whole_template_unconditional :
    Rule.ofPermissions [.toReadAccounts (.text "\"$\x7buser.team\x7d\"")] =
        .ok [.toReadAccounts (.text (Template.whole "user.team"))] ∧
      (Value.text (Template.whole "user.team")).isTruthy = true ∧
      ∃ ability, (ofReader (.text (Template.whole "user.team"))).compile .teamless = some ability ∧
        ability.rules.map Rule.hasConditions = [false] ∧
        ability.can (.text "read") (.resource (.text "account") (.map [("team", .text "blue")]))
          .null = true :=
  ⟨by rfl, by decide +kernel, _, rfl, by decide +kernel, by decide +kernel⟩

end Warrant
