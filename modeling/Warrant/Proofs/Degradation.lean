import Warrant.Proofs.Decisions
import Warrant.Proofs.Resolving

/-!
# Grants whose attributes cannot be read

When an attribute of the account cannot be read, the conditions that name it are
left as they were written. That is meant to make the rule one that nothing
satisfies, and against most resources it does, for few have the text of a
template among their values. A check by subject name has no resource, and takes
a grant with conditions to count unless it knows that they cannot be met. It
knows that of unresolved values and not of templates. So the grant counts.

Here is how far that goes. A grant that cannot be read is there for the account
exactly as it stands in the cache. It changes a decision exactly if it applies
as it stands, nothing forbids, no later rule applies, and the rules before it
would not have decided the same way.
-/

namespace Warrant

/-- Conditions in which some template names an attribute that cannot be read. -/
def Account.CannotRead (account : Account) (conditions : Value) : Prop :=
  ∃ path ∈ Conditions.wholePaths conditions, ∃ e, account.at? path = .error e

namespace Rule

/-- A rule that cannot be read is the same for the account as in the cache. -/
theorem forUser_of_cannotRead {account : Account} {r : Rule}
    (h : account.CannotRead r.conditions) : r.forUser account.toValue = r := by
  obtain ⟨path, hpath, e, he⟩ := h
  obtain ⟨f, hf⟩ := Conditions.resolveValue_fails (Conditions.resolvePath_error he) _ hpath
  unfold forUser
  split
  · rw [Conditions.resolve, hf]
  · rfl

end Rule

namespace Ability

/-- What it takes for a grant, as it stands in the cache, to change the decision that the rules
before and after it come to for a user. -/
structure Changes (user : Value) (before : List Rule) (g : Rule) (after : List Rule)
    (action subject field : Value) : Prop where
  applies : g.applies action (.of subject) field = true
  unopposed : ∀ r ∈ before ++ after,
    (r.forUser user).applies action (.of subject) field = true → r.inverted = false
  last : ∀ r ∈ after, (r.forUser user).applies action (.of subject) field = false
  new : lastApplied (fun r => r.applies action (.of subject) field)
    (before.map (Rule.forUser user)) ≠ some g

theorem decide_eq_iff {a b : Ability} {action subject field : Value} :
    a.decide action subject field = b.decide action subject field ↔
      settle Rule.inverted (fun r => r.applies action (.of subject) field) none a.rules =
        settle Rule.inverted (fun r => r.applies action (.of subject) field) none b.rules := by
  unfold decide
  rw [Decision.mk.injEq, Prod.ext_iff]

/-- A grant that cannot be read for an account contributes nothing to a decision, except where it
changes it as it stands. -/
theorem decide_without_unreadable_iff {account : Account} {before after : List Rule} {g : Rule}
    (hgrant : g.inverted = false) (hunreadable : account.CannotRead g.conditions)
    (action subject field : Value) :
    (ofRules account.toValue (before ++ g :: after)).decide action subject field =
        (ofRules account.toValue (before ++ after)).decide action subject field ↔
      ¬ Changes account.toValue before g after action subject field := by
  have hwith : (ofRules account.toValue (before ++ g :: after)).rules =
      before.map (Rule.forUser account.toValue) ++
        g :: after.map (Rule.forUser account.toValue) := by
    rw [ofRules, List.map_append, List.map_cons, Rule.forUser_of_cannotRead hunreadable]
  have hwithout : (ofRules account.toValue (before ++ after)).rules =
      before.map (Rule.forUser account.toValue) ++ after.map (Rule.forUser account.toValue) := by
    rw [ofRules, List.map_append]
  rw [decide_eq_iff, hwith, hwithout, settle_insert_iff hgrant, ← List.map_append]
  simp only [List.forall_mem_map, Rule.forUser_inverted]
  refine not_congr ⟨fun h => ⟨h.1, h.2.1, h.2.2.1, h.2.2.2⟩, fun h => ⟨h.1, h.2, h.3, h.4⟩⟩

end Ability

/-! ## A team that cannot be read -/

/-- The grant to read the accounts of one's own team. -/
def Rule.ofOwnTeam : Rule where
  actions := [.text "read"]
  subjects := [.text "account"]
  fields := none
  conditions := .map [("team", .text (Template.whole "user.profile.team"))]
  inverted := false
  reason := .null
  permissionId := .null

/-- An account with a profile in which the team cannot be read. -/
def Account.withBrokenProfile : Account where
  id := .uuid (Uuid.ofNat 1)
  email := .null
  externalId := .null
  role := none
  attributes := .map [("profile", .object "Profile" none [] ["team"])]

theorem Account.withBrokenProfile_cannotRead :
    Account.withBrokenProfile.CannotRead Rule.ofOwnTeam.conditions :=
  ⟨"user.profile.team", by decide +kernel, .attributeFailed, rfl⟩

/-- Asked by subject name, the grant decides, so it contributes something. -/
theorem Ability.decide_without_unreadable_team :
    ¬ ((ofRules Account.withBrokenProfile.toValue ([] ++ Rule.ofOwnTeam :: [])).decide
          (.text "read") (.text "account") .null =
        (ofRules Account.withBrokenProfile.toValue ([] ++ [])).decide
          (.text "read") (.text "account") .null) := by
  rw [decide_without_unreadable_iff rfl Account.withBrokenProfile_cannotRead, not_not]
  exact ⟨by decide +kernel, nofun, nofun, nofun⟩

/-- Not every grant that cannot be read contributes nothing. -/
theorem Ability.unreadable_grant_decides :
    ¬ ∀ (account : Account) (before : List Rule) (g : Rule) (after : List Rule)
      (action subject field : Value), g.inverted = false → account.CannotRead g.conditions →
      (ofRules account.toValue (before ++ g :: after)).decide action subject field =
        (ofRules account.toValue (before ++ after)).decide action subject field := by
  intro h
  have hsame := h Account.withBrokenProfile [] Rule.ofOwnTeam [] (.text "read") (.text "account")
    .null rfl Account.withBrokenProfile_cannotRead
  have hallowed : ((ofRules Account.withBrokenProfile.toValue ([] ++ Rule.ofOwnTeam :: [])).decide
      (.text "read") (.text "account") .null).allowed = true := by decide +kernel
  rw [hsame] at hallowed
  cases hallowed

end Warrant
