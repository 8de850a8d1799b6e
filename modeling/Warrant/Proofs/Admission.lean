import Warrant.Ownership
import Warrant.Proofs.Coarsening

/-!
# What a resource has to meet

A grant with conditions is meant to let a resource through only if the resource
meets them. `Rule.Admits` says so of one rule, without the course that a decision
takes, and a decision in favour of a resource does rest on such a rule.

There is one exception. A check by name is told apart from a check of a resource
by its attributes being null, and a resource may have null in their place. Then
the resource is taken for its kind: whatever is allowed by name is allowed for
it, and conditions that it does not meet let it through. An override of ownership
asks about the resource itself, so the exception reaches it too.
-/

namespace Warrant

/-- A rule that covers an action, a kind of subject and a field. -/
structure Rule.Covers (r : Rule) (action : Value) (subject : String) (field : Value) : Prop where
  action : r.coversAction action = true
  subject : r.coversSubject (.text subject) = true
  field : r.coversField field = true

/-- A grant that covers a check, and whose conditions, if it has any, the attributes meet. -/
structure Rule.Admits (r : Rule) (action : Value) (subject : String) (field attributes : Value) :
    Prop extends r.Covers action subject field where
  grant : r.inverted = false
  meets : r.hasConditions = true → Conditions.holds r.conditions attributes = .ok true

/-- A forbid that covers a check, and that has conditions, which the attributes meet. -/
structure Rule.Bars (r : Rule) (action : Value) (subject : String) (field attributes : Value) :
    Prop extends r.Covers action subject field where
  forbid : r.inverted = true
  conditional : r.hasConditions = true
  meets : Conditions.holds r.conditions attributes = .ok true

theorem Value.eq_null_of_isNull {v : Value} (h : v.isNull = true) : v = .null := by
  cases v with
  | null => rfl
  | _ => cases h

namespace Target

/-- A resource without attributes is taken for its kind. -/
theorem of_resource_null (subject : Value) :
    Target.of (.resource subject .null) = Target.of (.text subject.display) := rfl

end Target

namespace Rule

variable {r : Rule} {action field attributes : Value} {subject : String}

/-- A rule that applies to a resource with attributes covers it and is met by them, and the other
way round. -/
theorem applies_resource_iff (hattributes : attributes.isNull = false) :
    r.applies action ⟨subject, attributes⟩ field = true ↔
      r.Covers action subject field ∧
        (r.hasConditions = true → Conditions.holds r.conditions attributes = .ok true) := by
  have hholds : r.conditionsHold attributes = Conditions.holds r.conditions attributes := by
    rw [conditionsHold, hattributes]
    rfl
  rw [applies_iff, hholds]
  constructor
  · rintro ⟨⟨haction, hsubject, hfield⟩, hmeets⟩
    exact ⟨⟨haction, hsubject, hfield⟩, hmeets⟩
  · rintro ⟨hcovers, hmeets⟩
    exact ⟨⟨hcovers.action, hcovers.subject, hcovers.field⟩, hmeets⟩

theorem admits_of_applies (hattributes : attributes.isNull = false) (hgrant : r.inverted = false)
    (h : r.applies action ⟨subject, attributes⟩ field = true) :
    r.Admits action subject field attributes := by
  obtain ⟨hcovers, hmeets⟩ := (applies_resource_iff hattributes).mp h
  exact ⟨hcovers, hgrant, hmeets⟩

theorem applies_named_of_covers (hnone : r.hasConditions = false)
    (h : r.Covers action subject field) : r.applies action (.named subject) field = true := by
  refine applies_iff.mpr ⟨⟨h.action, h.subject, h.field⟩, fun hconditions => ?_⟩
  rw [hnone] at hconditions
  cases hconditions

end Rule

namespace Ability

theorem exists_admits_of_can {a : Ability} {action subject attributes field : Value}
    (hattributes : attributes.isNull = false)
    (h : a.can action (.resource subject attributes) field = true) :
    ∃ r ∈ a.rules, r.Admits action subject.display field attributes := by
  obtain ⟨⟨r, hr, happlies⟩, hgrants⟩ := can_iff.mp h
  exact ⟨r, hr, Rule.admits_of_applies hattributes (hgrants r hr happlies) happlies⟩

/-- What is allowed by name is allowed for a resource exactly if the resource is let through by a
grant, and no forbid with conditions bars it. -/
theorem can_resource_iff_of_can_named {a : Ability} {action attributes field : Value}
    {subject : String} (hattributes : attributes.isNull = false)
    (hnamed : a.can action (.text subject) field = true) :
    a.can action (.resource (.text subject) attributes) field = true ↔
      (∃ r ∈ a.rules, r.Admits action subject field attributes) ∧
        ∀ r ∈ a.rules, ¬ r.Bars action subject field attributes := by
  have hof : Target.of (.resource (.text subject) attributes) = ⟨subject, attributes⟩ := rfl
  constructor
  · intro h
    refine ⟨exists_admits_of_can hattributes h, fun r hr hbars => ?_⟩
    have happlies : r.applies action ⟨subject, attributes⟩ field = true :=
      (Rule.applies_resource_iff hattributes).mpr ⟨hbars.toCovers, fun _ => hbars.meets⟩
    have hgrant := (can_iff.mp h).2 r hr (by rw [hof]; exact happlies)
    rw [hbars.forbid] at hgrant
    cases hgrant
  · rintro ⟨⟨r, hr, hadmits⟩, hfree⟩
    refine can_iff.mpr ⟨⟨r, hr, ?_⟩, fun r hr happlies => ?_⟩
    · rw [hof]
      exact (Rule.applies_resource_iff hattributes).mpr ⟨hadmits.toCovers, hadmits.meets⟩
    · rw [hof] at happlies
      obtain ⟨hcovers, hmeets⟩ := (Rule.applies_resource_iff hattributes).mp happlies
      rw [← Bool.not_eq_true]
      intro hforbid
      -- A forbid that applies has conditions, or it would have applied to the kind as well.
      cases hconditions : r.hasConditions with
      | true => exact hfree r hr ⟨hcovers, hforbid, hconditions, hmeets hconditions⟩
      | false =>
          have hgrant := (can_iff.mp hnamed).2 r hr (Rule.applies_named_of_covers hconditions hcovers)
          rw [hforbid] at hgrant
          cases hgrant

theorem can_resource_null (a : Ability) (action subject field : Value) :
    a.can action (.resource subject .null) field =
      a.can action (.text subject.display) field := by
  unfold can decide
  rw [Target.of_resource_null]

end Ability

/-- Whoever is not the owner and still passes was allowed the resource by an override. -/
theorem Ownership.override_of_check {rules : RuleSource} {defaultPath method : String}
    {user : Account} {subject attributes owner : Value} {r : OwnershipRequirement}
    {kind : Option Subject}
    (howner : Ownership.owner defaultPath (.resource subject attributes) r = .ok owner)
    (hother : isOwner owner user.id = .ok false)
    (h : check rules defaultPath user (.resource subject attributes) r method kind = .ok ()) :
    isOverridden rules user (.resource subject attributes) method = true := by
  have hnull : ¬ (Value.resource subject attributes).isNull = true := nofun
  have hverdict : (Ownership.owner defaultPath (.resource subject attributes) r >>= fun found =>
      isOwner found user.id) = .ok false := by
    rw [howner]
    exact hother
  unfold check at h
  rw [if_neg hnull] at h
  dsimp only [target] at h
  rw [hverdict] at h
  dsimp only at h
  split at h
  · cases h
  · split at h
    · next hallowed => exact hallowed
    · cases h

/-- What is allowed for a resource rests on a rule that admits it, exactly if that goes for what is
allowed by name, should the resource have no attributes; with attributes it always does. Someone who
is not the owner of a resource and passes the check of ownership is allowed the resource, so the
same goes for them. -/
theorem Ability.can_resource_admits (subject attributes : Value) :
    (∀ (a : Ability) (action field : Value),
      (a.can action (.resource subject attributes) field = true →
        ∃ r ∈ a.rules, r.Admits action subject.display field attributes) ↔
      (attributes.isNull = true → a.can action (.text subject.display) field = true →
        ∃ r ∈ a.rules, r.Admits action subject.display field attributes)) ∧
    ∀ (rules : RuleSource) (defaultPath method : String) (user : Account) (owner : Value)
      (r : OwnershipRequirement) (kind : Option Subject),
      Ownership.owner defaultPath (.resource subject attributes) r = .ok owner →
      Ownership.isOwner owner user.id = .ok false →
      Ownership.check rules defaultPath user (.resource subject attributes) r method kind =
        .ok () →
      ∃ ability, rules.compile user = some ability ∧
        ability.can (.text (Action.ofMethod method).name) (.resource subject attributes) .null =
          true ∧
        (attributes.isNull = false → ∃ r ∈ ability.rules,
          r.Admits (.text (Action.ofMethod method).name) subject.display .null attributes) := by
  constructor
  · intro a action field
    cases hattributes : attributes.isNull with
    | true =>
        obtain rfl := Value.eq_null_of_isNull hattributes
        rw [can_resource_null]
        exact ⟨fun h _ => h, fun h => h rfl⟩
    | false => exact iff_of_true (exists_admits_of_can hattributes) nofun
  · intro rules defaultPath method user owner r kind howner hother h
    have hallowed := Ownership.override_of_check howner hother h
    obtain ⟨ability, hability, hcan⟩ := RuleSource.permits_eq_true_iff.mp hallowed
    exact ⟨ability, hability, hcan, fun hattributes => exists_admits_of_can hattributes hcan⟩

/-! ## A resource without attributes

Someone may read the accounts of a team, and no others. -/

def Ability.teamReader : Ability where
  rules :=
    [{ actions := [.text "read"], subjects := [.text "account"], fields := none
       conditions := .map [("team", .text "blue")], inverted := false, reason := .null
       permissionId := .null }]

/-- Accounts of the team are let through by the grant, and only those. -/
theorem Ability.can_resource_admits_team :
    ∃ r ∈ Ability.teamReader.rules, r.Admits (.text "read") "account" .null
      (.map [("team", .text "blue")]) :=
  ((can_resource_admits (.text "account") (.map [("team", .text "blue")])).1 .teamReader
    (.text "read") .null).mpr nofun (by decide +kernel)

/-- An account without attributes is of no team, and is let through all the same: by the decision,
and by the check of ownership. -/
theorem Ability.unmet_grant_decides :
    Ability.teamReader.can (.text "read") (.resource (.text "account") .null) .null = true ∧
      Ownership.check (fun _ => some Ability.teamReader.rules) "owner_id" .ofEditor
        (.resource (.text "account") .null) {} "GET" none = .ok () ∧
      ¬ ∃ r ∈ Ability.teamReader.rules, r.Admits (.text "read") "account" .null .null := by
  refine ⟨by decide +kernel, by rfl, ?_⟩
  rintro ⟨r, hr, hadmits⟩
  have hmet := hadmits.meets
  rw [List.mem_singleton.mp hr] at hmet
  cases hmet rfl

end Warrant
