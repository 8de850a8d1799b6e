import Warrant.Guard
import Warrant.Proofs.Decisions
import Warrant.Proofs.Matching

/-!
# Asking about less

A check may name a resource or only its kind, and a field or none. The guard asks
about the kind, before any resource is known, and what it refuses is refused for
good. So asking about less must never lose a permission.

Grants and forbids move in opposite directions here. A grant that applies to a
resource has matched it, so it can be satisfied and applies to the kind as well;
a forbid that applies to the kind has no conditions and applies to every
resource of it. With fields it is the same: asked about no field in particular,
a grant for some fields counts and a forbid for some does not. The scan over the
rules keeps what was allowed when grants are added and forbids are taken away.
-/

namespace Warrant

namespace Target

theorem of_resource {v : Value} (h : v.isText = false) :
    Target.of v = ⟨v.subjectType, v.attributes⟩ := by
  cases v with
  | text s => cases h
  | _ => rfl

end Target

namespace Rule

variable {r : Rule} {action field : Value} {target : Target}

/-- A grant that applies to a resource applies to its kind. -/
theorem applies_named (hgrant : r.inverted = false)
    (h : r.applies action target field = true) :
    r.applies action (.named target.subject) field = true := by
  obtain ⟨hcovers, hholds⟩ := applies_iff.mp h
  refine applies_iff.mpr ⟨hcovers, fun hconditions => ?_⟩
  have hmet := hholds hconditions
  unfold conditionsHold at hmet ⊢
  split at hmet
  · exact hmet
  · -- Conditions that match the resource have nothing unresolved in them.
    have hsatisfiable : r.isSatisfiable = true := by
      rw [isSatisfiable, Conditions.hasUnresolved_of_holds hmet]
      rfl
    rw [hgrant, hsatisfiable]
    rfl

/-- A forbid that applies to a kind applies to every resource of it. -/
theorem applies_of_named (hforbid : r.inverted = true)
    (h : r.applies action (.named target.subject) field = true) :
    r.applies action target field = true := by
  obtain ⟨hcovers, hholds⟩ := applies_iff.mp h
  refine applies_iff.mpr ⟨hcovers, fun hconditions => ?_⟩
  have hnone := hholds hconditions
  rw [conditionsHold, hforbid] at hnone
  cases hnone

theorem coversField_null (hgrant : r.inverted = false) : r.coversField .null = true := by
  unfold coversField
  cases r.fields with
  | none => rfl
  | some fields =>
      rw [hgrant]
      rfl

theorem coversField_of_null (hforbid : r.inverted = true) (h : r.coversField .null = true) :
    r.coversField field = true := by
  unfold coversField at h ⊢
  cases hfields : r.fields with
  | none => rfl
  | some fields =>
      rw [hfields, hforbid] at h
      cases h

theorem applies_null (hgrant : r.inverted = false) (h : r.applies action target field = true) :
    r.applies action target .null = true := by
  obtain ⟨⟨haction, hsubject, -⟩, hholds⟩ := applies_iff.mp h
  exact applies_iff.mpr ⟨⟨haction, hsubject, coversField_null hgrant⟩, hholds⟩

theorem applies_of_null (hforbid : r.inverted = true)
    (h : r.applies action target .null = true) : r.applies action target field = true := by
  obtain ⟨⟨haction, hsubject, hfield⟩, hholds⟩ := applies_iff.mp h
  exact applies_iff.mpr ⟨⟨haction, hsubject, coversField_of_null hforbid hfield⟩, hholds⟩

end Rule

namespace Ability

variable {a : Ability} {action field : Value}

theorem can_of_resource {v : Value} (hv : v.isText = false)
    (h : a.can action v field = true) : a.can action (.text v.subjectType) field = true := by
  have hof := Target.of_resource hv
  refine settle_allowed_mono (fun r _ hgrant happlies => ?_) (fun r _ hforbid happlies => ?_) h
  · rw [hof] at happlies
    exact Rule.applies_named hgrant happlies
  · rw [hof]
    exact Rule.applies_of_named hforbid happlies

theorem can_of_field {v : Value} (h : a.can action v field = true) :
    a.can action v .null = true :=
  settle_allowed_mono (fun _ _ hgrant => Rule.applies_null hgrant)
    (fun _ _ hforbid => Rule.applies_of_null hforbid) h

end Ability

/-- The guard lets through whomever the rules allow what the operation requires. -/
theorem Guard.authorize_of_permits {rules : RuleSource} {account : Account} {r : Requirement}
    {default : Option Subject} {s : Subject} (hsubject : (r.subject <|> default) = some s)
    (h : rules.permits account (.text r.action.name) (.text s.name) (.ofOption .text r.field) =
      true) :
    ∃ clearance, authorize rules (some account) r default = .ok clearance := by
  unfold authorize
  rw [hsubject]
  dsimp only
  rw [if_pos h]
  split
  · exact ⟨_, rfl⟩
  · exact ⟨_, rfl⟩

/-- Asking about the kind of a resource in its place, or about no field in the place of one, loses
no permission. So the guard, which asks about the kind, lets through whomever the rules allow the
resource itself. -/
theorem Ability.can_of_finer :
    (∀ (a : Ability) (action v field : Value), v.isText = false →
      a.can action v field = true → a.can action (.text v.subjectType) field = true) ∧
    (∀ (a : Ability) (action v field : Value),
      a.can action v field = true → a.can action v .null = true) ∧
    ∀ (rules : RuleSource) (account : Account) (r : Requirement) (default : Option Subject)
      (s : Subject) (v : Value), (r.subject <|> default) = some s → v.isText = false →
      v.subjectType = s.name →
      rules.permits account (.text r.action.name) v (.ofOption .text r.field) = true →
      ∃ clearance, Guard.authorize rules (some account) r default = .ok clearance := by
  refine ⟨fun a action v field hv => can_of_resource hv, fun a action v field => can_of_field, ?_⟩
  intro rules account r default s v hsubject hv hkind hpermits
  refine Guard.authorize_of_permits hsubject ?_
  obtain ⟨ability, hability, hcan⟩ := RuleSource.permits_eq_true_iff.mp hpermits
  rw [← hkind]
  exact RuleSource.permits_eq_true_iff.mpr ⟨ability, hability, can_of_resource hv hcan⟩

/-! ## An editor of accounts

Editors may change the address of the accounts of their team, unless these are archived. -/

def Ability.editor : Ability where
  rules :=
    [{ actions := [.text "update"], subjects := [.text "account"], fields := some [.text "email"]
       conditions := .map [("team", .text "blue")], inverted := false, reason := .null
       permissionId := .null },
     { actions := [.text "update"], subjects := [.text "account"], fields := none
       conditions := .map [("archived", .bool true)], inverted := true, reason := .null
       permissionId := .null }]

def Value.teamAccount : Value :=
  .resource (.text "account") (.map [("team", .text "blue"), ("archived", .bool false)])

def Account.ofEditor : Account where
  id := .uuid (Uuid.ofNat 1)
  email := .null
  externalId := .null
  role := some ⟨.uuid (Uuid.ofNat 2), .text "editor", .null, []⟩
  attributes := .map []

/-- What the editor may do to the address of one account, and so to addresses of accounts, and to
accounts, and so past the guard. -/
theorem Ability.can_of_finer_editor :
    Ability.editor.can (.text "update") .teamAccount (.text "email") = true ∧
      Ability.editor.can (.text "update") (.text Value.teamAccount.subjectType) (.text "email") =
        true ∧
      Ability.editor.can (.text "update") .teamAccount .null = true ∧
      ∃ clearance, Guard.authorize (fun _ => some Ability.editor.rules) (some .ofEditor)
        { action := .update, field := some "email" } (some .account) = .ok clearance := by
  have hcan : Ability.editor.can (.text "update") .teamAccount (.text "email") = true := by
    decide +kernel
  have hkind : Value.teamAccount.subjectType = Subject.account.name := by decide
  have hpermits : RuleSource.permits (fun _ => some Ability.editor.rules) .ofEditor
      (.text Action.update.name) .teamAccount (.ofOption .text (some "email")) = true := by
    decide +kernel
  refine ⟨hcan, can_of_finer.1 .editor _ .teamAccount _ rfl hcan,
    can_of_finer.2.1 .editor _ .teamAccount _ hcan, ?_⟩
  exact can_of_finer.2.2 _ .ofEditor { action := .update, field := some "email" } _ .account
    .teamAccount rfl rfl hkind hpermits

end Warrant
