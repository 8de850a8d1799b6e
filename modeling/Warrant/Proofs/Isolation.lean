import Warrant.Proofs.Decisions
import Warrant.Proofs.Matching
import Warrant.Proofs.Resolving
import Warrant.Proofs.Scalars

/-!
# Keeping accounts apart

Rules of one role are meant for many accounts, and a template in their
conditions is what keeps each account to its own. If every grant for an action
on a subject asks one key of the resource for one attribute of the account, then
two accounts whose attributes differ are never both allowed on the same
resource, whatever else the conditions ask for and whatever the resource is. An
account that lacks the attribute is allowed on none.

The argument goes through the resource. A grant that applies to it has found the
account's own attribute at the key. For two accounts that would make one value
equal to both attributes, and then the attributes equal each other. That last
step is what the comparison of scalars has to bear, and it is proved where that
comparison is studied.
-/

namespace Warrant

/-- A rule that may grant an action on a subject, if its fields and conditions allow. -/
def Rule.mayGrant (r : Rule) (action subject : Value) : Bool :=
  !r.inverted && r.coversAction action && r.coversSubject subject

/-- The rules grant an action on a subject only where a key of the resource is what a path leads to
from the account. The conditions may ask for more. -/
def Scoped (rules : List Rule) (action subject : Value) (key path : String) : Prop :=
  ∀ r ∈ rules, r.mayGrant action subject = true →
    ∃ es, r.conditions = .map es ∧ (key, .text (Template.whole path)) ∈ es

namespace Account

/-- An account that holds the role with an id. -/
def Holds (account : Account) (id : Uuid) : Prop :=
  ∃ held, account.role = some held ∧ held.id = .uuid id

/-- Whether every attribute can be read that the grants for an action on a subject refer to. -/
def Reads (account : Account) (rules : List Rule) (action subject : Value) : Prop :=
  ∀ r ∈ rules, r.mayGrant action subject = true →
    ∃ v, Conditions.resolveValue account.toValue r.conditions = .ok v

end Account

section

variable {rules : List Rule} {action field attributes : Value} {subject key path : String}
  {account : Account}

/-- A grant that applies to a resource has compared what the resource has at the key with the
attribute of the account. -/
theorem Scoped.compared (hscoped : Scoped rules action (.text subject) key path)
    (hpath : path ≠ "") (hline : '\n' ∉ path.toList) (hattributes : attributes.isNull = false)
    (hreads : account.Reads rules action (.text subject)) {v : Value}
    (hv : account.at? path = .ok v) {r : Rule} (hr : r ∈ rules) (hgrant : r.inverted = false)
    (h : (r.forUser account.toValue).applies action (.of (.resource (.text subject) attributes))
      field = true) :
    ∃ actual, attributes.walk key = .ok actual ∧ Conditions.valueMatches v actual = .ok true := by
  obtain ⟨⟨haction, hsubject, -⟩, hholds⟩ := Rule.applies_iff.mp h
  rw [Rule.forUser_coversAction] at haction
  rw [Rule.forUser_coversSubject] at hsubject
  have hmay : r.mayGrant action (.text subject) = true := by
    rw [Rule.mayGrant, hgrant, haction]
    exact hsubject
  obtain ⟨es, hes, hmem⟩ := hscoped r hr hmay
  obtain ⟨w, hw⟩ := hreads r hr hmay
  -- The conditions for the account are a mapping too, with the attribute at the key.
  rw [hes] at hw
  obtain ⟨es', rfl, hes'⟩ := Conditions.resolveValue_map hw
  obtain ⟨v', hv', hmem'⟩ := Conditions.resolveEntries_mem hes' hmem
  rw [Conditions.resolveValue_whole hpath hline, Conditions.resolvePath_account hv] at hv'
  cases hv'
  have hconditions : (r.forUser account.toValue).conditions = .map es' := by
    have hgiven : r.hasConditions = true := by
      rw [Rule.hasConditions, hes]
      cases es with
      | nil => cases hmem
      | cons entry rest => rfl
    rw [Rule.forUser, if_pos hgiven]
    dsimp only
    rw [hes, Conditions.resolve, hw]
  have hgiven : (r.forUser account.toValue).hasConditions = true := by
    rw [Rule.hasConditions, hconditions]
    cases es' with
    | nil => cases hmem'
    | cons entry rest => rfl
  have hmatch := hholds hgiven
  have htarget : (Target.of (.resource (.text subject) attributes)).attributes = attributes := rfl
  rw [Rule.conditionsHold, htarget, hattributes, hconditions] at hmatch
  exact Conditions.entriesMatch_mem hmatch hmem'

end

/-- A scalar matches only what it equals. -/
theorem Conditions.scalarEqual_of_valueMatches {v actual : Value} (hv : v.isScalar = true)
    (h : valueMatches v actual = .ok true) : scalarEqual v actual = true := by
  have hscalar : valueMatches v actual = scalarMatches v actual := by
    cases v with
    | bool b => rfl
    | int n => rfl
    | double d => rfl
    | text s => rfl
    | uuid id => rfl
    | _ => cases hv
  rw [hscalar, scalarMatches, Except.ok.injEq, Bool.and_eq_true] at h
  exact h.2

/-- Two accounts of a role are never both allowed on a resource if the grants of the role ask a key
of it for an attribute in which the accounts differ. One without the attribute is never allowed. -/
theorem RuleCache.tenants_apart {c : RuleCache} {id : Uuid} {rules : List Rule} {action : Value}
    {subject key path : String} (hrules : c.get? id = some rules)
    (hscoped : Scoped rules action (.text subject) key path)
    (hpath : path ≠ "") (hline : '\n' ∉ path.toList)
    (attributes : Value) (hattributes : attributes.isNull = false) (field : Value) :
    (∀ a b : Account, a.Holds id → b.Holds id →
      a.Reads rules action (.text subject) → b.Reads rules action (.text subject) →
      ∀ v w, a.at? path = .ok v → b.at? path = .ok w → v.isScalar = true → w.isScalar = true →
        Conditions.scalarEqual v w = false →
        ¬ (c.permits a action (.resource (.text subject) attributes) field = true ∧
          c.permits b action (.resource (.text subject) attributes) field = true)) ∧
    ∀ a : Account, a.Holds id → a.Reads rules action (.text subject) →
      a.at? path = .ok .unresolved →
      c.permits a action (.resource (.text subject) attributes) field = false := by
  have hfound : ∀ {a : Account} {v : Value}, a.Holds id → a.Reads rules action (.text subject) →
      a.at? path = .ok v →
      c.permits a action (.resource (.text subject) attributes) field = true →
      ∃ actual, attributes.walk key = .ok actual ∧
        Conditions.valueMatches v actual = .ok true := by
    intro a v ⟨held, hheld, hid⟩ hreads hv hpermits
    obtain ⟨⟨r, hr, happlies⟩, hgrants⟩ := (permits_iff hheld hid hrules).mp hpermits
    exact hscoped.compared hpath hline hattributes hreads hv hr (hgrants r hr happlies) happlies
  refine ⟨fun a b ha hb hreads hreads' v w hv hw hsv hsw hne hboth => ?_, fun a ha hreads hv => ?_⟩
  · obtain ⟨found, hwalk, hmatch⟩ := hfound ha hreads hv hboth.1
    obtain ⟨found', hwalk', hmatch'⟩ := hfound hb hreads' hw hboth.2
    rw [hwalk] at hwalk'
    cases hwalk'
    have heq := Conditions.scalarEqual_of_common hsv hsw
      (Conditions.scalarEqual_of_valueMatches hsv hmatch)
      (Conditions.scalarEqual_of_valueMatches hsw hmatch')
    rw [hne] at heq
    cases heq
  · refine Bool.eq_false_iff.mpr fun hpermits => ?_
    obtain ⟨found, -, hmatch⟩ := hfound ha hreads hv hpermits
    cases hmatch

/-! ## Two companies -/

/-- Staff may read the accounts of their company. -/
def Rule.ofOwnCompany : Rule where
  actions := [.text "read"]
  subjects := [.text "account"]
  fields := none
  conditions := .map [("companyId", .text (Template.whole "user.companyId"))]
  inverted := false
  reason := .null
  permissionId := .null

/-- A cache with the staff as its only role. -/
def RuleCache.staff : RuleCache := ⟨true, [(Uuid.ofNat 1, [Rule.ofOwnCompany])]⟩

/-- One of the staff of a company. -/
def Account.staffOf (company : String) : Account where
  id := .uuid (Uuid.ofNat 2)
  email := .null
  externalId := .null
  role := some ⟨.uuid (Uuid.ofNat 1), .text "staff", .null, []⟩
  attributes := .map [("companyId", .text company)]

/-- What belongs to a company. -/
def Value.accountOf (company : String) : Value :=
  .resource (.text "account") (.map [("companyId", .text company)])

/-- Each company's staff may read what is theirs, and so no other's may. -/
theorem RuleCache.tenants_apart_companies :
    RuleCache.staff.permits (.staffOf "acme") (.text "read") (.accountOf "acme") .null = true ∧
      ¬ (RuleCache.staff.permits (.staffOf "acme") (.text "read") (.accountOf "acme") .null = true ∧
        RuleCache.staff.permits (.staffOf "globex") (.text "read") (.accountOf "acme") .null =
          true) := by
  have hrules : RuleCache.staff.get? (Uuid.ofNat 1) = some [Rule.ofOwnCompany] := rfl
  have hscoped : Scoped [Rule.ofOwnCompany] (.text "read") (.text "account") "companyId"
      "user.companyId" := by
    intro r hr _
    rw [List.mem_singleton.mp hr]
    exact ⟨_, rfl, List.mem_singleton_self _⟩
  have hreads : (Account.staffOf "acme").Reads [Rule.ofOwnCompany] (.text "read")
      (.text "account") := by
    intro r hr _
    rw [List.mem_singleton.mp hr]
    exact ⟨.map [("companyId", .text "acme")], rfl⟩
  have hreads' : (Account.staffOf "globex").Reads [Rule.ofOwnCompany] (.text "read")
      (.text "account") := by
    intro r hr _
    rw [List.mem_singleton.mp hr]
    exact ⟨.map [("companyId", .text "globex")], rfl⟩
  have hapart := (RuleCache.tenants_apart hrules hscoped (by decide) (by decide)
    (.map [("companyId", .text "acme")]) rfl .null).1 (.staffOf "acme") (.staffOf "globex")
    ⟨_, rfl, rfl⟩ ⟨_, rfl, rfl⟩ hreads hreads' (.text "acme") (.text "globex") rfl rfl rfl rfl
    (by decide)
  exact ⟨by decide +kernel, hapart⟩

end Warrant
