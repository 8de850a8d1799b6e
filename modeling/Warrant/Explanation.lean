import Warrant.Store

/-!
# Explanations

An explanation answers whether an account may do something, and says why: which
rule decided it and the reason that the rule gives.
-/

namespace Warrant

/-- An answer with its reasons. -/
structure Explanation where
  user : Option Account
  allowed : Bool
  reason : String
  ruleReason : Value
  permissionId : Value

namespace Explanation

/-- The answer without a rule to point to. -/
def denied (user : Option Account) (reason : String) : Explanation :=
  ⟨user, false, reason, .null, .null⟩

/-- The reason for a decision in words. -/
def words (d : Decision) (withResource : Bool) : String :=
  let verb :=
    if d.allowed then "granted" else if d.rule.isSome then "forbidden" else "denied"
  "Permission " ++ verb ++ (if withResource then " with resource conditions" else "")

/-- Explains what an account may do by its rules in the cache. Data of a resource, null for none,
make the question one about that resource. -/
def ofAccount (cache : RuleCache) (user : Account) (action subject field data : Value) :
    Explanation :=
  match cache.compile user with
  | none => denied (some user) "User has no role or role has no cached rules"
  | some ability =>
      let target := if data.isNull then subject else .resource subject data
      let d := ability.decide action target field
      { user := some user
        allowed := d.allowed
        reason := words d (!data.isNull)
        ruleReason := d.reason
        permissionId := .ofOption Rule.permissionId d.rule }

/-- Explains what the account with an id may do. -/
def forAccount (id : Uuid) (action subject field data : Value) : Work Explanation := do
  let user ← Work.transact (Store.account id)
  match user with
  | none => return denied none "User not found"
  | some u => Work.ask fun w => ofAccount w.cache u action subject field data

end Explanation

/-- Checks by account id. An unknown account may do nothing. -/
def checkPermission (id : Uuid) (action subject field : Value) : Work Bool := do
  let user ← Work.transact (Store.account id)
  match user with
  | none => return false
  | some u => Work.ask fun w => w.cache.permits u action subject field

end Warrant
