import Warrant.Proofs.Reassignment

/-!
# Who can change anything

Every path of the service is behind the guard, and there is no other way to an
operation. So a request that changes tables or cache was sent by an account,
under a token that the identity provider vouched for, along a route that
requires something for its verb, and the guard let that account through by the
rules as they were in the cache.

`Passes` says all of this but for one thing. What is for everyone the guard lets
through without an account, and then the conclusion would be worth nothing. It
has to be known of the two operations that are for everyone that they change
nothing, and that there are only these two.
-/

namespace Warrant.Http

/-! ## Who sends a request -/

namespace Identity

/-- The token of a request is an account's: the identity provider says that it is good and whose
name it carries, and the account is known by that name. -/
def SentBy (introspection : Option Introspection) (req : Request) (db : Database)
    (account : Account) : Prop :=
  ∃ token ask answer name, token? req = some token ∧ introspection = some ask ∧
    ask token = some answer ∧ holder? answer = .ok (some name) ∧
    name.text?.bind db.accountKnownAs? = some account

variable {introspection : Option Introspection} {req : Request} {w w' : World}
  {account other : Account}

/-- Only a token makes an account the sender. -/
theorem sentBy_of_authenticate
    (h : authenticate introspection req w = (.ok (some account), w')) :
    SentBy introspection req w.db account := by
  unfold authenticate at h
  cases htoken : token? req with
  | none =>
      rw [htoken] at h
      cases h
  | some token =>
      rw [htoken] at h
      cases introspection with
      | none => cases h
      | some ask =>
          dsimp only at h
          cases hanswer : ask token with
          | none =>
              rw [hanswer] at h
              cases h
          | some answer =>
              rw [hanswer] at h
              obtain ⟨holder, w₁, hrun, h⟩ := Work.bind_ok.mp h
              obtain ⟨hholder, rfl⟩ := Work.ofFault_ok.mp hrun
              cases holder with
              | none => cases h
              | some name =>
                  have hknown : Work.Answers (Work.transact (Store.accountKnownAs name))
                      fun db => name.text?.bind db.accountKnownAs? :=
                    (Work.Answers.query _ _).transact
                  exact ⟨token, ask, answer, name, htoken, rfl, hanswer, hholder,
                    (hknown.result h).symm⟩

/-- A request is sent by one account. -/
theorem SentBy.unique {db : Database} (h : SentBy introspection req db account)
    (h' : SentBy introspection req db other) : account = other := by
  obtain ⟨token, ask, answer, name, htoken, hask, hanswer, hholder, hfound⟩ := h
  obtain ⟨token', ask', answer', name', htoken', hask', hanswer', hholder', hfound'⟩ := h'
  cases htoken.symm.trans htoken'
  cases hask.symm.trans hask'
  cases hanswer.symm.trans hanswer'
  cases hholder.symm.trans hholder'
  exact Option.some.inj (hfound.symm.trans hfound')

end Identity

/-! ## What is for everyone -/

namespace Operation

/-- To find out whether the database responds changes nothing. -/
theorem ping_keeps : Work.Keeps World.state ping := by
  refine Work.Keeps.bind
    (Work.Keeps.attempt (Work.Keeps.transactReading (Work.Keeps.step .ping))) fun r => ?_
  cases r with
  | error f => exact Work.Keeps.pure false
  | ok u => exact Work.Keeps.pure true

theorem ready_keeps : Work.Keeps World.state ready :=
  Work.Keeps.bind ping_keeps fun _ => Work.Keeps.ask _

end Operation

namespace Route

/-- What is for everyone is to see that the service is alive, or ready. -/
theorem eq_of_isPublic {route : Route} {method : String} {requirement : Requirement}
    (h : route.requirement? method = some requirement) (hpublic : requirement.isPublic = true) :
    route = health ∨ route = ready := by
  unfold requirement? at h
  split at h
  · exact Or.inl rfl
  · exact Or.inr rfl
  -- All else is for those who may.
  all_goals
    cases h <;> cases hpublic

end Route

namespace App

variable {app : App} {req : Request} {w : World} {user : Option Account} {route : Route}
  {requirement : Requirement}

/-- An operation that is for everyone changes nothing. -/
theorem operate_keeps_of_isPublic (h : route.requirement? req.method = some requirement)
    (hpublic : requirement.isPublic = true) :
    Work.Keeps World.state (app.operate route req user) := by
  rcases Route.eq_of_isPublic h hpublic with rfl | rfl
  · exact Work.Keeps.pure _
  · exact Operation.ready_keeps

/-! ## What comes before a change -/

/-- What lets a request change something: its token is an account's, its path has a route that
requires something for its verb, not of everyone, and by the rules in the cache the guard lets the
account through. -/
structure Cleared (app : App) (req : Request) (w : World) (account : Account) (route : Route)
    (requirement : Requirement) : Prop where
  sender : Identity.SentBy app.introspection req w.db account
  routed : Route.ofPath? req.path = some route
  required : route.requirement? req.method = some requirement
  closed : requirement.isPublic = false
  cleared : ∃ clearance,
    Guard.authorize w.cache.source (some account) requirement route.subject? = .ok clearance

/-- What has passed and changes something was cleared for an account. -/
theorem cleared_of_passes (hverb : req.method ≠ "OPTIONS")
    (hpasses : app.Passes req w user route requirement)
    (hchanged : (app.handle req w).2.state ≠ w.state) :
    ∃ account, user = some account ∧ app.Cleared req w account route requirement := by
  have hclosed : requirement.isPublic = false := by
    by_contra hpublic
    rw [Bool.not_eq_false] at hpublic
    rw [handle_of_passes hverb hpasses] at hchanged
    have hkeeps : Work.Keeps World.state (app.operate route req user) :=
      operate_keeps_of_isPublic hpasses.required hpublic
    exact hchanged ((hkeeps _).trans (Identity.authenticate_keeps app.introspection req w))
  obtain ⟨clearance, hclearance⟩ := hpasses.cleared
  obtain ⟨account, s, rfl, -, -⟩ := Guard.authorize_ok hclosed hclearance
  exact ⟨account, rfl, Identity.sentBy_of_authenticate (Prod.ext hpasses.sender rfl), hpasses.routed,
    hpasses.required, hclosed, clearance, hclearance⟩

/-- A request that changes tables or cache was cleared for an account that sent it. So nothing is
changed by a preflight, by nobody, by a verb without a requirement, or after a denial. -/
theorem changed_only_if_cleared (app : App) (req : Request) (w : World) :
    ((app.handle req w).2.state ≠ w.state →
      ∃ account route requirement, app.Cleared req w account route requirement) ∧
    (req.method = "OPTIONS" → (app.handle req w).2.state = w.state) ∧
    ((∀ account, ¬ Identity.SentBy app.introspection req w.db account) →
      (app.handle req w).2.state = w.state) ∧
    (∀ route, Route.ofPath? req.path = some route → route.requirement? req.method = none →
      (app.handle req w).2.state = w.state) ∧
    ∀ account route requirement why, Identity.SentBy app.introspection req w.db account →
      Route.ofPath? req.path = some route → route.requirement? req.method = some requirement →
      Guard.authorize w.cache.source (some account) requirement route.subject? = .error why →
      (app.handle req w).2.state = w.state := by
  have hcleared : (app.handle req w).2.state ≠ w.state →
      ∃ account route requirement, app.Cleared req w account route requirement := by
    intro hchanged
    obtain ⟨hverb, user, route, requirement, hpasses⟩ := passes_of_changed hchanged
    obtain ⟨account, -, hcleared⟩ := cleared_of_passes hverb hpasses hchanged
    exact ⟨account, route, requirement, hcleared⟩
  refine ⟨hcleared, fun hverb => ?_, fun hnobody => ?_, fun route hroute hnone => ?_,
    fun account route requirement why hsender hroute hrequired hdenied => ?_⟩
  all_goals
    by_contra hchanged
  · exact (passes_of_changed hchanged).1 hverb
  all_goals obtain ⟨account', route', requirement', hcleared⟩ := hcleared hchanged
  · exact hnobody account' hcleared.sender
  · cases hroute.symm.trans hcleared.routed
    cases hnone.symm.trans hcleared.required
  · obtain rfl := hsender.unique hcleared.sender
    cases hroute.symm.trans hcleared.routed
    cases hrequired.symm.trans hcleared.required
    obtain ⟨clearance, hclearance⟩ := hcleared.cleared
    cases hdenied.symm.trans hclearance

/-- The administrator takes the role of a member, and was cleared for it. -/
theorem changed_only_if_cleared_administrator :
    (ofAdministrator.handle .takeRole (.withMemberOf "acme")).2.state ≠
        (World.withMemberOf "acme").state ∧
      ∃ account route requirement,
        ofAdministrator.Cleared .takeRole (.withMemberOf "acme") account route requirement := by
  have hpasses := @passes_of_permits ofAdministrator .takeRole (.withMemberOf "acme") _ rfl
    Request.takeRole_route .administrator rfl RuleCache.ofAdministrators_permits
  have htarget : (World.withMemberOf "acme").db.account? (Uuid.ofNat 4) =
      some (.memberOf "acme") := rfl
  have hpreflight : Request.takeRole.method ≠ "OPTIONS" := by decide
  have hafter := @reassigned_of_passes ofAdministrator .takeRole (.withMemberOf "acme") _ _
    (.memberOf "acme") _ rfl hpreflight _ _ hpasses Request.takeRole_account htarget
    Request.takeRole_content none rfl nofun
  have hchanged : (ofAdministrator.handle .takeRole (.withMemberOf "acme")).2.state ≠
      (World.withMemberOf "acme").state := by
    refine state_ne_of_role_ne htarget ?_
    rw [hafter]
    nofun
  exact ⟨hchanged, (changed_only_if_cleared _ _ _).1 hchanged⟩

end App

end Warrant.Http
