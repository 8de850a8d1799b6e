import Warrant.Http.App
import Warrant.Proofs.Decisions
import Warrant.Proofs.Work

/-!
# The way of a request to its operation

Nothing of the tables or the cache changes on the way: who sends a request is
found out by reading, the route is found in the path, and the guard is asked and
not told. So what a request changes is changed by an operation, and before the
operation comes everything that `Passes` lists. The verb of a preflight, a path
without a route, a verb without a requirement and a refusal of the guard all end
before that.
-/

namespace Warrant

/-- What is not for everyone the guard lets through to an account whose rules allow it. -/
theorem Guard.authorize_ok {rules : RuleSource} {user : Option Account} {r : Requirement}
    {default : Option Subject} {clearance : Clearance} (hprivate : r.isPublic = false)
    (h : authorize rules user r default = .ok clearance) :
    ∃ account s, user = some account ∧ (r.subject <|> default) = some s ∧
      rules.permits account (.text r.action.name) (.text s.name) (.ofOption .text r.field) =
        true := by
  unfold authorize at h
  rw [hprivate] at h
  cases user with
  | none => cases h
  | some account =>
      cases hsubject : (r.subject <|> default) with
      | none =>
          rw [hsubject] at h
          cases h
      | some s =>
          rw [hsubject] at h
          dsimp only at h
          split at h
          · next hprivate' => cases hprivate'
          · split at h
            · next hpermits => exact ⟨account, s, rfl, rfl, hpermits⟩
            · cases h

namespace Http

namespace Identity

variable (introspection : Option Introspection) (req : Request)

/-- To find out who sends a request is to read one account, if the request comes that far. -/
theorem keeps_of_read {σ : Type} {see : World → σ}
    (hread : ∀ name, Work.Keeps see (Work.transact (Store.accountKnownAs name))) :
    Work.Keeps see (authenticate introspection req) := by
  unfold authenticate
  split
  · next token ask htoken =>
      split
      · exact Work.Keeps.pure none
      · next answer hanswer =>
          refine Work.Keeps.bind (Work.Keeps.ofFault _) fun holder => ?_
          cases holder with
          | none => exact Work.Keeps.pure none
          | some name => exact hread name
  · exact Work.Keeps.pure none

theorem authenticate_keeps : Work.Keeps World.state (authenticate introspection req) :=
  keeps_of_read introspection req fun _ => Work.Keeps.transactReading (Work.Keeps.query _ _)

theorem authenticate_faults : Work.Keeps World.faults (authenticate introspection req) :=
  keeps_of_read introspection req fun _ =>
    Work.Keeps.transactBeside (fun _ _ => rfl) (fun _ _ => rfl)
      (Work.Keeps.queryBeside (fun _ _ => rfl) _ _)

end Identity

namespace App

variable {app : App} {req : Request} {w : World} {user : Option Account} {route : Route}

/-- What has come before the operation of a request: its sender is known, its path has a route, the
route has a requirement for its verb, and by the rules in the cache the guard lets the sender
through. -/
structure Passes (app : App) (req : Request) (w : World) (user : Option Account) (route : Route)
    (requirement : Requirement) : Prop where
  sender : (Identity.authenticate app.introspection req w).1 = .ok user
  routed : Route.ofPath? req.path = some route
  required : route.requirement? req.method = some requirement
  cleared : ∃ clearance,
    Guard.authorize w.cache.source user requirement route.subject? = .ok clearance

theorem guarded_cleared {requirement : Requirement} {clearance : Clearance}
    (hrequired : route.requirement? req.method = some requirement)
    (hcleared : Guard.authorize w.cache.source user requirement route.subject? = .ok clearance) :
    app.guarded route req user w = app.operate route req user w := by
  unfold guarded
  rw [hrequired]
  dsimp only
  rw [Work.ask_bind_apply, hcleared]

theorem cleared_of_guarded (h : (app.guarded route req user w).2 ≠ w) :
    ∃ requirement clearance, route.requirement? req.method = some requirement ∧
      Guard.authorize w.cache.source user requirement route.subject? = .ok clearance := by
  unfold guarded at h
  cases hrequired : route.requirement? req.method with
  | none =>
      rw [hrequired] at h
      exact absurd rfl h
  | some requirement =>
      rw [hrequired] at h
      dsimp only at h
      rw [Work.ask_bind_apply] at h
      cases hverdict : Guard.authorize w.cache.source user requirement route.subject? with
      | error why =>
          rw [hverdict] at h
          exact absurd rfl h
      | ok clearance => exact ⟨requirement, clearance, rfl, hverdict⟩

/-- What has passed is carried out, in the world in which its sender was found out. -/
theorem handle_of_passes {requirement : Requirement} (hverb : req.method ≠ "OPTIONS")
    (h : app.Passes req w user route requirement) :
    (app.handle req w).2 =
      (app.operate route req user (Identity.authenticate app.introspection req w).2).2 := by
  obtain ⟨clearance, hcleared⟩ := h.cleared
  have hstate := Identity.authenticate_keeps app.introspection req w
  rw [← (World.state_eq.mp hstate).2] at hcleared
  have hsender : Identity.authenticate app.introspection req w =
      (.ok user, (Identity.authenticate app.introspection req w).2) := Prod.ext h.sender rfl
  have hdispatch : app.dispatch req w = app.operate route req user
      (Identity.authenticate app.introspection req w).2 := by
    unfold dispatch
    rw [Work.bind_apply, hsender]
    dsimp only
    rw [h.routed]
    exact guarded_cleared h.required hcleared
  unfold handle
  rw [if_neg hverb, hdispatch]

/-- A request that changes the tables or the cache has passed. -/
theorem passes_of_changed (h : (app.handle req w).2.state ≠ w.state) :
    req.method ≠ "OPTIONS" ∧
      ∃ user route requirement, app.Passes req w user route requirement := by
  unfold handle at h
  split at h
  · exact absurd rfl h
  · next hverb =>
      refine ⟨hverb, ?_⟩
      dsimp only at h
      unfold dispatch at h
      rw [Work.bind_apply] at h
      rcases hsender : Identity.authenticate app.introspection req w with ⟨f | user, w₁⟩
      all_goals
        have hstate := (Identity.authenticate_keeps app.introspection req).after hsender
        rw [hsender] at h
      · exact absurd hstate h
      · dsimp only at h
        cases hroute : Route.ofPath? req.path with
        | none =>
            rw [hroute] at h
            exact absurd hstate h
        | some route =>
            rw [hroute] at h
            dsimp only at h
            have hmoved : (app.guarded route req user w₁).2 ≠ w₁ := by
              intro hsame
              rw [hsame] at h
              exact h hstate
            obtain ⟨requirement, clearance, hrequired, hcleared⟩ := cleared_of_guarded hmoved
            rw [(World.state_eq.mp hstate).2] at hcleared
            exact ⟨user, route, requirement, by rw [hsender], hroute, hrequired, clearance, hcleared⟩

end App

end Http

end Warrant
