import Warrant.Proofs.Admission
import Warrant.Proofs.Changes
import Warrant.Proofs.Recording
import Warrant.Proofs.Requests
import Warrant.Proofs.Resolving

/-!
# Who gives an account another role

The request that gives an account another role requires the right to update the
role of accounts, and requires it by name: which account it is nobody asks. The
sibling that shows an account does ask, with the account as a resource.

So a change of role proves the right by name and no more, and the right by name
is all that it takes. How much is missing to the right over the account itself
can be said exactly: some grant has to be met by the account, and no forbid with
conditions may be. An administrator whose grant is for one company can change
the roles of accounts of any other.
-/

namespace Warrant

/-! ## The tables afterwards -/

namespace Database

variable {db db' : Database} {id : Uuid}

theorem Logged.account? (h : db.Logged db') : db'.account? id = db.account? id := by
  rcases h with rfl | ⟨e, rfl⟩
  · rfl
  · rfl

theorem roleOf_of_hasRole {r : Uuid} (h : db.hasRole r = true) :
    ∃ held, db.roleOf r = some held ∧ held.id = .uuid r := by
  obtain ⟨row, hrow, hid⟩ := hasRole_iff.mp h
  have hsome : (db.roles.find? fun row => row.id = r).isSome = true := by
    rw [List.find?_isSome]
    exact ⟨row, hrow, decide_eq_true hid⟩
  obtain ⟨first, hfirst⟩ := Option.isSome_iff_exists.mp hsome
  have hkey : first.id = r := by simpa using List.find?_some hfirst
  refine ⟨(first.withPermissions []).held, ?_, congrArg Value.uuid hkey⟩
  unfold roleOf
  rw [hfirst, Option.map_some]

/-- An account shows the role that it was given, if that role is there. -/
theorem account?_setAccountRole {roleId : Option Uuid} {target : Account}
    (htarget : db.account? id = some target)
    (hroles : ∀ r, roleId = some r → db.hasRole r = true) :
    ((db.setAccountRole id roleId).account? id).map Account.roleId =
      some (.ofOption .uuid roleId) := by
  obtain ⟨row, hrow, -⟩ := Option.map_eq_some_iff.mp htarget
  have hid : row.id = id := by simpa using List.find?_some hrow
  have hsame : ((fun row : AccountRow => decide (row.id = id)) ∘ fun row =>
      if row.id = id then { row with roleId } else row) = fun row => decide (row.id = id) := by
    funext other
    rw [Function.comp_apply]
    split <;> rfl
  have hfound : (db.setAccountRole id roleId).account? id =
      some (db.readAccount { row with roleId }) := by
    unfold Database.account? setAccountRole
    dsimp only
    rw [List.find?_map, hsame, hrow, Option.map_some, Option.map_some, if_pos hid]
    rfl
  rw [hfound, Option.map_some]
  cases roleId with
  | none => rfl
  | some r =>
      obtain ⟨held, hheld, hkey⟩ := roleOf_of_hasRole (hroles r rfl)
      unfold readAccount Account.roleId
      dsimp only
      rw [Option.bind_some, hheld]
      exact congrArg some hkey

end Database

/-- If no step fails, an account that is there has the role that it is given, whether or not that
is recorded. -/
theorem Mutation.reassignRole_apply {w : World} (hsound : w.faults = FaultPlan.none) {id : Uuid}
    {roleId : Option Uuid} {target : Account} (caller : Caller)
    (htarget : w.db.account? id = some target)
    (hroles : ∀ r, roleId = some r → w.db.hasRole r = true) :
    ((reassignRole id roleId caller w).2.db.account? id).map Account.roleId =
      some (.ofOption .uuid roleId) := by
  obtain ⟨⟨account, role⟩, w₁, hassign⟩ := assign_apply hsound htarget hroles
  have hdb := ((assign_atomic id roleId).ok hassign).2.2.2
  have hlogged := Audit.append_logged
    (.reassigned caller (.uuid id) account.roleId (.ofOption .uuid roleId)) w₁
  obtain ⟨found, hrecord⟩ := Audit.record_apply
    (.reassigned caller (.uuid id) account.roleId (.ofOption .uuid roleId)) w₁
  unfold reassignRole
  rw [Work.bind_apply, hassign]
  dsimp only
  rw [Work.bind_apply, hrecord]
  dsimp only
  rw [Work.pure_apply]
  dsimp only
  rw [hlogged.account?, hdb]
  exact Database.account?_setAccountRole htarget hroles

/-! ## The request -/

namespace Http.App

variable {app : App} {req : Request} {w : World} {segment : String} {id : Uuid} {target : Account}
  {es : List (String × Value)}

theorem state_ne_of_role_ne (htarget : w.db.account? id = some target) {w' : World}
    (h : (w'.db.account? id).map Account.roleId ≠ some target.roleId) : w'.state ≠ w.state := by
  intro hsame
  rw [(World.state_eq.mp hsame).1, htarget] at h
  exact h rfl

/-- Who has passed to this operation may update the role of accounts by name. -/
theorem allowed_of_passes {user : Option Account} {route : Route} {requirement : Requirement}
    (hverb : req.method = "PUT") (hroute : Route.ofPath? req.path = some (.accountRole segment))
    (h : app.Passes req w user route requirement) :
    ∃ caller ability, user = some caller ∧ w.cache.compile caller = some ability ∧
      ability.can (.text "update") (.text "account") (.text "role") = true := by
  obtain ⟨-, hrouted, hrequired, clearance, hcleared⟩ := h
  rw [hroute] at hrouted
  cases hrouted
  rw [hverb] at hrequired
  cases hrequired
  obtain ⟨caller, s, rfl, hsubject, hpermits⟩ := Guard.authorize_ok rfl hcleared
  cases hsubject
  obtain ⟨ability, hability, hcan⟩ := RuleSource.permits_eq_true_iff.mp hpermits
  exact ⟨caller, ability, rfl, hability, hcan⟩

/-- An account with attributes is a resource with attributes. -/
theorem accountResource_of_map (h : target.attributes = .map es) :
    ∃ attributes, Operation.accountResource target = .ok (.resource (.text "account") attributes) ∧
      attributes.isNull = false := by
  unfold Operation.accountResource
  rw [h]
  exact ⟨_, rfl, rfl⟩

/-- What the route requires of the one who gives an account another role. -/
theorem passes_of_permits (hverb : req.method = "PUT")
    (hroute : Route.ofPath? req.path = some (.accountRole segment)) {caller : Account}
    (hsender : (Identity.authenticate app.introspection req w).1 = .ok (some caller))
    (hpermits : w.cache.permits caller (.text "update") (.text "account") (.text "role") = true) :
    app.Passes req w (some caller) (.accountRole segment)
      { action := .update, field := some "role" } := by
  refine ⟨hsender, hroute, ?_, ?_⟩
  · rw [hverb]
    rfl
  · exact Guard.authorize_of_permits rfl hpermits

/-- What has passed is carried out, whichever account it is. -/
theorem reassigned_of_passes (hsound : w.faults = FaultPlan.none) (hverb : req.method ≠ "OPTIONS")
    {user : Option Account} {requirement : Requirement}
    (hpasses : app.Passes req w user (.accountRole segment) requirement)
    (hid : Uuid.read? segment = some id) (htarget : w.db.account? id = some target)
    (hbody : req.content = .object es) {roleId : Option Uuid}
    (hasked : Operation.roleAsked es = .ok roleId)
    (hroles : ∀ r, roleId = some r → w.db.hasRole r = true) :
    ((app.handle req w).2.db.account? id).map Account.roleId = some (.ofOption .uuid roleId) := by
  rw [handle_of_passes hverb hpasses]
  have hdb := (World.state_eq.mp (Identity.authenticate_keeps app.introspection req w)).1
  have hsound' := (Identity.authenticate_faults app.introspection req w).trans hsound
  generalize (Identity.authenticate app.introspection req w).2 = w₁ at hdb hsound'
  rw [← hdb] at htarget hroles
  have hoperate : (app.operate (.accountRole segment) req user w₁).2 =
      (Mutation.reassignRole id roleId (req.caller user) w₁).2 := by
    show (Operation.reassignRole segment req (req.caller user) w₁).2 = _
    unfold Operation.reassignRole Operation.withId Operation.withContent
    rw [hid]
    dsimp only
    rw [hbody]
    dsimp only [Option.getD_some]
    rw [hasked]
    dsimp only
    rw [Work.bind_apply]
    rcases Mutation.reassignRole id roleId (req.caller user) w₁ with ⟨f | a, w₂⟩
    · rfl
    · rfl
  rw [hoperate]
  exact Mutation.reassignRole_apply hsound' _ htarget hroles

/-- What a change of the target's role proves about the sender: by the rules in the cache they may
update the role of accounts by name. The target itself, with its attributes as the sibling views
them, is theirs to update exactly if some grant admits it and no forbid with conditions bars it. -/
structure AllowedByName (app : App) (req : Request) (w : World) (target : Account)
    (caller : Account) (ability : Ability) (attributes : Value) : Prop where
  sender : (Identity.authenticate app.introspection req w).1 = .ok (some caller)
  compiled : w.cache.compile caller = some ability
  named : ability.can (.text "update") (.text "account") (.text "role") = true
  viewed : Operation.accountResource target = .ok (.resource (.text "account") attributes)
  reached :
    ability.can (.text "update") (.resource (.text "account") attributes) (.text "role") = true ↔
      (∃ r ∈ ability.rules, r.Admits (.text "update") "account" (.text "role") attributes) ∧
      ∀ r ∈ ability.rules, ¬ r.Bars (.text "update") "account" (.text "role") attributes

/-- The role of an account is given and taken by who may update the role of accounts by name, and
whether they may update that of the account itself makes no difference. -/
theorem reassigned_by_name (hverb : req.method = "PUT")
    (hroute : Route.ofPath? req.path = some (.accountRole segment))
    (hid : Uuid.read? segment = some id) (htarget : w.db.account? id = some target)
    (hattributes : target.attributes = .map es) :
    (((app.handle req w).2.db.account? id).map Account.roleId ≠ some target.roleId →
      ∃ caller ability attributes, app.AllowedByName req w target caller ability attributes) ∧
    ∀ (caller : Account) (body : List (String × Value)) (roleId : Option Uuid),
      (Identity.authenticate app.introspection req w).1 = .ok (some caller) →
      w.cache.permits caller (.text "update") (.text "account") (.text "role") = true →
      req.content = .object body → Operation.roleAsked body = .ok roleId →
      (∀ r, roleId = some r → w.db.hasRole r = true) → w.faults = FaultPlan.none →
      ((app.handle req w).2.db.account? id).map Account.roleId = some (.ofOption .uuid roleId) := by
  constructor
  · intro hchanged
    obtain ⟨-, user, route, requirement, hpasses⟩ :=
      passes_of_changed (state_ne_of_role_ne htarget hchanged)
    obtain ⟨caller, ability, rfl, hability, hcan⟩ := allowed_of_passes hverb hroute hpasses
    obtain ⟨attributes, hresource, hpresent⟩ := accountResource_of_map hattributes
    exact ⟨caller, ability, attributes, hpasses.sender, hability, hcan, hresource,
      Ability.can_resource_iff_of_can_named hpresent hcan⟩
  · intro caller body roleId hsender hpermits hbody hasked hroles hsound
    have hpreflight : req.method ≠ "OPTIONS" := by
      rw [hverb]
      decide
    exact reassigned_of_passes hsound hpreflight (passes_of_permits hverb hroute hsender hpermits)
      hid htarget hbody hasked hroles

end Http.App

/-! ## An administrator of one company

Administrators may update the roles of the accounts of their company. One of them takes the role of
someone who is a member of some company. -/

def RuleCache.ofAdministrators : RuleCache where
  initialized := true
  entries :=
    [(Uuid.ofNat 1,
      [{ actions := [.text "update"], subjects := [.text "account"], fields := some [.text "role"]
         conditions := .map [("companyId", .text (Template.whole "user.companyId"))]
         inverted := false, reason := .null, permissionId := .null }])]

def World.withMemberOf (company : String) : World where
  db := ⟨[⟨Uuid.ofNat 1, "administrator", none, none⟩, ⟨Uuid.ofNat 2, "member", none, none⟩], [],
    [⟨Uuid.ofNat 3, .null, .text "ada", some (Uuid.ofNat 1), .map [("companyId", .text "acme")]⟩,
     ⟨Uuid.ofNat 4, .null, .text "bob", some (Uuid.ofNat 2), .map [("companyId", .text company)]⟩],
    []⟩
  cache := .ofAdministrators
  clock := ⟨⟨0, some 0⟩, 1⟩
  issued := 0
  steps := 0
  faults := FaultPlan.none

def Account.administrator : Account where
  id := .uuid (Uuid.ofNat 3)
  email := .null
  externalId := .text "ada"
  role := some ⟨.uuid (Uuid.ofNat 1), .text "administrator", .null, []⟩
  attributes := .map [("companyId", .text "acme")]

def Account.memberOf (company : String) : Account where
  id := .uuid (Uuid.ofNat 4)
  email := .null
  externalId := .text "bob"
  role := some ⟨.uuid (Uuid.ofNat 2), .text "member", .null, []⟩
  attributes := .map [("companyId", .text company)]

theorem RuleCache.ofAdministrators_permits :
    ofAdministrators.permits .administrator (.text "update") (.text "account") (.text "role") =
      true := by decide +kernel

namespace Http

/-- A service to which every token is the administrator's. -/
def App.ofAdministrator : App :=
  ⟨{}, some fun _ => some (.map [("active", .bool true), ("sub", .text "ada")])⟩

namespace Request

def takeRole : Request where
  method := "PUT"
  path := "/v1/accounts/00000000-0000-0000-0000-000000000004/role"
  query := ""
  headers := [("authorization", "Bearer token")]
  body := some "\x7b\"role_id\": null\x7d"
  remoteAddress := "127.0.0.1"

theorem takeRole_route : Route.ofPath? takeRole.path =
    some (.accountRole "00000000-0000-0000-0000-000000000004") := by decide +kernel

theorem takeRole_account :
    Uuid.read? "00000000-0000-0000-0000-000000000004" = some (Uuid.ofNat 4) := by decide +kernel

/-- Whether what was read of a body takes the role away, and says nothing else. -/
def takesRole : Except Fault Value → Bool
  | .ok (.map [(key, .null)]) => key == "role_id"
  | _ => false

theorem takeRole_content : takeRole.content = .object [("role_id", .null)] := by
  have hread : takesRole (Json.read "\x7b\"role_id\": null\x7d") = true := by decide +kernel
  unfold takesRole at hread
  split at hread
  · next key hjson =>
      have htype : takeRole.contentType = "" := rfl
      -- Without a content type a body is in JSON.
      have hdefault : MediaType.ofHeader? "" = some .json := rfl
      unfold content readJson
      rw [htype, hdefault]
      dsimp only [takeRole, Option.getD_some]
      rw [hjson, beq_iff_eq.mp hread]
  · cases hread

end Request

namespace App

/-- The administrator takes the role of a member of their own company, and may. -/
theorem reassigned_by_name_own_company :
    ((ofAdministrator.handle .takeRole (.withMemberOf "acme")).2.db.account? (Uuid.ofNat 4)).map
        Account.roleId = some .null ∧
      ∃ caller ability attributes, ofAdministrator.AllowedByName .takeRole (.withMemberOf "acme")
        (.memberOf "acme") caller ability attributes := by
  have htarget : (World.withMemberOf "acme").db.account? (Uuid.ofNat 4) =
      some (.memberOf "acme") := rfl
  obtain ⟨hallowed, hdone⟩ := @reassigned_by_name ofAdministrator .takeRole (.withMemberOf "acme")
    _ _ _ _ rfl Request.takeRole_route Request.takeRole_account htarget rfl
  have hafter := hdone .administrator [("role_id", .null)] none rfl
    RuleCache.ofAdministrators_permits Request.takeRole_content rfl nofun rfl
  refine ⟨hafter, hallowed ?_⟩
  rw [hafter]
  nofun

/-- The administrator takes the role of a member of another company too, and may not. -/
theorem reassigned_across_companies :
    ((ofAdministrator.handle .takeRole (.withMemberOf "globex")).2.db.account? (Uuid.ofNat 4)).map
        Account.roleId = some .null ∧
      (Account.memberOf "globex").roleId = .uuid (Uuid.ofNat 2) ∧
      (Identity.authenticate ofAdministrator.introspection .takeRole (.withMemberOf "globex")).1 =
        .ok (some .administrator) ∧
      ∃ resource, Operation.accountResource (.memberOf "globex") = .ok resource ∧
        RuleCache.ofAdministrators.permits .administrator (.text "update") resource
          (.text "role") = false := by
  have hpasses := @passes_of_permits ofAdministrator .takeRole (.withMemberOf "globex") _ rfl
    Request.takeRole_route .administrator rfl RuleCache.ofAdministrators_permits
  have hpreflight : Request.takeRole.method ≠ "OPTIONS" := by decide
  have hafter := @reassigned_of_passes ofAdministrator .takeRole (.withMemberOf "globex") _ _
    (.memberOf "globex") _ rfl hpreflight _ _ hpasses Request.takeRole_account rfl
    Request.takeRole_content none rfl nofun
  exact ⟨hafter, rfl, rfl, _, rfl, by decide +kernel⟩

end App

end Http

end Warrant
