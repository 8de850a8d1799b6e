import Warrant.Proofs.Conditionality

/-!
# What of an account a decision depends on

Rules are the same for all accounts of a role until their templates are
replaced, and whatever comes after that looks at the rules alone. So an account
enters into its decisions in two ways: by the role that it holds, and by what
the paths of the templates in that role's conditions lead to. Two accounts that
agree in these have the same ability, whoever they are and whatever else is
known of them.

What is compared is the outcome of reading a path. If a path cannot be read from
one of two accounts it must not be readable from the other either, for then both
are left with the conditions as they were written. Which fault it was is of no
account.

A path is read hop by hop and only its first hop is read off the account, so
accounts need only agree in the attributes that the paths begin with.
-/

namespace Warrant

/-! ## Two users -/

namespace Conditions

/-- A path leads to the same value from two users, or to none from both. -/
def SameAt (user user' : Value) (path : String) : Prop :=
  (resolvePath user path).toOption = (resolvePath user' path).toOption

variable {user user' : Value}

theorem resolveItems_toOption (v : Value) (rest : List Value) :
    (resolveItems user (v :: rest)).toOption =
      (resolveValue user v).toOption.bind fun w =>
        (resolveItems user rest).toOption.map (w :: ·) := by
  rw [resolveItems]
  cases resolveValue user v with
  | error e => rfl
  | ok w => exact Fault.toOption_map _ _

theorem resolveEntries_toOption (k : String) (v : Value) (rest : List (String × Value)) :
    (resolveEntries user ((k, v) :: rest)).toOption =
      (resolveValue user v).toOption.bind fun w =>
        (resolveEntries user rest).toOption.map ((k, w) :: ·) := by
  rw [resolveEntries]
  cases resolveValue user v with
  | error e => rfl
  | ok w => exact Fault.toOption_map _ _

mutual

/-- A tree becomes the same for two users, or can be resolved for neither, if its templates do not
tell them apart. -/
theorem resolveValue_congr : ∀ v : Value, (∀ path ∈ wholePaths v, SameAt user user' path) →
    (resolveValue user v).toOption = (resolveValue user' v).toOption
  | .text s, h => by
      rw [resolveValue, resolveValue]
      cases hpath : Template.path? s with
      | none => rfl
      | some path => exact h path (by rw [wholePaths, hpath]; exact List.mem_singleton_self path)
  | .map es, h => by
      rw [wholePaths] at h
      rw [resolveValue, resolveValue, Fault.toOption_map, Fault.toOption_map,
        resolveEntries_congr es h]
  | .list items, h => by
      rw [wholePaths] at h
      rw [resolveValue, resolveValue, Fault.toOption_map, Fault.toOption_map,
        resolveItems_congr items h]
  | .tuple items, h => by
      rw [wholePaths] at h
      rw [resolveValue, resolveValue, Fault.toOption_map, Fault.toOption_map,
        resolveItems_congr items h]
  | .null, _ | .bool _, _ | .int _, _ | .double _, _ | .bytes _, _ | .uuid _, _
  | .unresolved, _ | .object .., _ | .entity .., _ | .resource .., _ => rfl

theorem resolveItems_congr : ∀ items : List Value,
    (∀ path ∈ wholePathsOfItems items, SameAt user user' path) →
    (resolveItems user items).toOption = (resolveItems user' items).toOption
  | [], _ => rfl
  | v :: rest, h => by
      rw [wholePathsOfItems, List.forall_mem_append] at h
      rw [resolveItems_toOption, resolveItems_toOption, resolveValue_congr v h.1,
        resolveItems_congr rest h.2]

theorem resolveEntries_congr : ∀ es : List (String × Value),
    (∀ path ∈ wholePathsOfEntries es, SameAt user user' path) →
    (resolveEntries user es).toOption = (resolveEntries user' es).toOption
  | [], _ => rfl
  | (k, v) :: rest, h => by
      rw [wholePathsOfEntries, List.forall_mem_append] at h
      rw [resolveEntries_toOption, resolveEntries_toOption, resolveValue_congr v h.1,
        resolveEntries_congr rest h.2]

end

theorem resolve_eq_getD (v : Value) : resolve user v = (resolveValue user v).toOption.getD v := by
  unfold resolve
  cases resolveValue user v <;> rfl

/-- Conditions read the same for two users whom their templates do not tell apart. -/
theorem resolve_congr {conditions : Value}
    (h : ∀ path ∈ wholePaths conditions, SameAt user user' path) :
    resolve user conditions = resolve user' conditions := by
  rw [resolve_eq_getD, resolve_eq_getD, resolveValue_congr conditions h]

end Conditions

theorem Rule.forUser_congr {user user' : Value} {r : Rule}
    (h : ∀ path ∈ Conditions.wholePaths r.conditions, Conditions.SameAt user user' path) :
    r.forUser user = r.forUser user' := by
  unfold forUser
  rw [Conditions.resolve_congr h]

theorem Ability.ofRules_congr {user user' : Value} {rules : List Rule}
    (h : ∀ r ∈ rules, ∀ path ∈ Conditions.wholePaths r.conditions,
      Conditions.SameAt user user' path) : ofRules user rules = ofRules user' rules := by
  unfold ofRules
  rw [List.map_congr_left fun r hr => Rule.forUser_congr (h r hr)]

/-! ## Two accounts -/

theorem Text.splitChars_ne_nil (sep : Char) (cs : List Char) : splitChars sep cs ≠ [] := by
  cases cs with
  | nil => exact List.cons_ne_nil [] []
  | cons c rest =>
      rw [splitChars]
      split
      · exact List.cons_ne_nil _ _
      · split <;> exact List.cons_ne_nil _ _

namespace Account

variable {a b : Account} {path : String}

/-- A path is read off an account by its first hop. -/
theorem at?_congr (h : ∀ hop, (Text.split '.' (Template.fromUser path)).head? = some hop →
    a.toValue.lookup hop = b.toValue.lookup hop) : a.at? path = b.at? path := by
  unfold at? Value.walk
  cases hhops : Text.split '.' (Template.fromUser path) with
  | nil => exact absurd (List.map_eq_nil_iff.mp hhops) (Text.splitChars_ne_nil _ _)
  | cons hop rest =>
      have hfirst := h hop (by rw [hhops]; rfl)
      rw [Value.walkHops, Value.walkHops, hfirst]
      rfl

theorem sameAt_of_at?_eq (h : a.at? path = b.at? path) :
    Conditions.SameAt a.toValue b.toValue path := by
  unfold Conditions.SameAt
  cases ha : a.at? path with
  | error e =>
      rw [Conditions.resolvePath_error ha, Conditions.resolvePath_error (h.symm.trans ha)]
  | ok v => rw [Conditions.resolvePath_account ha, Conditions.resolvePath_account (h.symm.trans ha)]

end Account

/-- Two accounts of one role which the templates in the cached conditions of the role do not tell
apart. -/
structure RuleCache.Alike (c : RuleCache) (a b : Account) : Prop where
  role : a.roleId = b.roleId
  templates : ∀ rules, c.source a.roleId = some rules → ∀ r ∈ rules,
    ∀ path ∈ Conditions.wholePaths r.conditions, Conditions.SameAt a.toValue b.toValue path

namespace RuleCache

variable {c : RuleCache} {a b : Account}

/-- Accounts of one role are alike if they agree in the attributes with which the paths of the
templates begin. -/
theorem Alike.of_hops (hrole : a.roleId = b.roleId)
    (hhops : ∀ rules, c.source a.roleId = some rules → ∀ r ∈ rules,
      ∀ path ∈ Conditions.wholePaths r.conditions,
      ∀ hop, (Text.split '.' (Template.fromUser path)).head? = some hop →
        a.toValue.lookup hop = b.toValue.lookup hop) : c.Alike a b :=
  ⟨hrole, fun rules hrules r hr path hpath =>
    Account.sameAt_of_at?_eq (Account.at?_congr (hhops rules hrules r hr path hpath))⟩

/-- The ability of an account is that of its role, if the role is in the cache. -/
theorem compile_eq_map (c : RuleCache) (a : Account) :
    c.compile a = (c.source a.roleId).map (Ability.ofRules a.toValue) := by
  unfold compile RuleSource.compile Account.roleId
  cases a.role with
  | none => rfl
  | some held => rfl

theorem Alike.compile_eq (h : c.Alike a b) : c.compile a = c.compile b := by
  rw [compile_eq_map, compile_eq_map, ← h.role]
  cases hrules : c.source a.roleId with
  | none => rfl
  | some rules => exact congrArg some (Ability.ofRules_congr (h.templates rules hrules))

/-- Accounts that are alike by their role and its templates have one ability or none. All checks of
them come out the same, and by rules of the same permission, whatever the accounts have besides. -/
theorem Alike.same_decisions (h : c.Alike a b) (action subject field : Value) :
    c.permits a action subject field = c.permits b action subject field ∧
    (c.compile a).isSome = (c.compile b).isSome ∧
    ∀ A B, c.compile a = some A → c.compile b = some B →
      (A.decide action subject field).allowed = (B.decide action subject field).allowed ∧
      (A.decide action subject field).rule.map Rule.permissionId =
        (B.decide action subject field).rule.map Rule.permissionId := by
  have hcompile : c.source.compile a = c.source.compile b := h.compile_eq
  refine ⟨?_, congrArg Option.isSome hcompile, fun A B hA hB => ?_⟩
  · unfold permits RuleSource.permits
    rw [hcompile]
  · obtain rfl : A = B := Option.some.inj (hA.symm.trans (h.compile_eq.trans hB))
    exact ⟨rfl, rfl⟩

/-- A reader of the blue team. -/
def ofBlueTeam : Account := { Account.teamless with attributes := .map [("team", .text "blue")] }

/-- Another reader of the team, with an address and away. -/
def ofBlueTeamAway : Account := { Account.teamless with
  id := .uuid (Uuid.ofNat 4), email := .text "ada@example.org"
  attributes := .map [("away", .bool true), ("team", .text "blue")] }

/-- Readers of one team are alike, and what the one may read so may the other. -/
theorem Alike.same_decisions_teammates :
    (ofReader .ownTeam).Alike ofBlueTeam ofBlueTeamAway ∧
      (ofReader .ownTeam).permits ofBlueTeamAway (.text "read")
        (.resource (.text "account") (.map [("team", .text "blue")])) .null = true := by
  have halike : (ofReader .ownTeam).Alike ofBlueTeam ofBlueTeamAway := by
    refine Alike.of_hops rfl fun rules hrules r hr path hpath hop hhop => ?_
    obtain rfl : [Rule.toReadAccounts .ownTeam] = rules := Option.some.inj hrules
    obtain rfl := List.mem_singleton.mp hr
    have hown : Conditions.wholePaths Value.ownTeam = ["user.team"] := by decide +kernel
    obtain rfl : path = "user.team" := List.mem_singleton.mp (hown ▸ hpath)
    have hteam : (Text.split '.' (Template.fromUser "user.team")).head? = some "team" := by
      decide +kernel
    obtain rfl : "team" = hop := Option.some.inj (hteam.symm.trans hhop)
    rfl
  refine ⟨halike, ?_⟩
  rw [← (halike.same_decisions (.text "read")
    (.resource (.text "account") (.map [("team", .text "blue")])) .null).1]
  decide +kernel

end RuleCache

end Warrant
