import Mathlib.Data.List.Forall2
import Warrant.Proofs.Resolving

/-!
# What a tree of conditions becomes

Resolving is a program that rebuilds a tree. What comes of it can be said without
the program, place by place: a template becomes what its path leads to from the
account, another leaf stays, a mapping keeps its keys, and a sequence its length
and its order.

`Conditions.resolveValue_eq_ok_iff` says that this is what resolving does, and
all that it does. What is left is when it succeeds: if every template that stands
in the tree can be read.
-/

namespace Warrant

/-- Whether a value is a leaf of a tree other than a text. -/
def Value.isBareLeaf : Value → Bool
  | .text _ => false
  | .bytes _ => false
  | .list _ => false
  | .tuple _ => false
  | .map _ => false
  | _ => true

/-- What a tree becomes for an account. -/
inductive Resolved (account : Account) : Value → Value → Prop where
  /-- A template becomes what its path leads to, which is unresolved if it leads nowhere. -/
  | template {s path : String} {v : Value} (written : Template.Writes s path)
      (leads : account.at? path = .ok v) : Resolved account (.text s) v
  /-- A text that is written as no template stays. -/
  | text {s : String} (plain : ∀ path, ¬ Template.Writes s path) :
      Resolved account (.text s) (.text s)
  /-- A leaf that is no text stays. -/
  | leaf {v : Value} (bare : v.isBareLeaf = true) : Resolved account v v
  /-- A list has as many items as before, each for the one that stood in its place. -/
  | list {items items' : List Value} (each : List.Forall₂ (Resolved account) items items') :
      Resolved account (.list items) (.list items')
  /-- Any other sequence becomes a list in the same way. -/
  | tuple {items items' : List Value} (each : List.Forall₂ (Resolved account) items items') :
      Resolved account (.tuple items) (.list items')
  /-- Octets are a sequence of numbers. -/
  | bytes {octets : List UInt8} :
      Resolved account (.bytes octets) (.list (octets.map fun b => .int b.toNat))
  /-- A mapping has the same keys in the same order, each with what its value becomes. -/
  | map {es es' : List (String × Value)} (keys : es'.map Prod.fst = es.map Prod.fst)
      (each : List.Forall₂ (Resolved account) (es.map Prod.snd) (es'.map Prod.snd)) :
      Resolved account (.map es) (.map es')

namespace Conditions

variable {account : Account}

theorem resolvePath_eq_ok_iff {path : String} {v : Value} :
    resolvePath account.toValue path = .ok v ↔ account.at? path = .ok v := by
  refine ⟨fun h => ?_, resolvePath_account⟩
  cases hat : account.at? path with
  | error e =>
      rw [resolvePath_error hat] at h
      cases h
  | ok w => rw [← h, resolvePath_account hat]

/-! ## Soundness -/

mutual

/-- A tree that can be resolved has become what it should. -/
theorem resolved_of_resolveValue : ∀ v w : Value, resolveValue account.toValue v = .ok w →
    Resolved account v w
  | .text s, w, h => by
      rw [resolveValue] at h
      split at h
      · next path hpath =>
          exact .template (Template.path?_eq_some_iff.mp hpath) (resolvePath_eq_ok_iff.mp h)
      · next hpath =>
          cases h
          exact .text (Template.path?_eq_none_iff.mp hpath)
  | .map es, w, h => by
      obtain ⟨es', rfl, hes⟩ := resolveValue_map h
      exact .map (resolveEntries_keys hes) (resolved_of_resolveEntries es es' hes)
  | .list items, w, h => by
      rw [resolveValue] at h
      obtain ⟨items', rfl, hitems⟩ := resolveItems_map_list h
      exact .list (resolved_of_resolveItems items items' hitems)
  | .tuple items, w, h => by
      rw [resolveValue] at h
      obtain ⟨items', rfl, hitems⟩ := resolveItems_map_list h
      exact .tuple (resolved_of_resolveItems items items' hitems)
  | .bytes octets, w, h => by
      cases h
      exact .bytes
  | .null, _, h | .bool _, _, h | .int _, _, h | .double _, _, h | .uuid _, _, h
  | .unresolved, _, h | .object .., _, h | .entity .., _, h | .resource .., _, h => by
      cases h
      exact .leaf rfl

theorem resolved_of_resolveItems : ∀ items items' : List Value,
    resolveItems account.toValue items = .ok items' →
    List.Forall₂ (Resolved account) items items'
  | [], _, h => by
      cases h
      exact .nil
  | v :: rest, _, h => by
      obtain ⟨w, more, hv, hrest, rfl⟩ := resolveItems_cons.mp h
      exact .cons (resolved_of_resolveValue v w hv) (resolved_of_resolveItems rest more hrest)

theorem resolved_of_resolveEntries : ∀ es es' : List (String × Value),
    resolveEntries account.toValue es = .ok es' →
    List.Forall₂ (Resolved account) (es.map Prod.snd) (es'.map Prod.snd)
  | [], _, h => by
      cases h
      exact .nil
  | (k, v) :: rest, _, h => by
      obtain ⟨w, more, hv, hrest, rfl⟩ := resolveEntries_cons.mp h
      exact .cons (resolved_of_resolveValue v w hv) (resolved_of_resolveEntries rest more hrest)

end

/-! ## Completeness -/

mutual

/-- What a tree should become is what resolving makes of it. -/
theorem resolveValue_of_resolved : ∀ v w : Value, Resolved account v w →
    resolveValue account.toValue v = .ok w
  | .text s, w, h => by
      rw [resolveValue]
      cases h with
      | template written leads =>
          rw [Template.path?_eq_some_iff.mpr written]
          exact resolvePath_account leads
      | text plain => rw [Template.path?_eq_none_iff.mpr plain]
      | leaf bare => cases bare
  | .map es, _, h => by
      cases h with
      | @map _ es' keys each =>
          rw [resolveValue, resolveEntries_of_resolved es es' keys each]
          rfl
      | leaf bare => cases bare
  | .list items, _, h => by
      cases h with
      | @list _ items' each =>
          rw [resolveValue, resolveItems_of_resolved items items' each]
          rfl
      | leaf bare => cases bare
  | .tuple items, _, h => by
      cases h with
      | @tuple _ items' each =>
          rw [resolveValue, resolveItems_of_resolved items items' each]
          rfl
      | leaf bare => cases bare
  | .bytes octets, _, h => by
      cases h with
      | bytes => rfl
      | leaf bare => cases bare
  | .null, _, h | .bool _, _, h | .int _, _, h | .double _, _, h | .uuid _, _, h
  | .unresolved, _, h | .object .., _, h | .entity .., _, h | .resource .., _, h => by
      cases h
      rfl

theorem resolveItems_of_resolved : ∀ items items' : List Value,
    List.Forall₂ (Resolved account) items items' →
    resolveItems account.toValue items = .ok items'
  | [], _, h => by
      cases h
      rfl
  | v :: rest, _, h => by
      cases h with
      | @cons _ w _ more hv hrest =>
          exact resolveItems_cons.mpr ⟨w, more, resolveValue_of_resolved v w hv,
            resolveItems_of_resolved rest more hrest, rfl⟩

theorem resolveEntries_of_resolved : ∀ es es' : List (String × Value),
    es'.map Prod.fst = es.map Prod.fst →
    List.Forall₂ (Resolved account) (es.map Prod.snd) (es'.map Prod.snd) →
    resolveEntries account.toValue es = .ok es'
  | [], [], _, _ => rfl
  | [], _ :: _, _, h => by cases h
  | _ :: _, [], _, h => by cases h
  | (k, v) :: rest, (k', w) :: more, hkeys, h => by
      obtain ⟨rfl, htail⟩ := List.cons.inj hkeys
      cases h with
      | cons hv hrest =>
          exact resolveEntries_cons.mpr ⟨w, more, resolveValue_of_resolved v w hv,
            resolveEntries_of_resolved rest more htail hrest, rfl⟩

end

/-- Resolving succeeds with what a tree should become, and with nothing else. -/
theorem resolveValue_eq_ok_iff {v w : Value} :
    resolveValue account.toValue v = .ok w ↔ Resolved account v w :=
  ⟨resolved_of_resolveValue v w, resolveValue_of_resolved v w⟩

/-! ## When resolving succeeds -/

/-- Every template that stands in a tree can be read. -/
def Readable (account : Account) (paths : List String) : Prop :=
  ∀ path ∈ paths, ∃ v, account.at? path = .ok v

mutual

/-- A tree whose templates can all be read becomes something. -/
theorem exists_resolved : ∀ v : Value, Readable account (wholePaths v) →
    ∃ w, resolveValue account.toValue v = .ok w
  | .text s, h => by
      rw [resolveValue]
      rw [wholePaths] at h
      split
      · next path hpath =>
          obtain ⟨v, hv⟩ := h path (by rw [hpath]; exact List.mem_singleton_self path)
          exact ⟨v, resolvePath_account hv⟩
      · exact ⟨_, rfl⟩
  | .map es, h => by
      obtain ⟨es', hes⟩ := exists_resolvedEntries es (by rwa [wholePaths] at h)
      exact ⟨.map es', by rw [resolveValue, hes]; rfl⟩
  | .list items, h | .tuple items, h => by
      obtain ⟨items', hitems⟩ := exists_resolvedItems items (by rwa [wholePaths] at h)
      exact ⟨.list items', by rw [resolveValue, hitems]; rfl⟩
  | .null, _ | .bool _, _ | .int _, _ | .double _, _ | .bytes _, _ | .uuid _, _
  | .unresolved, _ | .object .., _ | .entity .., _ | .resource .., _ => ⟨_, rfl⟩

theorem exists_resolvedItems : ∀ items : List Value, Readable account (wholePathsOfItems items) →
    ∃ items', resolveItems account.toValue items = .ok items'
  | [], _ => ⟨[], rfl⟩
  | v :: rest, h => by
      rw [wholePathsOfItems] at h
      obtain ⟨w, hw⟩ := exists_resolved v fun path hpath => h path (List.mem_append_left _ hpath)
      obtain ⟨more, hmore⟩ :=
        exists_resolvedItems rest fun path hpath => h path (List.mem_append_right _ hpath)
      exact ⟨w :: more, resolveItems_cons.mpr ⟨w, more, hw, hmore, rfl⟩⟩

theorem exists_resolvedEntries : ∀ es : List (String × Value),
    Readable account (wholePathsOfEntries es) →
    ∃ es', resolveEntries account.toValue es = .ok es'
  | [], _ => ⟨[], rfl⟩
  | (k, v) :: rest, h => by
      rw [wholePathsOfEntries] at h
      obtain ⟨w, hw⟩ := exists_resolved v fun path hpath => h path (List.mem_append_left _ hpath)
      obtain ⟨more, hmore⟩ :=
        exists_resolvedEntries rest fun path hpath => h path (List.mem_append_right _ hpath)
      exact ⟨(k, w) :: more, resolveEntries_cons.mpr ⟨w, more, hw, hmore, rfl⟩⟩

end

/-- Conditions whose templates can all be read from an account are resolved to what they become for
it, and to nothing else. A text in them is replaced if it is written as a template, and only then. -/
theorem resolve_eq_iff {conditions w : Value}
    (h : Readable account (wholePaths conditions)) :
    resolve account.toValue conditions = w ↔ Resolved account conditions w := by
  obtain ⟨v, hv⟩ := exists_resolved conditions h
  have hresolve : resolve account.toValue conditions = v := by
    unfold resolve
    rw [hv]
  rw [hresolve, ← resolveValue_eq_ok_iff, hv, Except.ok.injEq]

end Conditions

/-! ### A member of the blue team -/

def Account.ofBlueTeam : Account where
  id := .uuid (Uuid.ofNat 1)
  email := .null
  externalId := .null
  role := none
  attributes := .map [("team", .text "blue")]

/-- A template among the items of a list, one of a path that leads nowhere, and a text that has
something before the template. -/
def Value.ofTeamTags : Value :=
  .map [("tags", .list [.text (Template.whole "user.team"), .text "fixed", .null]),
    ("company", .text (Template.whole " companyId ")),
    ("note", .text ("team " ++ Template.whole "user.team"))]

theorem Conditions.resolve_ofTeamTags :
    Readable .ofBlueTeam (wholePaths .ofTeamTags) ∧
      resolve Account.ofBlueTeam.toValue .ofTeamTags =
        .map [("tags", .list [.text "blue", .text "fixed", .null]), ("company", .unresolved),
          ("note", .text ("team " ++ Template.whole "user.team"))] := by
  have hteam : Account.ofBlueTeam.at? "user.team" = .ok (.text "blue") := rfl
  have hcompany : Account.ofBlueTeam.at? " companyId " = .ok .unresolved := rfl
  have hpaths : wholePaths .ofTeamTags = ["user.team", " companyId "] := by decide +kernel
  have hreadable : Readable .ofBlueTeam (wholePaths .ofTeamTags) := by
    rw [hpaths]
    intro path hpath
    simp only [List.mem_cons, List.not_mem_nil, or_false] at hpath
    rcases hpath with rfl | rfl
    · exact ⟨_, hteam⟩
    · exact ⟨_, hcompany⟩
  refine ⟨hreadable, (resolve_eq_iff hreadable).mpr (.map rfl ?_)⟩
  have hnone : ∀ s : String, Template.path? s = none → Resolved .ofBlueTeam (.text s) (.text s) :=
    fun s hs => .text (Template.path?_eq_none_iff.mp hs)
  have htags : Resolved .ofBlueTeam
      (.list [.text (Template.whole "user.team"), .text "fixed", .null])
      (.list [.text "blue", .text "fixed", .null]) := by
    refine .list (.cons (.template ⟨by decide, by decide, Or.inl rfl⟩ hteam) (.cons ?_ ?_))
    · exact hnone _ (by decide +kernel)
    · exact .cons (.leaf rfl) .nil
  refine .cons htags (.cons (.template ⟨by decide, by decide, Or.inl rfl⟩ hcompany) (.cons ?_ .nil))
  exact hnone _ (by decide +kernel)

/-- A line end after a template is lost with it, and two templates in one text are one, of a path that
leads nowhere, though neither text is the template of a path without a closing brace. -/
theorem Conditions.misread_texts :
    (∀ s ∈ [Template.whole "user.team" ++ "\n",
        Template.whole "user.team" ++ Template.whole "user.team"],
      ¬ ∃ path : String, path ≠ "" ∧ '\n' ∉ path.toList ∧ Template.close ∉ path.toList ∧
        s = Template.whole path) ∧
      resolve Account.ofBlueTeam.toValue
          (.map [("team", .text (Template.whole "user.team" ++ "\n"))]) =
        .map [("team", .text "blue")] ∧
      resolve Account.ofBlueTeam.toValue
          (.map [("team", .text (Template.whole "user.team" ++ Template.whole "user.team"))]) =
        .map [("team", .unresolved)] := by
  refine ⟨fun s hs => ?_, rfl, rfl⟩
  rintro ⟨path, hpath, hline, hclose, rfl⟩
  -- The path of a text is the one that is read, and here that is another one.
  have hread := Template.path?_whole hpath hline
  simp only [List.mem_cons, List.not_mem_nil, or_false] at hs
  rcases hs with hs | hs
  · have hother : Template.path? (Template.whole "user.team" ++ "\n") = some "user.team" := by
      decide +kernel
    rw [← hs, hread, Option.some.injEq] at hother
    rw [hother] at hs
    exact absurd hs (by decide +kernel)
  · have hother : Template.path? (Template.whole "user.team" ++ Template.whole "user.team") =
        some "user.team\x7d$\x7buser.team" := by decide +kernel
    rw [← hs, hread, Option.some.injEq] at hother
    rw [hother] at hclose
    exact absurd (by decide +kernel) hclose

end Warrant
