import Warrant.Proofs.Conditionality
import Warrant.Proofs.Substitution

/-!
# What the diagnostics miss

Whoever writes conditions may ask beforehand which templates in them lead nowhere
for an account. The answer is meant to foretell the resolving: if no template is
missing, no unresolved value is left and the rule can be satisfied.

The two look at a text in their own ways. Resolving takes a text that is a template
as a whole up to its last brace, and the diagnostics end every template at the next
one. So they agree on a template as long as its path goes on to no further brace;
beyond that, the path that resolving walks is none of those that were looked at.
What the diagnostics cannot foresee besides is an unresolved value that was in the
conditions, or inside an attribute, from the start.

`Conditions.hasUnresolved_of_none_missing` says that there is nothing else.
-/

namespace Warrant

/-! ## Trimming twice -/

namespace Text

variable {blank : Char → Bool}

theorem dropTrailing_dropTrailing (cs : List Char) :
    dropTrailing blank (dropTrailing blank cs) = dropTrailing blank cs := by
  induction cs with
  | nil => rfl
  | cons c rest ih =>
      rw [dropTrailing]
      cases hkept : dropTrailing blank rest with
      | nil =>
          by_cases hc : blank c = true
          · simp [hc, dropTrailing]
          · simp [hc, dropTrailing]
      | cons k ks =>
          rw [hkept] at ih
          show dropTrailing blank (c :: k :: ks) = c :: k :: ks
          rw [dropTrailing, ih]

theorem dropWhile_trimBy (cs : List Char) :
    (trimBy blank cs).dropWhile blank = trimBy blank cs := by
  unfold trimBy
  have hhead := List.head?_dropWhile_not blank cs
  cases hcs : cs.dropWhile blank with
  | nil => rfl
  | cons d rest =>
      rw [hcs] at hhead
      have hd : blank d = false := by simpa using hhead
      rw [dropTrailing]
      cases dropTrailing blank rest <;> simp [hd]

theorem trimBy_trimBy (cs : List Char) :
    trimBy blank (trimBy blank cs) = trimBy blank cs := by
  have hfront := @dropWhile_trimBy blank cs
  show dropTrailing blank ((trimBy blank cs).dropWhile blank) = _
  rw [hfront]
  exact dropTrailing_dropTrailing _

end Text

/-! ## One template, read twice -/

namespace Template

theorem fromUser_trim (path : String) : fromUser (Text.trim path) = fromUser path := by
  unfold fromUser Text.trim
  rw [String.toList_ofList, Text.trimBy_trimBy]

theorem untilClose?_append {cs tail : List Char} (hline : '\n' ∉ cs) (hclose : close ∉ cs) :
    untilClose? (cs ++ close :: tail) = some cs := by
  induction cs with
  | nil => simp [untilClose?]
  | cons c rest ih =>
      simp only [List.mem_cons, not_or] at hline hclose
      rw [List.cons_append, untilClose?, if_neg (Ne.symm hclose.1), if_neg (Ne.symm hline.1),
        ih hline.2 hclose.2]
      rfl

theorem embedded_of_some {c : Char} {rest path : List Char}
    (h : (Text.dropLead? opening (c :: rest)).bind embeddedPath? = some path) :
    embedded (c :: rest) 0 = path :: embedded rest (path.length + 2) := by
  rw [embedded, h]

/-- A text that begins with an opening has a template there, if a brace closes it in time. -/
theorem embedded_opening {c : Char} {rest path : List Char} (hc : c ≠ '\n')
    (h : untilClose? rest = some path) :
    ∃ more, embedded (opening ++ c :: rest) 0 = (c :: path) :: more := by
  have hread : (Text.dropLead? opening (opening ++ c :: rest)).bind embeddedPath? =
      some (c :: path) := by
    rw [Text.dropLead?_eq_some_iff.mpr rfl]
    show (if c = '\n' then none else (untilClose? rest).map (c :: ·)) = _
    rw [if_neg hc, h]
    rfl
  exact ⟨_, embedded_of_some hread⟩

/-- A path that goes on, after its first character, to a brace at which a template inside a text
would have ended. -/
def Overruns (path : String) : Prop := close ∈ path.toList.tail

/-- A template that is read as a whole is read in the same way inside the text, unless its path
overruns. -/
theorem trim_mem_paths {s path : String} (hs : path? s = some path) (hpath : ¬ Overruns path) :
    Text.trim path ∈ paths s := by
  obtain ⟨c, cs, tail, hcs, hline, htext⟩ := toList_of_path? hs
  rw [List.mem_cons, not_or] at hline
  have hclose : close ∉ cs := by
    rwa [Overruns, hcs, List.tail_cons] at hpath
  have hread : untilClose? (cs ++ close :: tail) = some cs := untilClose?_append hline.2 hclose
  -- The text begins with the template, so its path is the first that is found.
  obtain ⟨more, hmore⟩ := embedded_opening (Ne.symm hline.1) hread
  unfold paths Text.trim
  rw [htext, hmore, hcs]
  exact List.mem_cons_self

end Template

/-! ## What the diagnostics look at -/

namespace Conditions

variable {user : Value} {account : Account}

theorem mem_addNew {p : String} {found ps : List String} :
    p ∈ addNew found ps ↔ p ∈ found ∨ p ∈ ps := by
  induction ps generalizing found with
  | nil => simp [addNew]
  | cons q rest ih =>
      rw [addNew, ih, List.mem_cons]
      by_cases hq : found.contains q = true
      · rw [if_pos hq]
        have hknown : p = q → p ∈ found := by
          rintro rfl
          exact List.contains_iff_mem.mp hq
        tauto
      · rw [if_neg hq, List.mem_append, List.mem_singleton, or_assoc]

/-- One of the paths, trimmed as the diagnostics show it, and no path that overruns. -/
def Foreseen (paths : List String) (p : String) : Prop :=
  ∃ path ∈ paths, ¬ Template.Overruns path ∧ Text.trim path = p

theorem Foreseen.append {first second : List String} {p : String}
    (h : Foreseen (first ++ second) p) : Foreseen first p ∨ Foreseen second p := by
  obtain ⟨path, hmem, h⟩ := h
  rcases List.mem_append.mp hmem with hmem | hmem
  · exact Or.inl ⟨path, hmem, h⟩
  · exact Or.inr ⟨path, hmem, h⟩

mutual

/-- Collecting keeps what was found before, and finds the templates that resolving replaces, but for
paths that overrun. -/
theorem mem_collect {p : String} : ∀ (v : Value) (found : List String),
    p ∈ found ∨ Foreseen (wholePaths v) p → p ∈ collect v found
  | .text s, found, h => by
      rw [collect, mem_addNew]
      refine h.imp id ?_
      rintro ⟨path, hmem, hpath, rfl⟩
      rw [wholePaths, Option.mem_toList] at hmem
      exact Template.trim_mem_paths hmem hpath
  | .map es, found, h => mem_collectEntries es found h
  | .list items, found, h | .tuple items, found, h => mem_collectItems items found h
  | .null, _, h | .bool _, _, h | .int _, _, h | .double _, _, h | .bytes _, _, h | .uuid _, _, h
  | .unresolved, _, h | .object .., _, h | .entity .., _, h | .resource .., _, h => by
      rcases h with h | ⟨path, hmem, -⟩
      · exact h
      · cases hmem

theorem mem_collectItems {p : String} : ∀ (items : List Value) (found : List String),
    p ∈ found ∨ Foreseen (wholePathsOfItems items) p → p ∈ collectItems items found
  | [], found, h => by
      rcases h with h | ⟨path, hmem, -⟩
      · exact h
      · cases hmem
  | v :: rest, found, h => by
      refine mem_collectItems rest (collect v found) ?_
      rcases h with h | h
      · exact Or.inl (mem_collect v found (Or.inl h))
      · rcases h.append with h | h
        · exact Or.inl (mem_collect v found (Or.inr h))
        · exact Or.inr h

theorem mem_collectEntries {p : String} : ∀ (es : List (String × Value)) (found : List String),
    p ∈ found ∨ Foreseen (wholePathsOfEntries es) p → p ∈ collectEntries es found
  | [], found, h => by
      rcases h with h | ⟨path, hmem, -⟩
      · exact h
      · cases hmem
  | (k, v) :: rest, found, h => by
      refine mem_collectEntries rest (collect v found) ?_
      rcases h with h | h
      · exact Or.inl (mem_collect v found (Or.inl h))
      · rcases h.append with h | h
        · exact Or.inl (mem_collect v found (Or.inr h))
        · exact Or.inr h

end

theorem missingAmong_eq_nil {ps : List String} (h : missingAmong user ps = .ok []) :
    ∀ p ∈ ps, ∃ v, user.walk (Template.fromUser p) = .ok v ∧ v.isUnresolved = false := by
  induction ps with
  | nil => exact nofun
  | cons q rest ih =>
      rw [missingAmong] at h
      cases hwalk : user.walk (Template.fromUser q) with
      | error e =>
          rw [hwalk] at h
          cases h
      | ok v =>
          rw [hwalk] at h
          obtain ⟨more, hmore, hnone⟩ := Fault.map_ok.mp h
          cases hv : v.isUnresolved with
          | true =>
              rw [hv] at hnone
              cases hnone
          | false =>
              rw [hv] at hnone
              cases hnone
              intro p hp
              rcases List.mem_cons.mp hp with rfl | hp
              · exact ⟨v, hwalk, hv⟩
              · exact ih hmore p hp

/-- If nothing is reported missing, every template leads somewhere whose path does not overrun. -/
theorem leads_of_none_missing {conditions : Value}
    (h : missing account.toValue conditions = .ok []) {path : String}
    (hmem : path ∈ wholePaths conditions) (hpath : ¬ Template.Overruns path) :
    account.at? path ≠ .ok .unresolved := by
  have hcollected : Text.trim path ∈ templatePaths conditions :=
    mem_collect conditions [] (Or.inr ⟨path, hmem, hpath, rfl⟩)
  obtain ⟨v, hwalk, hv⟩ := missingAmong_eq_nil h _ hcollected
  rw [Template.fromUser_trim] at hwalk
  unfold Account.at?
  rw [hwalk]
  intro heq
  cases heq
  cases hv

/-! ## Unresolved values after resolving -/

/-- Some template leads to an unresolved value, or to a value with one inside. -/
def Brings (account : Account) (paths : List String) : Prop :=
  ∃ path ∈ paths, ∃ v, account.at? path = .ok v ∧ v.hasUnresolved = true

theorem brings_append {first second : List String} :
    Brings account (first ++ second) ↔ Brings account first ∨ Brings account second := by
  simp only [Brings, List.mem_append, or_and_right, exists_or]

theorem not_brings_nil : ¬ Brings account [] := by
  rintro ⟨path, hmem, -⟩
  cases hmem

theorem itemsHaveUnresolved_octets (octets : List UInt8) :
    Value.itemsHaveUnresolved (octets.map fun b => .int b.toNat) = false := by
  induction octets with
  | nil => rfl
  | cons b rest ih => rw [List.map_cons, Value.itemsHaveUnresolved, ih]; rfl

mutual

/-- What is unresolved in a tree afterwards was so before, or has come with an attribute. -/
theorem hasUnresolved_resolveValue : ∀ v w : Value, resolveValue account.toValue v = .ok w →
    (w.hasUnresolved = true ↔ v.hasUnresolved = true ∨ Brings account (wholePaths v))
  | .text s, w, h => by
      rw [resolveValue] at h
      rw [wholePaths]
      cases hpath : Template.path? s with
      | none =>
          rw [hpath] at h
          cases h
          simp [Value.hasUnresolved, not_brings_nil]
      | some path =>
          rw [hpath] at h
          have hat := resolvePath_eq_ok_iff.mp h
          simp [Value.hasUnresolved, Brings, hat]
  | .map es, w, h => by
      obtain ⟨es', rfl, hes⟩ := resolveValue_map h
      exact entriesHaveUnresolved_resolveEntries es es' hes
  | .list items, w, h | .tuple items, w, h => by
      rw [resolveValue] at h
      obtain ⟨items', rfl, hitems⟩ := resolveItems_map_list h
      exact itemsHaveUnresolved_resolveItems items items' hitems
  | .bytes octets, w, h => by
      cases h
      have hnone := itemsHaveUnresolved_octets octets
      simp [Value.hasUnresolved, wholePaths, not_brings_nil, hnone]
  | .null, _, h | .bool _, _, h | .int _, _, h | .double _, _, h | .uuid _, _, h
  | .unresolved, _, h | .object .., _, h | .entity .., _, h | .resource .., _, h => by
      cases h
      simp [wholePaths, not_brings_nil]

theorem itemsHaveUnresolved_resolveItems : ∀ items items' : List Value,
    resolveItems account.toValue items = .ok items' →
    (Value.itemsHaveUnresolved items' = true ↔
      Value.itemsHaveUnresolved items = true ∨ Brings account (wholePathsOfItems items))
  | [], _, h => by
      cases h
      simp [Value.itemsHaveUnresolved, wholePathsOfItems, not_brings_nil]
  | v :: rest, _, h => by
      obtain ⟨w, more, hv, hrest, rfl⟩ := resolveItems_cons.mp h
      rw [Value.itemsHaveUnresolved, Value.itemsHaveUnresolved, wholePathsOfItems, brings_append,
        Bool.or_eq_true, Bool.or_eq_true, hasUnresolved_resolveValue v w hv,
        itemsHaveUnresolved_resolveItems rest more hrest]
      exact or_or_or_comm

theorem entriesHaveUnresolved_resolveEntries : ∀ es es' : List (String × Value),
    resolveEntries account.toValue es = .ok es' →
    (Value.entriesHaveUnresolved es' = true ↔
      Value.entriesHaveUnresolved es = true ∨ Brings account (wholePathsOfEntries es))
  | [], _, h => by
      cases h
      simp [Value.entriesHaveUnresolved, wholePathsOfEntries, not_brings_nil]
  | (k, v) :: rest, _, h => by
      obtain ⟨w, more, hv, hrest, rfl⟩ := resolveEntries_cons.mp h
      rw [Value.entriesHaveUnresolved, Value.entriesHaveUnresolved, wholePathsOfEntries,
        brings_append, Bool.or_eq_true, Bool.or_eq_true, hasUnresolved_resolveValue v w hv,
        entriesHaveUnresolved_resolveEntries rest more hrest]
      exact or_or_or_comm

end

theorem hasUnresolved_resolve {conditions : Value} (h : Readable account (wholePaths conditions)) :
    (resolve account.toValue conditions).hasUnresolved = true ↔
      conditions.hasUnresolved = true ∨ Brings account (wholePaths conditions) := by
  obtain ⟨w, hw⟩ := exists_resolved conditions h
  have hresolve : resolve account.toValue conditions = w := by
    unfold resolve
    rw [hw]
  rw [hresolve]
  exact hasUnresolved_resolveValue conditions w hw

/-- What says nothing has as many unresolved values in it after resolving as before. -/
theorem hasUnresolved_resolve_of_empty {conditions : Value} (h : conditions.isTruthy = false) :
    (resolve user conditions).hasUnresolved = conditions.hasUnresolved := by
  cases conditions with
  | text s =>
      have hs : s = "" := by simpa [Value.isTruthy] using h
      subst hs
      rfl
  | list items | tuple items =>
      have hitems : items = [] := by simpa [Value.isTruthy] using h
      subst hitems
      rfl
  | map es =>
      have hes : es = [] := by simpa [Value.isTruthy] using h
      subst hes
      rfl
  | bytes octets =>
      have hoctets : octets = [] := by simpa [Value.isTruthy] using h
      subst hoctets
      rfl
  | _ => rfl

end Conditions

/-- A rule can be satisfied for a user if nothing in its conditions is unresolved for him. -/
theorem Rule.isSatisfiable_forUser (user : Value) (r : Rule) :
    (r.forUser user).isSatisfiable = !(Conditions.resolve user r.conditions).hasUnresolved := by
  unfold forUser isSatisfiable
  by_cases hconditions : r.hasConditions = true
  · rw [if_pos hconditions]
  · have hempty : r.conditions.isTruthy = false := Bool.eq_false_iff.mpr hconditions
    rw [if_neg hconditions, Conditions.hasUnresolved_resolve_of_empty hempty]

/-- The path goes past a brace, and leads nowhere. -/
structure Account.Overlooks (account : Account) (path : String) : Prop where
  overruns : Template.Overruns path
  nowhere : account.at? path = .ok .unresolved

/-- The path leads to a value of the account that has an unresolved value inside. -/
def Account.Hides (account : Account) (path : String) : Prop :=
  ∃ v, account.at? path = .ok v ∧ v.isUnresolved = false ∧ v.hasUnresolved = true

/-- Where the diagnostics report no missing template and every attribute can be read, an unresolved
value is left, and the rule of these conditions cannot be satisfied, exactly if there was one in the
conditions or inside an attribute before, or if the path of a template goes past a brace and leads
nowhere. -/
theorem Conditions.hasUnresolved_of_none_missing {account : Account} {conditions : Value}
    (hreadable : Readable account (wholePaths conditions))
    (hmissing : missing account.toValue conditions = .ok []) :
    ((resolve account.toValue conditions).hasUnresolved = true ↔
      conditions.hasUnresolved = true ∨
        ∃ path ∈ wholePaths conditions, account.Overlooks path ∨ account.Hides path) ∧
    ∀ r : Rule, r.conditions = conditions →
      (r.forUser account.toValue).isSatisfiable =
        !(resolve account.toValue conditions).hasUnresolved := by
  refine ⟨?_, fun r hr => by rw [Rule.isSatisfiable_forUser, hr]⟩
  rw [hasUnresolved_resolve hreadable]
  refine or_congr_right (exists_congr fun path => and_congr_right fun hmem => ?_)
  constructor
  · rintro ⟨v, hat, hv⟩
    cases hnowhere : v.isUnresolved with
    | false => exact Or.inr ⟨v, hat, hnowhere, hv⟩
    | true =>
        cases v with
        | unresolved =>
            refine Or.inl ⟨?_, hat⟩
            by_contra hpath
            exact leads_of_none_missing hmissing hmem hpath hat
        | _ => cases hnowhere
  · rintro (h | ⟨v, hat, -, hv⟩)
    · exact ⟨.unresolved, h.nowhere, rfl⟩
    · exact ⟨v, hat, hv⟩

/-! ### Notes of a team

Tags of the blue team, with a blank in one template and a line end after another. -/

def Value.ofTeamNotes : Value :=
  .map [("tags", .list [.text (Template.whole "user.team"), .text "fixed", .null]),
    ("team", .text (Template.whole " team " ++ "\n")),
    ("note", .text ("for " ++ Template.whole "user.team" ++ Template.whole "team"))]

theorem Conditions.hasUnresolved_ofTeamNotes :
    missing Account.ofBlueTeam.toValue .ofTeamNotes = .ok [] ∧
      (resolve Account.ofBlueTeam.toValue .ofTeamNotes).hasUnresolved = false ∧
      ((Rule.toReadAccounts .ofTeamNotes).forUser Account.ofBlueTeam.toValue).isSatisfiable =
        true := by
  have hmissing : missing Account.ofBlueTeam.toValue .ofTeamNotes = .ok [] := by decide +kernel
  have hpaths : wholePaths .ofTeamNotes = ["user.team", " team "] := by decide +kernel
  have hteam : ∀ path ∈ wholePaths .ofTeamNotes, Account.ofBlueTeam.at? path = .ok (.text "blue") := by
    rw [hpaths, List.forall_mem_cons, List.forall_mem_singleton]
    exact ⟨rfl, rfl⟩
  obtain ⟨hleft, hrule⟩ :=
    hasUnresolved_of_none_missing (fun path hpath => ⟨_, hteam path hpath⟩) hmissing
  have hresolved : (resolve Account.ofBlueTeam.toValue .ofTeamNotes).hasUnresolved = false := by
    rw [Bool.eq_false_iff, ne_eq, hleft]
    rintro (h | ⟨path, hmem, h | ⟨v, hat, -, hv⟩⟩)
    · cases h
    · have hat := hteam path hmem
      rw [h.nowhere] at hat
      cases hat
    · rw [hteam path hmem] at hat
      cases hat
      cases hv
  refine ⟨hmissing, hresolved, ?_⟩
  rw [hrule _ rfl, hresolved]
  rfl

/-- Two templates in one text. -/
def Value.ofTeamTwice : Value :=
  .map [("team", .text (Template.whole "user.team" ++ Template.whole "user.team"))]

/-- Each of the two leads somewhere, but they are resolved as one template, which leads nowhere. -/
theorem Conditions.overlooked_brace :
    Readable .ofBlueTeam (wholePaths .ofTeamTwice) ∧
      missing Account.ofBlueTeam.toValue .ofTeamTwice = .ok [] ∧
      (resolve Account.ofBlueTeam.toValue .ofTeamTwice).hasUnresolved = true ∧
      ((Rule.toReadAccounts .ofTeamTwice).forUser Account.ofBlueTeam.toValue).isSatisfiable =
        false := by
  have hpaths : wholePaths .ofTeamTwice = ["user.team\x7d$\x7buser.team"] := by decide +kernel
  refine ⟨?_, by decide +kernel, by decide +kernel, by decide +kernel⟩
  rw [hpaths]
  intro path hpath
  rw [List.mem_singleton.mp hpath]
  exact ⟨_, rfl⟩

end Warrant
