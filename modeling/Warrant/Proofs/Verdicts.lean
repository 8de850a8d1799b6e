import Mathlib.Data.List.Perm.Basic
import Warrant.Proofs.Decisions

/-!
# What rules come to

Whoever writes rules does not think of a scan that keeps a grant in its hand. A
`Verdict` says what the rules come to in terms of the list alone: where the rule
that decides stands, and which rules before or after it do not count. There is
exactly one verdict on every check, and it is the decision.

Only the deciding rule depends on the order of the rules. Whether a check is
allowed is a matter of which rules there are, and more grants or fewer forbids
never make a no out of a yes. A rule that cannot be evaluated might as well not
be there.
-/

namespace Warrant

section

variable {α : Type} {inverted applies : α → Bool}

/-! ## Where the deciding rule stands -/

theorem firstForbid_eq_some_iff {rs : List α} {r : α} :
    firstForbid inverted applies rs = some r ↔
      inverted r = true ∧ applies r = true ∧
        ∃ before after, rs = before ++ r :: after ∧
          ∀ s ∈ before, inverted s = true → applies s = false := by
  unfold firstForbid
  rw [List.find?_eq_some_iff_append]
  simp only [Bool.and_eq_true, Bool.not_eq_eq_eq_not, Bool.not_true, Bool.and_eq_false_iff]
  constructor
  · rintro ⟨⟨happlies, hforbid⟩, before, after, hsplit, hfirst⟩
    refine ⟨hforbid, happlies, before, after, hsplit, fun s hs hinverted => ?_⟩
    rcases hfirst s hs with hno | hgrant
    · exact hno
    · rw [hinverted] at hgrant
      cases hgrant
  · rintro ⟨hforbid, happlies, before, after, hsplit, hfirst⟩
    refine ⟨⟨happlies, hforbid⟩, before, after, hsplit, fun s hs => ?_⟩
    cases hinverted : inverted s with
    | false => exact Or.inr rfl
    | true => exact Or.inl (hfirst s hs hinverted)

theorem lastApplied_eq_some_iff {rs : List α} {r : α} :
    lastApplied applies rs = some r ↔
      applies r = true ∧
        ∃ before after, rs = before ++ r :: after ∧ ∀ s ∈ after, applies s = false := by
  -- The last one that applies is the first one from behind.
  unfold lastApplied
  rw [List.getLast?_eq_head?_reverse, ← List.filter_reverse, List.head?_filter,
    List.find?_eq_some_iff_append]
  refine and_congr_right fun _ => ?_
  simp only [Bool.not_eq_eq_eq_not, Bool.not_true]
  constructor
  · rintro ⟨behind, ahead, hsplit, hlast⟩
    refine ⟨ahead.reverse, behind.reverse, ?_, fun s hs => hlast s (List.mem_reverse.mp hs)⟩
    rw [← List.reverse_reverse rs, hsplit, List.reverse_append, List.reverse_cons,
      List.append_assoc, List.singleton_append]
  · rintro ⟨before, after, rfl, hlast⟩
    refine ⟨after.reverse, before.reverse, ?_, fun s hs => hlast s (List.mem_reverse.mp hs)⟩
    rw [List.reverse_append, List.reverse_cons, List.append_assoc, List.singleton_append]

/-- What decides is the first forbid that applies, or the last grant where there is none. -/
theorem settle_decider_iff {rs : List α} {r : α} :
    (settle inverted applies none rs).2 = some r ↔
      applies r = true ∧ ∃ before after, rs = before ++ r :: after ∧
        (inverted r = true ∧ (∀ s ∈ before, inverted s = true → applies s = false) ∨
          (∀ s ∈ rs, applies s = true → inverted s = false) ∧ ∀ s ∈ after, applies s = false) := by
  rw [settle_eq]
  cases hforbid : firstForbid inverted applies rs with
  | some f =>
      obtain ⟨hinverted, happlies, before, after, hsplit, hfirst⟩ :=
        firstForbid_eq_some_iff.mp hforbid
      have hmem : f ∈ rs := by rw [hsplit]; exact List.mem_append_cons_self
      show some f = some r ↔ _
      constructor
      · intro h
        cases h
        exact ⟨happlies, before, after, hsplit, Or.inl ⟨hinverted, hfirst⟩⟩
      · rintro ⟨hr, before', after', hsplit', ⟨hr', hfirst'⟩ | ⟨hfree, -⟩⟩
        · rw [← hforbid]
          exact firstForbid_eq_some_iff.mpr ⟨hr', hr, before', after', hsplit', hfirst'⟩
        · rw [hfree f hmem happlies] at hinverted
          cases hinverted
  | none =>
      have hfree := firstForbid_eq_none_iff.mp hforbid
      show (lastApplied applies rs).or none = some r ↔ _
      rw [Option.or_none, lastApplied_eq_some_iff]
      refine and_congr_right fun hr => exists_congr fun before => exists_congr fun after =>
        and_congr_right fun hsplit => ?_
      constructor
      · intro hlast
        exact Or.inr ⟨hfree, hlast⟩
      · rintro (⟨hr', -⟩ | ⟨-, hlast⟩)
        · have hmem : r ∈ rs := by rw [hsplit]; exact List.mem_append_cons_self
          rw [hfree r hmem hr] at hr'
          cases hr'
        · exact hlast

theorem settle_undecided_iff {rs : List α} :
    (settle inverted applies none rs).2 = none ↔ ∀ r ∈ rs, applies r = false := by
  rw [settle_eq]
  cases hforbid : firstForbid inverted applies rs with
  | some f =>
      obtain ⟨-, happlies, before, after, hsplit, -⟩ := firstForbid_eq_some_iff.mp hforbid
      have hmem : f ∈ rs := by rw [hsplit]; exact List.mem_append_cons_self
      refine iff_of_false nofun fun h => ?_
      rw [h f hmem] at happlies
      cases happlies
  | none =>
      show (lastApplied applies rs).or none = none ↔ _
      rw [Option.or_none, lastApplied_eq_none_iff]

/-- A rule that does not apply might as well not be there. -/
theorem settle_drop {r : α} (hidle : applies r = false) (before after : List α) :
    settle inverted applies none (before ++ r :: after) =
      settle inverted applies none (before ++ after) := by
  have hno : ¬ applies r = true := Bool.eq_false_iff.mp hidle
  rw [settle_eq, settle_eq, firstForbid_append, firstForbid_append, firstForbid_cons,
    if_neg fun h => hno h.1, lastApplied_append, lastApplied_append, lastApplied_cons, if_neg hno]
  simp only [Option.or_none]

/-- Of a list of rules it is enough to keep those that apply. -/
theorem settle_filter {keep : α → Bool} {rs : List α} (granted : Option α)
    (hkeep : ∀ r ∈ rs, applies r = true → keep r = true) :
    settle inverted applies granted (rs.filter keep) = settle inverted applies granted rs := by
  induction rs generalizing granted with
  | nil => rfl
  | cons r rest ih =>
      rw [List.forall_mem_cons] at hkeep
      rw [List.filter_cons]
      by_cases happlies : applies r = true
      · rw [if_pos (hkeep.1 happlies), settle, settle, if_pos happlies, if_pos happlies,
          ih _ hkeep.2]
      · have hrest : settle inverted applies granted (r :: rest) =
            settle inverted applies granted rest := by rw [settle, if_neg happlies]
        rw [hrest, ← ih granted hkeep.2]
        split
        · rw [settle, if_neg happlies]
        · rfl

/-- Whether a check is allowed is a matter of which rules there are, not of their order. -/
theorem settle_allowed_perm {rs rs' : List α} (h : rs.Perm rs') :
    (settle inverted applies none rs).1 = (settle inverted applies none rs').1 := by
  rw [Bool.eq_iff_iff, settle_allowed_iff, settle_allowed_iff]
  simp only [h.mem_iff]

/-- What is allowed stays allowed with more grants and fewer forbids among the rules. -/
theorem settle_allowed_of_subset {rs rs' : List α}
    (hgrants : ∀ r ∈ rs, inverted r = false → r ∈ rs')
    (hforbids : ∀ r ∈ rs', inverted r = true → r ∈ rs)
    (h : (settle inverted applies none rs).1 = true) :
    (settle inverted applies none rs').1 = true := by
  rw [settle_allowed_iff] at h ⊢
  obtain ⟨⟨g, hg, happlies⟩, hall⟩ := h
  refine ⟨⟨g, hgrants g hg (hall g hg happlies), happlies⟩, fun r hr happlies' => ?_⟩
  cases hinverted : inverted r with
  | false => rfl
  | true => exact hinverted.symm.trans (hall r (hforbids r hr hinverted) happlies')

end

/-! ## Verdicts -/

/-- What rules come to on a check, by those among them that are applicable. -/
inductive Verdict (applicable : Rule → Prop) (rules : List Rule) : Decision → Prop where
  /-- The first applicable forbid decides against. -/
  | forbidden {before after : List Rule} {r : Rule} (split : rules = before ++ r :: after)
      (forbid : r.inverted = true) (applied : applicable r)
      (first : ∀ s ∈ before, s.inverted = true → ¬ applicable s) :
      Verdict applicable rules ⟨false, some r⟩
  /-- Where no forbid is applicable, the last applicable grant decides in favour. -/
  | granted {before after : List Rule} {r : Rule} (split : rules = before ++ r :: after)
      (grant : r.inverted = false) (applied : applicable r)
      (unopposed : ∀ s ∈ rules, s.inverted = true → ¬ applicable s)
      (last : ∀ s ∈ after, s.inverted = false → ¬ applicable s) :
      Verdict applicable rules ⟨true, some r⟩
  /-- Where no rule is applicable there is none to decide, and the answer is no. -/
  | undecided (idle : ∀ s ∈ rules, ¬ applicable s) : Verdict applicable rules ⟨false, none⟩

theorem verdict_iff {applies : Rule → Bool} {rules : List Rule} {d : Decision} :
    Verdict (fun r => applies r = true) rules d ↔
      settle Rule.inverted applies none rules = (d.allowed, d.rule) := by
  have hallowed := @settle_fst _ Rule.inverted applies none nofun rules
  constructor
  · intro h
    cases h with
    | @forbidden before after r split forbid applied first =>
        have hdecider : (settle Rule.inverted applies none rules).2 = some r := by
          refine settle_decider_iff.mpr ⟨applied, before, after, split, Or.inl ⟨forbid, ?_⟩⟩
          exact fun s hs hinverted => Bool.eq_false_iff.mpr (first s hs hinverted)
        rw [hdecider, Option.any_some, forbid] at hallowed
        exact Prod.ext hallowed hdecider
    | @granted before after r split grant applied unopposed last =>
        have hfree : ∀ s ∈ rules, applies s = true → s.inverted = false :=
          fun s hs happlies =>
            Bool.eq_false_iff.mpr fun hinverted => unopposed s hs hinverted happlies
        have hafter : ∀ s ∈ after, applies s = false := by
          intro s hs
          rw [Bool.eq_false_iff]
          intro happlies
          have hmem : s ∈ rules := by
            rw [split]
            exact List.mem_append_right _ (List.mem_cons_of_mem _ hs)
          exact last s hs (hfree s hmem happlies) happlies
        have hdecider : (settle Rule.inverted applies none rules).2 = some r :=
          settle_decider_iff.mpr ⟨applied, before, after, split, Or.inr ⟨hfree, hafter⟩⟩
        rw [hdecider, Option.any_some, grant] at hallowed
        exact Prod.ext hallowed hdecider
    | undecided idle =>
        have hdecider : (settle Rule.inverted applies none rules).2 = none :=
          settle_undecided_iff.mpr fun s hs => Bool.eq_false_iff.mpr (idle s hs)
        rw [hdecider] at hallowed
        exact Prod.ext hallowed hdecider
  · intro h
    obtain ⟨allowed, rule⟩ := d
    rw [h] at hallowed
    have hdecider := congrArg Prod.snd h
    cases rule with
    | none =>
        cases hallowed
        exact .undecided fun s hs => Bool.eq_false_iff.mp (settle_undecided_iff.mp hdecider s hs)
    | some r =>
        rw [Option.any_some] at hallowed
        obtain ⟨happlies, before, after, hsplit, hdecides⟩ := settle_decider_iff.mp hdecider
        rcases hdecides with ⟨hforbid, hfirst⟩ | ⟨hfree, hafter⟩
        · rw [hforbid] at hallowed
          cases hallowed
          exact .forbidden hsplit hforbid happlies
            fun s hs hinverted => Bool.eq_false_iff.mp (hfirst s hs hinverted)
        · have hmem : r ∈ rules := by
            rw [hsplit]
            exact List.mem_append_cons_self
          have hgrant := hfree r hmem happlies
          rw [hgrant] at hallowed
          cases hallowed
          refine .granted hsplit hgrant happlies (fun s hs hinverted hs' => ?_)
            fun s hs _ => Bool.eq_false_iff.mp (hafter s hs)
          exact absurd hinverted (Bool.eq_false_iff.mp (hfree s hs hs'))

namespace Rule

variable {r : Rule} {action field : Value} {target : Target}

/-- A rule applies if its evaluation says so; one that cannot be evaluated does not. -/
theorem applies_eq_true_iff :
    r.applies action target field = true ↔ r.applies? action target field = .ok true := by
  unfold applies
  cases r.applies? action target field with
  | error e => simp only [Bool.false_eq_true, reduceCtorEq]
  | ok b => simp only [Except.ok.injEq]

theorem applies_of_error {e : Fault} (h : r.applies? action target field = .error e) :
    r.applies action target field = false := by
  unfold applies
  rw [h]

end Rule

namespace Ability

variable (rules : List Rule) (action subject field : Value)

/-- The decision on a check is the verdict of the rules on it, the only one. Rules that cannot be
evaluated may be left out. Whether the check is allowed does not depend on the order of the rules,
no further grant makes a no out of a yes, and no further forbid makes a yes out of a no. -/
theorem decide_eq_verdict :
    (∀ d : Decision, Verdict (fun r => r.applies? action (.of subject) field = .ok true) rules d ↔
      (⟨rules⟩ : Ability).decide action subject field = d) ∧
    (∀ (before after : List Rule) (r : Rule) (e : Fault), rules = before ++ r :: after →
      r.applies? action (.of subject) field = .error e →
      (⟨rules⟩ : Ability).decide action subject field =
        (⟨before ++ after⟩ : Ability).decide action subject field) ∧
    (∀ rules' : List Rule, rules.Perm rules' →
      (⟨rules⟩ : Ability).can action subject field =
        (⟨rules'⟩ : Ability).can action subject field) ∧
    (∀ (before after : List Rule) (g : Rule), rules = before ++ after → g.inverted = false →
      (⟨rules⟩ : Ability).can action subject field = true →
      (⟨before ++ g :: after⟩ : Ability).can action subject field = true) ∧
    ∀ (before after : List Rule) (f : Rule), rules = before ++ after → f.inverted = true →
      (⟨rules⟩ : Ability).can action subject field = false →
      (⟨before ++ f :: after⟩ : Ability).can action subject field = false := by
  have hinsert : ∀ (before after : List Rule) (r s : Rule),
      s ∈ before ++ r :: after ↔ s = r ∨ s ∈ before ++ after := by
    intro before after r s
    simp only [List.mem_append, List.mem_cons, or_left_comm]
  refine ⟨fun d => ?_, ?_, fun rules' hperm => settle_allowed_perm hperm, ?_, ?_⟩
  · simp only [← Rule.applies_eq_true_iff, verdict_iff]
    obtain ⟨allowed, rule⟩ := d
    simp only [decide, Prod.ext_iff, Decision.mk.injEq]
  · rintro before after r e rfl herror
    have hdrop : settle Rule.inverted (fun r => r.applies action (.of subject) field) none
          (before ++ r :: after) =
        settle Rule.inverted (fun r => r.applies action (.of subject) field) none
          (before ++ after) :=
      settle_drop (r := r) (Rule.applies_of_error herror) before after
    unfold decide
    dsimp only
    rw [hdrop]
  · rintro before after g rfl hgrant hcan
    refine settle_allowed_of_subset (fun r hr _ => (hinsert _ _ _ _).mpr (Or.inr hr))
      (fun r hr hforbid => ?_) hcan
    rcases (hinsert _ _ _ _).mp hr with rfl | hr
    · rw [hgrant] at hforbid
      cases hforbid
    · exact hr
  · rintro before after f rfl hforbid hcannot
    -- Whatever is allowed with the forbid would be allowed without it.
    rw [Bool.eq_false_iff] at hcannot ⊢
    refine fun hcan => hcannot (settle_allowed_of_subset (fun r hr hgrant => ?_)
      (fun r hr _ => (hinsert _ _ _ _).mpr (Or.inr hr)) hcan)
    rcases (hinsert _ _ _ _).mp hr with rfl | hr
    · rw [hforbid] at hgrant
      cases hgrant
    · exact hr

/-! ### Readers of files

Files may be read by the public, and by the members of the team that they belong to. Archived files
may not be read. A rule about tags is malformed: an object is nothing that tags could be compared
with. -/

def fileRule (n : Nat) (inverted : Bool) (conditions : List (String × Value)) : Rule where
  actions := [.text "read"]
  subjects := [.text "file"]
  fields := none
  conditions := .map conditions
  inverted := inverted
  reason := .null
  permissionId := .uuid (Uuid.ofNat n)

def fileRules : List Rule :=
  [fileRule 1 false [("public", .bool true)], fileRule 2 true [("archived", .bool true)],
    fileRule 3 false [("tags", .object "tag" none [] [])], fileRule 4 false [("team", .text "blue")]]

/-- A file of the blue team. -/
def teamFile : Value :=
  .resource (.text "file") (.map [("public", .bool true), ("team", .text "blue")])

/-- An archived one of theirs. -/
def archivedFile : Value :=
  .resource (.text "file") (.map [("archived", .bool true), ("team", .text "blue")])

/-- The last grant that applies lets the file be read, whether the malformed rule is there or not, in
the opposite order too, and with one more grant. The archived file may not be read, and may not with
one more forbid. -/
theorem decide_eq_verdict_files :
    (fileRule 3 false [("tags", .object "tag" none [] [])]).applies? (.text "read") (.of teamFile)
        .null = .error .malformedCondition ∧
      (⟨fileRules⟩ : Ability).decide (.text "read") teamFile .null =
        ⟨true, some (fileRule 4 false [("team", .text "blue")])⟩ ∧
      Verdict (fun r => r.applies? (.text "read") (.of teamFile) .null = .ok true) fileRules
        ⟨true, some (fileRule 4 false [("team", .text "blue")])⟩ ∧
      (⟨fileRules.eraseIdx 2⟩ : Ability).decide (.text "read") teamFile .null =
        ⟨true, some (fileRule 4 false [("team", .text "blue")])⟩ ∧
      (⟨fileRules.reverse⟩ : Ability).can (.text "read") teamFile .null = true ∧
      (⟨fileRule 5 false [] :: fileRules⟩ : Ability).can (.text "read") teamFile .null = true ∧
      (⟨fileRules⟩ : Ability).can (.text "read") archivedFile .null = false ∧
      (⟨fileRule 5 true [] :: fileRules⟩ : Ability).can (.text "read") archivedFile .null = false := by
  obtain ⟨hverdict, hdrop, hperm, hgrant, -⟩ :=
    decide_eq_verdict fileRules (.text "read") teamFile .null
  obtain ⟨-, -, -, -, hforbid⟩ := decide_eq_verdict fileRules (.text "read") archivedFile .null
  have hmalformed : (fileRule 3 false [("tags", .object "tag" none [] [])]).applies? (.text "read")
      (.of teamFile) .null = .error .malformedCondition := rfl
  have happlied : (fileRule 4 false [("team", .text "blue")]).applies (.text "read") (.of teamFile)
      .null = true := by decide +kernel
  have hunopposed : ∀ s ∈ fileRules, s.inverted = true →
      s.applies (.text "read") (.of teamFile) .null = false := by decide +kernel
  have hcan : (⟨fileRules⟩ : Ability).can (.text "read") teamFile .null = true := by
    decide +kernel
  have hcannot : (⟨fileRules⟩ : Ability).can (.text "read") archivedFile .null = false := by
    decide +kernel
  have hgranted : Verdict (fun r => r.applies? (.text "read") (.of teamFile) .null = .ok true)
      fileRules ⟨true, some (fileRule 4 false [("team", .text "blue")])⟩ := by
    have hsplit : fileRules =
        fileRules.take 3 ++ fileRule 4 false [("team", .text "blue")] :: [] := rfl
    refine .granted hsplit rfl (Rule.applies_eq_true_iff.mp happlied)
      (fun s hs hinverted happlies => ?_) nofun
    rw [← Rule.applies_eq_true_iff, hunopposed s hs hinverted] at happlies
    cases happlies
  have hdecide := (hverdict _).mp hgranted
  refine ⟨hmalformed, hdecide, hgranted, ?_, ?_, ?_, hcannot, ?_⟩
  · exact (hdrop [_, _] [_] _ _ rfl hmalformed).symm.trans hdecide
  · exact (hperm _ (List.reverse_perm _).symm).symm.trans hcan
  · exact hgrant [] fileRules _ rfl rfl hcan
  · exact hforbid [] fileRules _ rfl rfl hcannot

end Ability

end Warrant
