import Warrant.Proofs.Diagnosis
import Warrant.Proofs.Tables

/-!
# Conditions without templates

Conditions in which the diagnostics find no template are the same for every
account. Resolving leaves them as they are, and does so without reading anything
of the account, so one whose attributes cannot be read makes no difference.

The diagnostics and the resolving each have a reading of what a template is and
a way through the tree. A template as a whole may go on past the brace at which
the diagnostics end it, and then they name another path; but they name one. For
between its opening and its last brace such a text has a character and no line
end, so some brace closes the template that begins there. What is missed is
never that there is a template, only which.
-/

namespace Warrant

namespace Template

/-- A search for a closing brace finds one, the first, in a line that has one. -/
theorem untilClose?_isSome {cs tail : List Char} (hline : '\n' ∉ cs) :
    ∃ path, untilClose? (cs ++ close :: tail) = some path := by
  induction cs with
  | nil => exact ⟨[], if_pos rfl⟩
  | cons c rest ih =>
      rw [List.mem_cons, not_or] at hline
      rw [List.cons_append, untilClose?]
      split
      · exact ⟨[], rfl⟩
      · obtain ⟨path, hpath⟩ := ih hline.2
        exact ⟨c :: path, by rw [if_neg (Ne.symm hline.1), hpath]; rfl⟩

/-- A text that is a template as a whole has a template in it. -/
theorem paths_ne_nil {s path : String} (h : path? s = some path) : paths s ≠ [] := by
  obtain ⟨c, cs, tail, -, hline, htext⟩ := toList_of_path? h
  rw [List.mem_cons, not_or] at hline
  obtain ⟨found, hfound⟩ : ∃ found, untilClose? (cs ++ close :: tail) = some found :=
    untilClose?_isSome hline.2
  obtain ⟨more, hmore⟩ := embedded_opening (Ne.symm hline.1) hfound
  unfold paths
  rw [htext, hmore]
  exact List.cons_ne_nil _ _

end Template

namespace Conditions

variable {user : Value}

theorem addNew_eq_nil {found ps : List String} (h : addNew found ps = []) :
    found = [] ∧ ps = [] := by
  have hnone : ∀ p, ¬ (p ∈ found ∨ p ∈ ps) := fun p hp =>
    List.not_mem_nil (h ▸ mem_addNew.mpr hp)
  exact ⟨List.eq_nil_iff_forall_not_mem.mpr fun p hp => hnone p (Or.inl hp),
    List.eq_nil_iff_forall_not_mem.mpr fun p hp => hnone p (Or.inr hp)⟩

/-! ## What the diagnostics find where resolving replaces -/

mutual

/-- Where nothing is collected nothing was found before, and resolving replaces nothing. -/
theorem collect_eq_nil : ∀ (v : Value) (found : List String), collect v found = [] →
    found = [] ∧ wholePaths v = []
  | .text s, found, h => by
      rw [collect] at h
      obtain ⟨hfound, hpaths⟩ := addNew_eq_nil h
      refine ⟨hfound, ?_⟩
      rw [wholePaths]
      cases hs : Template.path? s with
      | none => rfl
      | some path => exact absurd hpaths (Template.paths_ne_nil hs)
  | .map es, found, h => collectEntries_eq_nil es found h
  | .list items, found, h | .tuple items, found, h => collectItems_eq_nil items found h
  | .null, _, h | .bool _, _, h | .int _, _, h | .double _, _, h | .bytes _, _, h | .uuid _, _, h
  | .unresolved, _, h | .object .., _, h | .entity .., _, h | .resource .., _, h => ⟨h, rfl⟩

theorem collectItems_eq_nil : ∀ (items : List Value) (found : List String),
    collectItems items found = [] → found = [] ∧ wholePathsOfItems items = []
  | [], _, h => ⟨h, rfl⟩
  | v :: rest, found, h => by
      obtain ⟨hfirst, hrest⟩ := collectItems_eq_nil rest (collect v found) h
      obtain ⟨hfound, hv⟩ := collect_eq_nil v found hfirst
      exact ⟨hfound, by rw [wholePathsOfItems, hv, hrest]; rfl⟩

theorem collectEntries_eq_nil : ∀ (es : List (String × Value)) (found : List String),
    collectEntries es found = [] → found = [] ∧ wholePathsOfEntries es = []
  | [], _, h => ⟨h, rfl⟩
  | (_, v) :: rest, found, h => by
      obtain ⟨hfirst, hrest⟩ := collectEntries_eq_nil rest (collect v found) h
      obtain ⟨hfound, hv⟩ := collect_eq_nil v found hfirst
      exact ⟨hfound, by rw [wholePathsOfEntries, hv, hrest]; rfl⟩

end

/-! ## Resolving without templates -/

mutual

/-- A tree of JSON values in which nothing is to be replaced is rebuilt as it was. Tuples and octets
are not JSON: they would become lists. -/
theorem resolveValue_self : ∀ v : Value, v.stored? = some v → wholePaths v = [] →
    resolveValue user v = .ok v
  | .text s, _, h => by
      rw [wholePaths, Option.toList_eq_nil_iff] at h
      rw [resolveValue, h]
  | .map es, hjson, h => by
      rw [Value.stored?] at hjson
      obtain ⟨es', hes, heq⟩ := Option.map_eq_some_iff.mp hjson
      cases heq
      rw [resolveValue, resolveEntries_self es hes h]
      rfl
  | .list items, hjson, h => by
      rw [Value.stored?] at hjson
      obtain ⟨items', hitems, heq⟩ := Option.map_eq_some_iff.mp hjson
      cases heq
      rw [resolveValue, resolveItems_self items hitems h]
      rfl
  | .tuple items, hjson, _ => by
      rw [Value.stored?] at hjson
      obtain ⟨_, -, heq⟩ := Option.map_eq_some_iff.mp hjson
      cases heq
  | .null, _, _ | .bool _, _, _ | .int _, _, _ | .double _, _, _ => rfl
  | .bytes _, hjson, _ | .uuid _, hjson, _ | .unresolved, hjson, _ | .object .., hjson, _
  | .entity .., hjson, _ | .resource .., hjson, _ => by cases hjson

theorem resolveItems_self : ∀ items : List Value, Value.storedItems? items = some items →
    wholePathsOfItems items = [] → resolveItems user items = .ok items
  | [], _, _ => rfl
  | v :: rest, hjson, h => by
      obtain ⟨w, more, hv, hrest, heq⟩ := Value.storedItems?_cons_iff.mp hjson
      cases heq
      obtain ⟨hnone, hmore⟩ := List.append_eq_nil_iff.mp h
      exact resolveItems_cons.mpr
        ⟨v, rest, resolveValue_self v hv hnone, resolveItems_self rest hrest hmore, rfl⟩

theorem resolveEntries_self : ∀ es : List (String × Value), Value.storedEntries? es = some es →
    wholePathsOfEntries es = [] → resolveEntries user es = .ok es
  | [], _, _ => rfl
  | (k, v) :: rest, hjson, h => by
      obtain ⟨w, more, hv, hrest, heq⟩ := Value.storedEntries?_cons_iff.mp hjson
      cases heq
      obtain ⟨hnone, hmore⟩ := List.append_eq_nil_iff.mp h
      exact resolveEntries_cons.mpr
        ⟨v, rest, resolveValue_self v hv hnone, resolveEntries_self rest hrest hmore, rfl⟩

end

/-- Conditions in JSON without templates are for every user what they were, and not because their
resolving has failed. -/
theorem resolve_self {conditions : Value} (hjson : conditions.stored = .ok conditions)
    (hnone : hasTemplates conditions = false) (user : Value) :
    resolveValue user conditions = .ok conditions ∧ resolve user conditions = conditions := by
  have hempty : templatePaths conditions = [] := by
    rwa [hasTemplates, Bool.not_eq_false', List.isEmpty_iff] at hnone
  have hresolved : resolveValue user conditions = .ok conditions :=
    resolveValue_self conditions (Value.stored_eq_ok.mp hjson)
      (collect_eq_nil conditions [] hempty).2
  exact ⟨hresolved, by rw [resolve, hresolved]⟩

/-- Texts that come close to being templates: one that nothing closes, one without a path, and one
with a line end in its path. -/
def nearTemplates : Value :=
  .map [("price", .text "$\x7b5"), ("tags", .list [.text "$\x7b\x7d", .null, .int 3]),
    ("note", .map [("text", .text "$\x7ba\nb\x7d")])]

/-- They are the same for a user of whom nothing can be read. -/
theorem resolve_self_nearTemplates :
    nearTemplates.stored = .ok nearTemplates ∧ hasTemplates nearTemplates = false ∧
      (Value.object "User" none [("a", .int 1)] ["a", "id", "a\nb", "5"]).walk "a" =
        .error .attributeFailed ∧
      resolve (.object "User" none [("a", .int 1)] ["a", "id", "a\nb", "5"]) nearTemplates =
        nearTemplates :=
  ⟨rfl, by cbv, by cbv, (resolve_self rfl (by cbv) _).2⟩

end Conditions

end Warrant
