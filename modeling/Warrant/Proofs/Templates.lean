import Mathlib.Logic.Basic
import Warrant.Template

/-!
# Which texts are templates

A text is a template if it is written like one: its path between an opening and a
closing brace, and nothing else but perhaps one line end. The closing brace is
the last one, so there may be others before it, in the path; a text that looks
like two templates is one.

`Template.path?_eq_some_iff` says that these are the texts that are read as
templates, each with the one path that it is written with.
-/

namespace Warrant

theorem Text.dropLead?_eq_some_iff {lead cs rest : List Char} :
    dropLead? lead cs = some rest ↔ cs = lead ++ rest := by
  induction lead generalizing cs with
  | nil => rw [dropLead?, Option.some.injEq, List.nil_append]
  | cons l lead ih =>
      cases cs with
      | nil => simp only [dropLead?, reduceCtorEq, List.cons_append]
      | cons c cs =>
          rw [dropLead?, List.cons_append, List.cons.injEq]
          by_cases hc : l = c
          · rw [if_pos hc, ih, and_iff_right hc.symm]
          · rw [if_neg hc]
            exact ⟨nofun, fun h => absurd h.1.symm hc⟩

namespace Template

/-- The text that is the template of a path. -/
def whole (path : String) : String := String.ofList (opening ++ (path.toList ++ [close]))

/-- A text is written as the template of a path: the path is not empty and on one line, and the
text is that path between braces, with perhaps one line end after it. -/
structure Writes (s path : String) : Prop where
  nonempty : path ≠ ""
  line : '\n' ∉ path.toList
  whole : s = whole path ∨ s = Template.whole path ++ "\n"

/-- Nothing closes before the last brace. -/
theorem not_closing {cs tail : List Char} {c : Char} :
    ¬ (c = close ∧ (cs ++ close :: tail = [] ∨ cs ++ close :: tail = ['\n'])) := by
  rintro ⟨-, hend | hend⟩
  · exact absurd hend (List.append_ne_nil_of_right_ne_nil _ nofun)
  · have hmem : close ∈ cs ++ close :: tail := List.mem_append_cons_self
    rw [hend, List.mem_singleton] at hmem
    exact absurd hmem (by decide)

theorem beforeClose?_eq_some_iff {body cs : List Char} :
    beforeClose? body = some cs ↔
      '\n' ∉ cs ∧ (body = cs ++ [close] ∨ body = cs ++ [close, '\n']) := by
  constructor
  · intro h
    induction body generalizing cs with
    | nil => cases h
    | cons c rest ih =>
        rw [beforeClose?] at h
        split at h
        · cases h
        · next hline =>
            split at h
            · next hclose =>
                obtain ⟨rfl, rfl | rfl⟩ := hclose
                · cases h
                  exact ⟨List.not_mem_nil, Or.inl rfl⟩
                · cases h
                  exact ⟨List.not_mem_nil, Or.inr rfl⟩
            · obtain ⟨more, hmore, rfl⟩ := Option.map_eq_some_iff.mp h
              obtain ⟨hmem, hrest⟩ := ih hmore
              refine ⟨?_, hrest.imp (congrArg (c :: ·)) (congrArg (c :: ·))⟩
              rw [List.mem_cons, not_or]
              exact ⟨Ne.symm hline, hmem⟩
  · rintro ⟨hline, hbody⟩
    obtain ⟨tail, htail, rfl⟩ : ∃ tail, (tail = [] ∨ tail = ['\n']) ∧ body = cs ++ close :: tail := by
      rcases hbody with rfl | rfl
      · exact ⟨[], Or.inl rfl, rfl⟩
      · exact ⟨['\n'], Or.inr rfl, rfl⟩
    clear hbody
    induction cs with
    | nil =>
        have hnot : close ≠ '\n' := by decide
        rw [List.nil_append, beforeClose?, if_neg hnot, if_pos ⟨rfl, htail⟩]
    | cons c cs ih =>
        rw [List.mem_cons, not_or] at hline
        rw [List.cons_append, beforeClose?, if_neg (Ne.symm hline.1), if_neg not_closing,
          ih hline.2]
        rfl

theorem toList_eq_whole_iff {s path : String} {tail : List Char} :
    s.toList = opening ++ (path.toList ++ close :: tail) ↔
      s = whole path ++ String.ofList tail := by
  rw [← String.toList_inj]
  unfold whole
  rw [String.toList_append, String.toList_ofList, String.toList_ofList, List.append_assoc,
    List.append_assoc, List.singleton_append]

/-- The texts that are read as templates are those that are written as templates. -/
theorem path?_eq_some_iff {s path : String} : path? s = some path ↔ Writes s path := by
  have hwhole : s.toList = opening ++ (path.toList ++ [close]) ↔ s = whole path := by
    rw [toList_eq_whole_iff, String.ofList_nil, String.append_empty]
  have hline : s.toList = opening ++ (path.toList ++ [close, '\n']) ↔ s = whole path ++ "\n" :=
    toList_eq_whole_iff
  unfold path?
  constructor
  · intro h
    split at h
    · cases h
    · next body hbody =>
        split at h
        · next c cs hcs =>
            cases h
            obtain ⟨hmem, hend⟩ := beforeClose?_eq_some_iff.mp hcs
            have hbody := Text.dropLead?_eq_some_iff.mp hbody
            rw [String.toList_ofList] at hwhole hline
            refine ⟨?_, by rwa [String.toList_ofList], ?_⟩
            · intro hempty
              have hnil := String.toList_eq_nil_iff.mpr hempty
              rw [String.toList_ofList] at hnil
              cases hnil
            · rcases hend with rfl | rfl
              · exact Or.inl (hwhole.mp hbody)
              · exact Or.inr (hline.mp hbody)
        · cases h
  · rintro ⟨hpath, hmem, hend⟩
    obtain ⟨body, hbody, hclose⟩ : ∃ body, s.toList = opening ++ body ∧
        (body = path.toList ++ [close] ∨ body = path.toList ++ [close, '\n']) := by
      rcases hend with h | h
      · exact ⟨_, hwhole.mpr h, Or.inl rfl⟩
      · exact ⟨_, hline.mpr h, Or.inr rfl⟩
    rw [Text.dropLead?_eq_some_iff.mpr hbody]
    dsimp only
    rw [beforeClose?_eq_some_iff.mpr ⟨hmem, hclose⟩]
    cases hcs : path.toList with
    | nil => exact absurd (String.toList_eq_nil_iff.mp hcs) hpath
    | cons c cs =>
        dsimp only
        rw [← hcs, String.ofList_toList]

/-- A text that is a template begins with an opening, and the path and a closing brace follow. -/
theorem toList_of_path? {s path : String} (h : path? s = some path) :
    ∃ c cs tail, path.toList = c :: cs ∧ '\n' ∉ c :: cs ∧
      s.toList = opening ++ (c :: (cs ++ close :: tail)) := by
  obtain ⟨hpath, hline, hwhole⟩ := path?_eq_some_iff.mp h
  obtain ⟨tail, htext⟩ : ∃ tail, s.toList = opening ++ (path.toList ++ close :: tail) := by
    rcases hwhole with h | h
    · exact ⟨[], toList_eq_whole_iff.mpr (by rw [h, String.ofList_nil, String.append_empty])⟩
    · exact ⟨['\n'], toList_eq_whole_iff.mpr h⟩
  cases hcs : path.toList with
  | nil => exact absurd (String.toList_eq_nil_iff.mp hcs) hpath
  | cons c cs =>
      rw [hcs] at hline htext
      exact ⟨c, cs, tail, rfl, hline, htext⟩

/-- The template of a path is read back as a template of that path. -/
theorem path?_whole {path : String} (hpath : path ≠ "") (hline : '\n' ∉ path.toList) :
    path? (whole path) = some path := path?_eq_some_iff.mpr ⟨hpath, hline, Or.inl rfl⟩

theorem path?_eq_none_iff {s : String} : path? s = none ↔ ∀ path, ¬ Writes s path := by
  simp only [← path?_eq_some_iff, Option.eq_none_iff_forall_ne_some, ne_eq]

end Template

end Warrant
