import Warrant.Json.Reader
import Warrant.Proofs.Rules

/-!
# How deep a text goes

A text can open no more arrays and objects inside one another than the reader has
levels to go down. Where the limit lies is an accident of who reads, so what is
said here is said for any limit: a text that opens more arrays at its very
beginning is too deep, whatever follows, and a text that opens no more arrays and
objects altogether is not.

For the second the reader has to be followed through the whole text. What it has
read so far is gone: it answers with an end of the characters that it was given,
and in an end of them no more can be opened than in all.
-/

namespace Warrant.Json

/-! ## Too deep -/

theorem skip_bracket (cs : List Char) : skip ('[' :: cs) = '[' :: cs := rfl

/-- More brackets than there are levels are too deep, whatever follows them. -/
theorem value_brackets (levels : Nat) (rest : List Char) : ∀ {fuel : Nat}, 2 * levels < fuel →
    value fuel levels (List.replicate (levels + 1) '[' ++ rest) = .error .tooDeep := by
  induction levels with
  | zero =>
      intro fuel hfuel
      obtain ⟨fuel, rfl⟩ := Nat.exists_eq_succ_of_ne_zero (Nat.ne_of_gt hfuel)
      rfl
  | succ levels ih =>
      intro fuel hfuel
      obtain ⟨fuel, rfl⟩ : ∃ n, fuel = n + 2 := ⟨fuel - 2, by omega⟩
      -- Behind the first bracket the next one is the first item.
      have hitems : items (fuel + 1) levels (List.replicate (levels + 1) '[' ++ rest) =
          .error .tooDeep := by
        rw [items.eq_def]
        dsimp only
        rw [ih (by omega)]
        rfl
      calc value (fuel + 2) (levels + 1) (List.replicate (levels + 1 + 1) '[' ++ rest)
          = (items (fuel + 1) levels (List.replicate (levels + 1) '[' ++ rest)).map
              fun r => (.list r.1, r.2) := rfl
        _ = .error .tooDeep := by rw [hitems]; rfl

/-- A text of more brackets than there are levels is too deep. -/
theorem read_brackets {n : Nat} (h : maxLevels < n) :
    read (String.ofList (List.replicate n '[')) = .error .tooDeep := by
  have hsplit : List.replicate n '[' =
      List.replicate (maxLevels + 1) '[' ++ List.replicate (n - (maxLevels + 1)) '[' := by
    rw [List.replicate_append_replicate, Nat.add_sub_cancel' h]
  have hskip : skip (List.replicate n '[') = List.replicate n '[' := by
    rw [hsplit, List.replicate_succ, List.cons_append, skip_bracket]
  have hdeep : value (2 * n + 1) maxLevels (List.replicate n '[') = .error .tooDeep := by
    rw [hsplit]
    exact value_brackets _ _ (by omega)
  rw [read, String.toList_ofList, readChars, hskip, List.length_replicate, hdeep]
  rfl

/-! ## Not too deep -/

/-- How many arrays and objects are opened among the characters. -/
def openings (cs : List Char) : Nat := cs.countP fun c => c == '[' || c == '\x7b'

theorem openings_le {levels : Nat} {cs rest : List Char} (h : rest <:+ cs)
    (hcs : openings cs ≤ levels) : openings rest ≤ levels :=
  Nat.le_trans h.sublist.countP_le hcs

/-- What can come of reading some characters without going too deep: something and an end of the
characters, or a failure of another kind. -/
inductive Stays {α : Type} (cs : List Char) : Except Fault (α × List Char) → Prop where
  | read (a : α) {rest : List Char} (h : rest <:+ cs) : Stays cs (.ok (a, rest))
  | failed {why : Fault} (h : why ≠ .tooDeep) : Stays cs (.error why)

section

variable {α β : Type} {cs rest : List Char} {r : Except Fault (α × List Char)}

theorem Stays.of_suffix (h : Stays rest r) (hrest : rest <:+ cs) : Stays cs r := by
  cases h with
  | read a hsuffix => exact .read a (hsuffix.trans hrest)
  | failed hwhy => exact .failed hwhy

theorem Stays.malformed : Stays (α := α) cs (.error .malformedText) := .failed (by decide)

theorem Stays.map (f : α → β) (h : Stays cs r) : Stays cs (r.map fun x => (f x.1, x.2)) := by
  cases h with
  | read a hrest => exact .read (f a) hrest
  | failed hwhy => exact .failed hwhy

theorem Stays.bind {next : α × List Char → Except Fault (β × List Char)} (h : Stays cs r)
    (hnext : ∀ a rest, rest <:+ cs → Stays rest (next (a, rest))) : Stays cs (r >>= next) := by
  cases h with
  | read a hrest => exact (hnext a _ hrest).of_suffix hrest
  | failed hwhy => exact .failed hwhy

theorem skip_suffix (cs : List Char) : skip cs <:+ cs := List.dropWhile_suffix _

theorem suffix_of_skip {c : Char} (h : skip cs = c :: rest) : rest <:+ cs :=
  (List.suffix_cons c rest).trans (h ▸ skip_suffix cs)

end

/-! ### Texts, words and numbers -/

theorem string?_suffix (cs : List Char) (half : Option Nat) (done : List Char) :
    ∀ s rest, string? cs half done = some (s, rest) → rest <:+ cs := by
  fun_induction string? cs half done with
  | case1 rest half done =>
      rintro s after h
      cases h
      exact List.suffix_cons _ _
  | case2 a b c d rest half done n hunit half' done' htake ih =>
      exact fun s after h => (ih s after h).trans
        ((List.suffix_append ['\x5c', 'u', a, b, c, d] rest))
  | case3 => nofun
  | case4 c rest half done hnot e hescape ih =>
      exact fun s after h => (ih s after h).trans (List.suffix_append ['\x5c', c] rest)
  | case5 => nofun
  | case6 => nofun
  | case7 c rest half done hquote hunit hescape hplain ih =>
      exact fun s after h => (ih s after h).trans (List.suffix_cons c rest)
  | case8 => nofun

theorem cutFraction_suffix (cs : List Char) : (cutFraction cs).2 <:+ cs := by
  unfold cutFraction
  split
  · next rest =>
      have hrest : (cutDigits rest).2 <:+ '.' :: rest :=
        (List.dropWhile_suffix _).trans (List.suffix_cons '.' rest)
      split
      · exact List.suffix_refl _
      · next hdigits =>
          rw [hdigits] at hrest
          exact hrest
  · exact List.suffix_refl cs

theorem cutSign_suffix (cs : List Char) : (Text.Numeral.cutSign cs).2 <:+ cs := by
  unfold Text.Numeral.cutSign
  split
  · exact List.suffix_cons _ _
  · exact List.suffix_cons _ _
  · exact List.suffix_refl cs

theorem cutExponent_suffix (cs : List Char) : (cutExponent cs).2 <:+ cs := by
  unfold cutExponent
  split
  · exact List.suffix_refl _
  · next e rest =>
      have hrest : (cutDigits (Text.Numeral.cutSign rest).2).2 <:+ e :: rest :=
        ((List.dropWhile_suffix _).trans (cutSign_suffix rest)).trans (List.suffix_cons e rest)
      split
      · dsimp only
        split
        · exact List.suffix_refl _
        · next hdigits =>
            rw [hdigits] at hrest
            exact hrest
      · exact List.suffix_refl _

theorem number_stays (negative : Bool) (cs : List Char) : Stays cs (number negative cs) := by
  unfold number
  split
  next whole rest hwhole =>
  have hrest : rest <:+ cs := by
    split at hwhole
    · cases hwhole
      exact List.suffix_cons _ _
    · cases hwhole
      exact List.dropWhile_suffix _
  have hend := ((cutExponent_suffix _).trans (cutFraction_suffix rest)).trans hrest
  dsimp only
  split
  · exact .malformed
  · split
    · split
      · exact .failed (by decide)
      · exact .read _ hend
    · exact .read _ hend

theorem dropLead?_suffix (lead : List Char) : ∀ {cs rest : List Char},
    Text.dropLead? lead cs = some rest → rest <:+ cs := by
  induction lead with
  | nil =>
      intro cs rest h
      cases h
      exact List.suffix_refl cs
  | cons l lead ih =>
      intro cs rest h
      cases cs with
      | nil => cases h
      | cons c cs =>
          rw [Text.dropLead?] at h
          split at h
          · exact (ih h).trans (List.suffix_cons c cs)
          · cases h

theorem word?_suffix {cs rest : List Char} {v : Value} (h : word? cs = some (v, rest)) :
    rest <:+ cs := by
  obtain ⟨w, -, hlead⟩ := List.exists_of_findSome?_eq_some h
  obtain ⟨after, hafter, heq⟩ := Option.map_eq_some_iff.mp hlead
  cases heq
  exact dropLead?_suffix _ hafter

/-! ### Values -/

section

variable {fuel : Nat}
  (hvalue : ∀ {levels : Nat} {cs : List Char}, openings cs ≤ levels →
    Stays cs (value fuel levels cs))
  (hentries : ∀ {levels : Nat} {cs : List Char}, openings cs ≤ levels →
    Stays cs (entries fuel levels cs))
  (hitems : ∀ {levels : Nat} {cs : List Char}, openings cs ≤ levels →
    Stays cs (items fuel levels cs))

include hentries hitems in
theorem value_stays_succ {levels : Nat} {cs : List Char} (h : openings cs ≤ levels) :
    Stays cs (value (fuel + 1) levels cs) := by
  unfold value
  split
  -- A string.
  · split
    · next hstring => exact .read _ ((string?_suffix _ _ _ _ _ hstring).trans (List.suffix_cons _ _))
    · exact .malformed
  -- An object, which takes one of the levels.
  · next rest =>
      have hopen : openings ('\x7b' :: rest) = openings rest + 1 := List.countP_cons_of_pos rfl
      cases levels with
      | zero => omega
      | succ levels =>
          dsimp only
          split
          · next hclose =>
              exact .read _ ((suffix_of_skip hclose).trans (List.suffix_cons _ _))
          · have hskip : openings (skip rest) ≤ levels := openings_le (skip_suffix rest) (by omega)
            exact ((hentries hskip).map fun es => Value.map (Value.collect es)).of_suffix
              ((skip_suffix rest).trans (List.suffix_cons _ _))
  -- An array.
  · next rest =>
      have hopen : openings ('[' :: rest) = openings rest + 1 := List.countP_cons_of_pos rfl
      cases levels with
      | zero => omega
      | succ levels =>
          dsimp only
          split
          · next hclose =>
              exact .read _ ((suffix_of_skip hclose).trans (List.suffix_cons _ _))
          · have hskip : openings (skip rest) ≤ levels := openings_le (skip_suffix rest) (by omega)
            exact ((hitems hskip).map _).of_suffix
              ((skip_suffix rest).trans (List.suffix_cons _ _))
  -- A word or a number.
  · split
    · next hword => exact .read _ (word?_suffix hword)
    · split
      · exact (number_stays true _).of_suffix (List.suffix_cons _ _)
      · exact number_stays false _

include hvalue hentries in
theorem entries_stays_succ {levels : Nat} {cs : List Char} (h : openings cs ≤ levels) :
    Stays cs (entries (fuel + 1) levels cs) := by
  unfold entries
  split
  · next hzero => cases hzero
  · next hfuel =>
      cases hfuel
      split
      · exact .malformed
      · next key after hkey =>
          have hafter := (string?_suffix _ _ _ _ _ hkey).trans (List.suffix_cons '\x22' _)
          split
          · next rest hcolon =>
              have hrest := ((skip_suffix rest).trans (suffix_of_skip hcolon)).trans hafter
              refine ((hvalue (openings_le hrest h)).bind fun v rest' hrest' => ?_).of_suffix hrest
              dsimp only
              split
              · next hend => exact .read _ (suffix_of_skip hend)
              · next last hmore =>
                  have hlast := (skip_suffix last).trans (suffix_of_skip hmore)
                  have hle := openings_le ((hlast.trans hrest').trans hrest) h
                  refine ((hentries hle).bind fun more _ hsuffix => ?_).of_suffix hlast
                  exact .read _ (List.suffix_refl _)
              · exact .malformed
          · exact .malformed
  · exact .malformed

include hvalue hitems in
theorem items_stays_succ {levels : Nat} {cs : List Char} (h : openings cs ≤ levels) :
    Stays cs (items (fuel + 1) levels cs) := by
  unfold items
  refine (hvalue h).bind fun v rest hrest => ?_
  dsimp only
  split
  · next hend => exact .read _ (suffix_of_skip hend)
  · next last hmore =>
      have hlast := (skip_suffix last).trans (suffix_of_skip hmore)
      have hle := openings_le (hlast.trans hrest) h
      refine ((hitems hle).bind fun more _ hsuffix => ?_).of_suffix hlast
      exact .read _ (List.suffix_refl _)
  · exact .malformed

end

/-- With a level for each array and object that is opened, nothing is too deep, by induction on the
fuel for values, members and items at once. -/
theorem stays_of_fuel (fuel : Nat) :
    (∀ {levels : Nat} {cs : List Char}, openings cs ≤ levels → Stays cs (value fuel levels cs)) ∧
    (∀ {levels : Nat} {cs : List Char}, openings cs ≤ levels →
      Stays cs (entries fuel levels cs)) ∧
    ∀ {levels : Nat} {cs : List Char}, openings cs ≤ levels → Stays cs (items fuel levels cs) := by
  induction fuel with
  | zero => exact ⟨fun _ => .malformed, fun _ => .malformed, fun _ => .malformed⟩
  | succ fuel ih =>
      obtain ⟨hvalue, hentries, hitems⟩ := ih
      exact ⟨value_stays_succ hentries hitems, entries_stays_succ hvalue hentries,
        items_stays_succ hvalue hitems⟩

/-- A text that opens no more arrays and objects than there are levels is not too deep. -/
theorem read_shallow {s : String} (h : openings s.toList ≤ maxLevels) :
    read s ≠ .error .tooDeep := by
  intro hdeep
  have hstays := (stays_of_fuel (2 * s.toList.length + 1)).1 (openings_le (skip_suffix s.toList) h)
  rcases Fault.bind_error.mp hdeep with hvalue | ⟨⟨v, rest⟩, -, hend⟩
  · rw [hvalue] at hstays
    cases hstays with
    | failed hwhy => exact hwhy rfl
  · dsimp only at hend
    split at hend <;> cases hend

end Warrant.Json
