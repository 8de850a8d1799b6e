import Warrant.Proofs.Acceptance
import Warrant.Proofs.Tables

/-!
# What can be stored

A rule that passes the checks is written to a JSON column, and the checks do not
ask whether that can be done. Of its parts only the conditions are in question,
for what they hold is not looked at. They come from what was sent, as a mapping
in it or as a text in it that is read as a mapping. So if what was sent is JSON,
it remains to be seen that reading a text gives JSON too.
-/

namespace Warrant

namespace Value

/-- A value that is JSON through and through: it is stored as it is. -/
def IsJson (v : Value) : Prop := v.stored? = some v

theorem isJson_list {items : List Value} (h : ∀ v ∈ items, v.IsJson) : (list items).IsJson := by
  have hitems : storedItems? items = some items := by
    induction items with
    | nil => rfl
    | cons v rest ih =>
        rw [List.forall_mem_cons] at h
        exact storedItems?_cons_iff.mpr ⟨v, rest, h.1, ih h.2, rfl⟩
  rw [IsJson, stored?, hitems]
  rfl

theorem isJson_map {es : List (String × Value)} (h : ∀ e ∈ es, e.2.IsJson) : (map es).IsJson := by
  have hentries : storedEntries? es = some es := by
    induction es with
    | nil => rfl
    | cons e rest ih =>
        rw [List.forall_mem_cons] at h
        exact storedEntries?_cons_iff.mpr ⟨e.2, rest, h.1, ih h.2, rfl⟩
  rw [IsJson, stored?, hentries]
  rfl

/-- What stands under a key of a mapping that is JSON is JSON, and so is null, which stands for what
is not there. -/
theorem IsJson.part {es : List (String × Value)} (h : (map es).IsJson) (key : String) :
    ((find? key es).getD .null).IsJson := by
  rw [IsJson, stored?, Option.map_eq_some_iff] at h
  obtain ⟨es', hes, heq⟩ := h
  obtain rfl := Value.map.inj heq
  exact storedEntries?_find? hes key

theorem mem_put {key : String} {v : Value} {es : List (String × Value)} {e : String × Value}
    (h : e ∈ put key v es) : e = (key, v) ∨ e ∈ es := by
  induction es with
  | nil => exact Or.inl (List.mem_singleton.mp h)
  | cons first rest ih =>
      rw [put] at h
      split at h
      · next heq =>
          rw [heq] at h
          exact (List.mem_cons.mp h).imp_right (List.mem_cons_of_mem _)
      · rcases List.mem_cons.mp h with rfl | h
        · exact Or.inr List.mem_cons_self
        · exact (ih h).imp_right (List.mem_cons_of_mem _)

/-- Collecting entries brings in no others. -/
theorem mem_collect {es : List (String × Value)} {e : String × Value} (h : e ∈ collect es) :
    e ∈ es := by
  have hfold : ∀ (es done : List (String × Value)),
      e ∈ es.foldl (fun done entry => put entry.1 entry.2 done) done → e ∈ done ∨ e ∈ es := by
    intro es
    induction es with
    | nil => exact fun done h => Or.inl h
    | cons first rest ih =>
        intro done h
        rcases ih _ h with h | h
        · exact (mem_put h).elim (fun heq => Or.inr (heq ▸ List.mem_cons_self)) Or.inl
        · exact Or.inr (List.mem_cons_of_mem _ h)
  exact (hfold es [] h).resolve_left List.not_mem_nil

end Value

/-! ## Reading JSON -/

namespace Json

theorem number_isJson {negative : Bool} {cs rest : List Char} {v : Value}
    (h : number negative cs = .ok (v, rest)) : v.IsJson := by
  unfold number at h
  split at h
  dsimp only at h
  split at h
  · cases h
  · split at h
    · split at h
      · cases h
      · cases h
        exact rfl
    · cases h
      exact rfl

theorem word?_isJson {cs rest : List Char} {v : Value} (h : word? cs = some (v, rest)) :
    v.IsJson := by
  obtain ⟨w, hw, hlead⟩ := List.exists_of_findSome?_eq_some h
  obtain ⟨after, -, heq⟩ := Option.map_eq_some_iff.mp hlead
  obtain rfl : w.2 = v := congrArg Prod.fst heq
  have hwords : ∀ w ∈ words, w.2.IsJson := by simp [words, Value.IsJson, Value.stored?]
  exact hwords w hw

section

variable {fuel levels : Nat}
  (hvalue : ∀ {levels : Nat} {cs rest : List Char} {v : Value},
    value fuel levels cs = .ok (v, rest) → v.IsJson)
  (hentries : ∀ {levels : Nat} {cs rest : List Char} {es : List (String × Value)},
    entries fuel levels cs = .ok (es, rest) → ∀ e ∈ es, e.2.IsJson)
  (hitems : ∀ {levels : Nat} {cs rest : List Char} {vs : List Value},
    items fuel levels cs = .ok (vs, rest) → ∀ v ∈ vs, v.IsJson)

include hentries hitems in
theorem value_isJson_succ {cs rest : List Char} {v : Value}
    (h : value (fuel + 1) levels cs = .ok (v, rest)) : v.IsJson := by
  unfold value at h
  split at h
  -- A string.
  · split at h
    · cases h
      exact rfl
    · cases h
  -- An object.
  · split at h
    · cases h
    · split at h
      · cases h
        exact rfl
      · obtain ⟨⟨es, after⟩, hes, heq⟩ := Fault.map_ok.mp h
        cases heq
        exact Value.isJson_map fun e he => hentries hes e (Value.mem_collect he)
  -- An array.
  · split at h
    · cases h
    · split at h
      · cases h
        exact rfl
      · obtain ⟨⟨vs, after⟩, hvs, heq⟩ := Fault.map_ok.mp h
        cases heq
        exact Value.isJson_list (hitems hvs)
  -- A word or a number.
  · split at h
    · next hword =>
        cases h
        exact word?_isJson hword
    · split at h <;> exact number_isJson h

include hvalue hentries in
theorem entries_isJson_succ {cs rest : List Char} {es : List (String × Value)}
    (h : entries (fuel + 1) levels cs = .ok (es, rest)) : ∀ e ∈ es, e.2.IsJson := by
  unfold entries at h
  split at h
  · cases h
  · next heq =>
      cases heq
      split at h
      · cases h
      · split at h
        · obtain ⟨⟨v, after⟩, hv, h⟩ := Fault.bind_ok.mp h
          have hfirst : v.IsJson := hvalue hv
          dsimp only at h
          split at h
          · cases h
            exact List.forall_mem_singleton.mpr hfirst
          · obtain ⟨⟨more, last⟩, hmore, h⟩ := Fault.bind_ok.mp h
            have hrest := hentries hmore
            cases h
            exact List.forall_mem_cons.mpr ⟨hfirst, hrest⟩
          · cases h
        · cases h
  · cases h

include hvalue hitems in
theorem items_isJson_succ {cs rest : List Char} {vs : List Value}
    (h : items (fuel + 1) levels cs = .ok (vs, rest)) : ∀ v ∈ vs, v.IsJson := by
  obtain ⟨⟨v, after⟩, hv, h⟩ := Fault.bind_ok.mp h
  dsimp only at h
  split at h
  · cases h
    exact List.forall_mem_singleton.mpr (hvalue hv)
  · obtain ⟨⟨more, last⟩, hmore, h⟩ := Fault.bind_ok.mp h
    cases h
    exact List.forall_mem_cons.mpr ⟨hvalue hv, hitems hmore⟩
  · cases h

end

/-- Whatever is read is JSON, by induction on the fuel for values, members and items at once. -/
theorem isJson_of_fuel (fuel : Nat) :
    (∀ {levels : Nat} {cs rest : List Char} {v : Value},
      value fuel levels cs = .ok (v, rest) → v.IsJson) ∧
    (∀ {levels : Nat} {cs rest : List Char} {es : List (String × Value)},
      entries fuel levels cs = .ok (es, rest) → ∀ e ∈ es, e.2.IsJson) ∧
    ∀ {levels : Nat} {cs rest : List Char} {vs : List Value},
      items fuel levels cs = .ok (vs, rest) → ∀ v ∈ vs, v.IsJson := by
  induction fuel with
  | zero => exact ⟨nofun, nofun, nofun⟩
  | succ fuel ih =>
      obtain ⟨hvalue, hentries, hitems⟩ := ih
      exact ⟨value_isJson_succ hentries hitems, entries_isJson_succ hvalue hentries,
        items_isJson_succ hvalue hitems⟩

/-- A text that is read as a value is read as JSON. -/
theorem read_isJson {s : String} {v : Value} (h : read s = .ok v) : v.IsJson := by
  obtain ⟨⟨w, rest⟩, hvalue, h⟩ := Fault.bind_ok.mp h
  dsimp only at h
  split at h
  · cases h
    exact (isJson_of_fuel _).1 hvalue
  · cases h

end Json

/-! ## Rules -/

namespace RuleInput

theorem givesConditions_isJson {v : Value} {conditions : Option (List (String × Value))}
    (h : v.GivesConditions conditions) (hv : v.IsJson) :
    (Value.ofOption .map conditions).IsJson := by
  cases h with
  | none => exact rfl
  | given es => exact hv
  | written hread => exact Json.read_isJson hread

/-- A rule that is read from JSON has conditions that can be stored. -/
theorem conditions_isJson {v : Value} {rule : RuleInput} (h : ofValue v = .ok rule)
    (hv : v.IsJson) : (Value.ofOption .map rule.conditions).IsJson := by
  obtain ⟨es, rfl, hstated⟩ := ofValue_ok_iff.mp h
  exact givesConditions_isJson hstated.conditions (hv.part "conditions")

end RuleInput

end Warrant
