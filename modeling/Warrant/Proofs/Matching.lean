import Warrant.Conditions.Match
import Warrant.Conditions.Unresolved

/-!
# What a match has looked at

Matching stops at the first key that does not hold, so a mapping that matches
has been gone through to its end: at each of its keys something was found, and
it was what is expected there. The same goes for the items of a sequence.

An unresolved value is what no walk can satisfy. Whoever asks whether a tree can
be satisfied looks for one at any depth, and matching never passes one by, for
it visits the whole tree before it says yes.
-/

namespace Warrant.Conditions

theorem entriesMatch_cons {path : String} {expected target : Value}
    {rest : List (String × Value)} :
    entriesMatch ((path, expected) :: rest) target = .ok true ↔
      (∃ actual, target.walk path = .ok actual ∧ valueMatches expected actual = .ok true) ∧
        entriesMatch rest target = .ok true := by
  rw [entriesMatch]
  cases hwalk : target.walk path with
  | error e => simp only [reduceCtorEq, false_and, exists_false]
  | ok actual =>
      simp only [Except.ok.injEq, exists_eq_left']
      split
      · next hmatch => simp only [hmatch, true_and]
      · next hno =>
          constructor
          · intro h
            exact absurd h hno
          · intro h
            exact absurd h.1 hno

theorem itemsMatch_cons {expected actual : Value} {es as : List Value} :
    itemsMatch (expected :: es) (actual :: as) = .ok true ↔
      valueMatches expected actual = .ok true ∧ itemsMatch es as = .ok true := by
  rw [itemsMatch]
  split
  · next hmatch => simp only [hmatch, true_and]
  · next hno =>
      constructor
      · intro h
        exact absurd h hno
      · intro h
        exact absurd h.1 hno

/-- If a mapping matches, what is expected at each of its keys was found there. -/
theorem entriesMatch_mem {es : List (String × Value)} {target expected : Value} {k : String}
    (h : entriesMatch es target = .ok true) (hmem : (k, expected) ∈ es) :
    ∃ actual, target.walk k = .ok actual ∧ valueMatches expected actual = .ok true := by
  induction es with
  | nil => cases hmem
  | cons entry rest ih =>
      obtain ⟨key, first⟩ := entry
      obtain ⟨hfirst, hrest⟩ := entriesMatch_cons.mp h
      rcases List.mem_cons.mp hmem with heq | hmem
      · cases heq
        exact hfirst
      · exact ih hrest hmem

theorem sequence_matches {es : List Value} {actual : Value}
    (h : (match sequence? actual with
      | some as => if es.length = as.length then itemsMatch es as else .ok false
      | none => .ok false) = .ok true) :
    ∃ as, es.length = as.length ∧ itemsMatch es as = .ok true := by
  split at h
  · next as _ =>
      split at h
      · next hlength => exact ⟨as, hlength, h⟩
      · cases h
  · cases h

/-! ## No unresolved value matches -/

mutual

/-- A tree that matches has no unresolved value in it. -/
theorem hasUnresolved_of_matches :
    ∀ expected actual : Value, valueMatches expected actual = .ok true →
      expected.hasUnresolved = false
  | .unresolved, _, h => by
      rw [valueMatches] at h
      cases h
  | .map es, actual, h => by
      rw [valueMatches] at h
      split at h
      · cases h
      · exact entriesHaveUnresolved_of_match es actual h
  | .list es, actual, h => by
      rw [valueMatches] at h
      obtain ⟨as, hlength, hitems⟩ := sequence_matches h
      exact itemsHaveUnresolved_of_match es as hlength hitems
  | .tuple es, actual, h => by
      rw [valueMatches] at h
      obtain ⟨as, hlength, hitems⟩ := sequence_matches h
      exact itemsHaveUnresolved_of_match es as hlength hitems
  | .null, _, _ | .bool _, _, _ | .int _, _, _ | .double _, _, _ | .text _, _, _
  | .bytes _, _, _ | .uuid _, _, _ | .object .., _, _ | .entity .., _, _
  | .resource .., _, _ => rfl

/-- The lengths matter: items beyond the end of the other sequence are not looked at. -/
theorem itemsHaveUnresolved_of_match :
    ∀ es as : List Value, es.length = as.length → itemsMatch es as = .ok true →
      Value.itemsHaveUnresolved es = false
  | [], _, _, _ => rfl
  | _ :: _, [], hlength, _ => by cases hlength
  | expected :: es, actual :: as, hlength, h => by
      obtain ⟨hfirst, hrest⟩ := itemsMatch_cons.mp h
      rw [Value.itemsHaveUnresolved, hasUnresolved_of_matches expected actual hfirst,
        Bool.false_or]
      exact itemsHaveUnresolved_of_match es as (Nat.succ.inj hlength) hrest

theorem entriesHaveUnresolved_of_match :
    ∀ (es : List (String × Value)) (target : Value), entriesMatch es target = .ok true →
      Value.entriesHaveUnresolved es = false
  | [], _, _ => rfl
  | (_, expected) :: es, target, h => by
      obtain ⟨⟨actual, -, hfirst⟩, hrest⟩ := entriesMatch_cons.mp h
      rw [Value.entriesHaveUnresolved, hasUnresolved_of_matches expected actual hfirst,
        Bool.false_or]
      exact entriesHaveUnresolved_of_match es target hrest

end

theorem hasUnresolved_of_holds {conditions target : Value}
    (h : holds conditions target = .ok true) : conditions.hasUnresolved = false := by
  unfold holds at h
  split at h
  · next es => exact entriesHaveUnresolved_of_match es target h
  · cases h

end Warrant.Conditions
