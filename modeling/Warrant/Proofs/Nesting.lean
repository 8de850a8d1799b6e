import Warrant.Proofs.Likeness
import Warrant.Proofs.Matching

/-!
# Dotted keys and nested mappings

A key with a dot in it can be written as two keys, one inside the other: what is
expected at `owner.team` is what is expected at `team` of what stands at
`owner`. A dotted key is one walk from the target. A nested mapping is a walk to
the place in between, a look whether anything is there, and a second walk from
it. The two come to the same because walks compose, and because a walk from
nowhere leads nowhere.

The look in between shows only where nothing is there. Then a nested mapping does
not match, whatever it asks for. A dotted key fails as well if what it expects
is something, but null expects that there is nothing and has its way. So null
is the one condition for which the two spellings differ, and they differ exactly
where the first part of the key leads nowhere.
-/

namespace Warrant

/-! ## Walks compose -/

theorem Text.splitChars_append (sep : Char) (ps qs : List Char) :
    splitChars sep (ps ++ sep :: qs) = splitChars sep ps ++ splitChars sep qs := by
  induction ps with
  | nil => exact if_pos rfl
  | cons c cs ih =>
      rw [List.cons_append, splitChars, splitChars]
      split
      · rw [ih, List.cons_append]
      · -- The pieces of what comes before are never none, so the character joins one of them.
        cases hpieces : splitChars sep cs with
        | nil => exact absurd hpieces (splitChars_ne_nil sep cs)
        | cons piece pieces => rw [ih, hpieces, List.cons_append, List.cons_append]

/-- The hops of two paths joined by a dot are those of the one and then those of the other. -/
theorem Text.split_dot (p q : String) :
    split '.' (p ++ "." ++ q) = split '.' p ++ split '.' q := by
  have hchars : (p ++ "." ++ q).toList = p.toList ++ '.' :: q.toList := by
    rw [String.toList_append, String.toList_append, List.append_assoc]
    rfl
  rw [split, hchars, splitChars_append, List.map_append]
  rfl

namespace Value

theorem walkHops_unresolved (hops : List String) :
    walkHops hops unresolved = .ok unresolved := by
  cases hops <;> rfl

/-- A walk can be stopped anywhere but at its end, where null is made unresolved, which further
hops would have done themselves. -/
theorem walkHops_append {qs : List String} (hqs : qs ≠ []) :
    ∀ (ps : List String) (v : Value), walkHops (ps ++ qs) v = walkHops ps v >>= walkHops qs
  | [], v => by
      obtain ⟨hop, hops, rfl⟩ := List.exists_cons_of_ne_nil hqs
      cases v <;> rfl
  | hop :: ps, v => by
      rw [List.cons_append, walkHops, walkHops]
      split
      · exact (walkHops_unresolved qs).symm
      · cases v.lookup hop with
        | error e => rfl
        | ok w => exact walkHops_append hqs ps w

/-- A walk along two paths joined by a dot goes along the one and then along the other. -/
theorem walk_dot (v : Value) (p q : String) :
    v.walk (p ++ "." ++ q) = v.walk p >>= fun w => w.walk q := by
  have hq : Text.split '.' q ≠ [] := fun h =>
    Text.splitChars_ne_nil _ _ (List.map_eq_nil_iff.mp h)
  rw [walk, Text.split_dot, walkHops_append hq]
  rfl

end Value

namespace Conditions

open Value

/-! ## One entry -/

/-- What comes of one entry for a target. -/
def entryMatches (path : String) (expected target : Value) : Except Fault Bool :=
  match target.walk path with
  | .error e => .error e
  | .ok actual => valueMatches expected actual

theorem entriesMatch_cons_eq (path : String) (expected : Value) (rest : List (String × Value))
    (target : Value) : entriesMatch ((path, expected) :: rest) target =
      match entryMatches path expected target with
      | .ok true => entriesMatch rest target
      | r => r := by
  rw [entriesMatch, entryMatches]
  cases target.walk path <;> rfl

theorem entriesMatch_singleton (path : String) (expected target : Value) :
    entriesMatch [(path, expected)] target = entryMatches path expected target := by
  rw [entriesMatch_cons_eq]
  split
  · next h => rw [h, entriesMatch]
  · rfl

/-- An entry can be replaced by one of which the same comes, wherever it stands. -/
theorem entriesMatch_replace {path path' : String} {expected expected' target : Value}
    (h : entryMatches path expected target = entryMatches path' expected' target)
    (before after : List (String × Value)) :
    entriesMatch (before ++ (path, expected) :: after) target =
      entriesMatch (before ++ (path', expected') :: after) target := by
  induction before with
  | nil => rw [List.nil_append, List.nil_append, entriesMatch_cons_eq, h, entriesMatch_cons_eq]
  | cons entry before ih =>
      rw [List.cons_append, List.cons_append, entriesMatch_cons_eq, ih, entriesMatch_cons_eq]

/-! ## What an expectation makes of nothing -/

/-- Whether an expectation asks for something to be there. Null asks for the opposite, and a value
outside the grammar of conditions is a fault, whatever is there. -/
def asksPresence : Value → Bool
  | .null => false
  | .bytes _ => false
  | .object .. => false
  | .entity .. => false
  | .resource .. => false
  | _ => true

theorem valueMatches_nothing (expected : Value) :
    valueMatches expected .unresolved = .ok false ↔ asksPresence expected = true := by
  cases expected <;> simp [valueMatches, asksPresence, scalarMatches, sequence?, isUnresolved]

/-- A mapping of one entry looks whether anything is there before it walks on. -/
theorem valueMatches_nested (q : String) (expected actual : Value) :
    valueMatches (.map [(q, expected)]) actual =
      if actual.isUnresolved then .ok false else entryMatches q expected actual := by
  rw [valueMatches, entriesMatch_singleton]

/-- The spellings come to the same unless nothing is there to walk on from. -/
theorem entryMatches_dot_iff (p q : String) (expected target : Value) :
    entryMatches (p ++ "." ++ q) expected target =
        entryMatches p (.map [(q, expected)]) target ↔
      (target.walk p = .ok .unresolved → asksPresence expected = true) := by
  unfold entryMatches
  rw [walk_dot]
  cases hwalk : target.walk p with
  | error e => exact iff_of_true rfl fun h => nomatch h
  | ok w =>
      show entryMatches q expected w = valueMatches (.map [(q, expected)]) w ↔ _
      rw [valueMatches_nested, Except.ok.injEq]
      by_cases hnothing : w = .unresolved
      · subst hnothing
        rw [← valueMatches_nothing, entryMatches, walk, walkHops_unresolved]
        exact (imp_iff_right rfl).symm
      · have hthere : w.isUnresolved = false := by
          cases w <;> first | rfl | exact absurd rfl hnothing
        rw [hthere]
        exact iff_of_true rfl fun h => absurd h hnothing

/-! ## Whole conditions -/

/-- A dotted key and a nested mapping come to the same for every target, faults included, in
conditions with any other entries, if what is expected is something. Otherwise they come to the
same exactly for the targets in which the first part of the key leads somewhere. -/
theorem holds_dotted (p q : String) (expected target : Value) :
    (asksPresence expected = true → ∀ before after : List (String × Value),
      holds (.map (before ++ (p ++ "." ++ q, expected) :: after)) target =
        holds (.map (before ++ (p, .map [(q, expected)]) :: after)) target) ∧
    (asksPresence expected = false →
      (holds (.map [(p ++ "." ++ q, expected)]) target =
          holds (.map [(p, .map [(q, expected)])]) target ↔
        target.walk p ≠ .ok .unresolved)) := by
  constructor
  · intro hasks before after
    exact entriesMatch_replace ((entryMatches_dot_iff p q expected target).mpr fun _ => hasks) _ _
  · intro hasks
    show entriesMatch _ _ = entriesMatch _ _ ↔ _
    rw [entriesMatch_singleton, entriesMatch_singleton, entryMatches_dot_iff, hasks]
    exact ⟨fun h hno => Bool.noConfusion (h hno), fun h hno => absurd hno h⟩

/-- An order whose team can be read and whose price cannot. -/
def sampleOrder : Value :=
  .object "Order" none [("owner", .map [("team", .map [("id", .int 5)])]), ("note", .null)]
    ["price"]

/-- A key of three hops that holds, one that fails on the way, and null below a null attribute,
where the spellings differ. -/
theorem holds_dotted_order :
    (asksPresence (.int 5) = true ∧
      holds (.map [("owner" ++ "." ++ "team.id", .int 5)]) sampleOrder =
        holds (.map [("owner", .map [("team.id", .int 5)])]) sampleOrder ∧
      holds (.map [("owner", .map [("team.id", .int 5)])]) sampleOrder = .ok true) ∧
    (holds (.map [("price" ++ "." ++ "", .int 5)]) sampleOrder =
        holds (.map [("price", .map [("", .int 5)])]) sampleOrder ∧
      holds (.map [("price", .map [("", .int 5)])]) sampleOrder = .error .attributeFailed) ∧
    (asksPresence .null = false ∧ sampleOrder.walk "note" = .ok .unresolved ∧
      holds (.map [("note" ++ "." ++ "by", .null)]) sampleOrder ≠
        holds (.map [("note", .map [("by", .null)])]) sampleOrder) :=
  ⟨⟨rfl, (holds_dotted "owner" "team.id" (.int 5) sampleOrder).1 rfl [] [], by cbv⟩,
    ⟨(holds_dotted "price" "" (.int 5) sampleOrder).1 rfl [] [], by cbv⟩,
    rfl, by cbv, fun h => ((holds_dotted "note" "by" .null sampleOrder).2 rfl).mp h (by cbv)⟩

end Conditions

end Warrant
