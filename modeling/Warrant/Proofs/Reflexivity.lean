import Mathlib.Data.List.Nodup
import Warrant.Proofs.Matching

/-!
# A document as its own conditions

Conditions and resources are both trees of the JSON kinds, so a tree can be held
against itself. One would expect it to match, and the way there is an induction
in which mappings, sequences and scalars hand over to each other: the value at a
key is found by a walk, an item by its place, and a scalar equals itself unless
it is not a number.

Null is the exception. A walk that ends in null is unresolved, which is what null
expects at a key; an item is not walked to, and a null among the items of a
sequence is no unresolved value. So a tree matches itself if and only if no
sequence in it has null for an item, and where it does not match, that is the
answer and not a fault.
-/

namespace Warrant

/-! ## Documents -/

namespace Value

mutual

/-- Whether a value is a JSON document whose keys are single hops: numbers are finite, and the keys
of a mapping differ and have no dots in them. -/
def isDocument : Value → Bool
  | null => true
  | bool _ => true
  | int _ => true
  | double (.finite ..) => true
  | text _ => true
  | list items => itemsAreDocuments items
  | map es => decide (es.map Prod.fst).Nodup && entriesAreDocuments es
  | _ => false

/-- Whether each of the items is such a document. -/
def itemsAreDocuments : List Value → Bool
  | [] => true
  | v :: rest => isDocument v && itemsAreDocuments rest

/-- Whether each key is a single hop, and each of the values such a document. -/
def entriesAreDocuments : List (String × Value) → Bool
  | [] => true
  | (k, v) :: rest => !k.toList.contains '.' && isDocument v && entriesAreDocuments rest

end

mutual

/-- Whether null is an item of a sequence anywhere in a tree. -/
def hasNullItem : Value → Bool
  | list items => itemsHaveNull items
  | tuple items => itemsHaveNull items
  | map es => entriesHaveNullItem es
  | _ => false

/-- Whether one of the items is null or has such an item in it. -/
def itemsHaveNull : List Value → Bool
  | [] => false
  | v :: rest => v.isNull || hasNullItem v || itemsHaveNull rest

/-- Whether the value of one of the entries has such an item in it. -/
def entriesHaveNullItem : List (String × Value) → Bool
  | [] => false
  | (_, v) :: rest => hasNullItem v || entriesHaveNullItem rest

end

/-! ## The value at a key -/

theorem find?_of_mem {es : List (String × Value)} {k : String} {v : Value}
    (hkeys : (es.map Prod.fst).Nodup) (h : (k, v) ∈ es) : find? k es = some v := by
  induction es with
  | nil => cases h
  | cons entry rest ih =>
      obtain ⟨key, first⟩ := entry
      rw [List.map_cons, List.nodup_cons] at hkeys
      rw [find?]
      rcases List.mem_cons.mp h with heq | h
      · cases heq
        exact if_pos rfl
      · have hne : key ≠ k := by
          rintro rfl
          exact hkeys.1 (List.mem_map.mpr ⟨_, h, rfl⟩)
        rw [if_neg hne]
        exact ih hkeys.2 h

end Value

theorem Text.splitChars_of_notMem {sep : Char} {cs : List Char} (h : sep ∉ cs) :
    splitChars sep cs = [cs] := by
  induction cs with
  | nil => rfl
  | cons c rest ih =>
      rw [List.mem_cons, not_or] at h
      rw [splitChars, if_neg (Ne.symm h.1), ih h.2]

/-- A key that is a single hop leads to the value at it, and to nothing where that is null. -/
theorem Value.walk_key {es : List (String × Value)} {k : String} {v : Value}
    (hhop : '.' ∉ k.toList) (hfound : find? k es = some v) :
    (map es).walk k = .ok v.orUnresolved := by
  have hlookup : (map es).lookup k = .ok v := by
    show Except.ok ((find? k es).getD unresolved) = _
    rw [hfound]
    rfl
  unfold walk Text.split
  rw [Text.splitChars_of_notMem hhop, List.map_singleton, String.ofList_toList, walkHops, hlookup]
  rfl

namespace Conditions

/-! ## A tree against itself -/

theorem scalarMatches_self {v : Value} (h : scalarEqual v v = true) (hv : v.isUnresolved = false) :
    scalarMatches v v = .ok true := by
  unfold scalarMatches
  rw [h, hv]
  rfl

/-- What is found at a key of a document is what is expected there. -/
theorem valueMatches_orUnresolved {v : Value}
    (h : v.isNull = false → valueMatches v v = .ok (!v.hasNullItem)) :
    valueMatches v v.orUnresolved = .ok (!v.hasNullItem) := by
  cases v with
  | null => rfl
  | _ => exact h rfl

mutual

/-- A document other than null matches itself, but for null among items. -/
theorem valueMatches_self : ∀ v : Value, v.isDocument = true → v.isNull = false →
    valueMatches v v = .ok (!v.hasNullItem)
  | .int n, _, _ => by
      rw [valueMatches]
      exact scalarMatches_self (beq_self_eq_true n) rfl
  | .text s, _, _ => by
      rw [valueMatches]
      exact scalarMatches_self (beq_self_eq_true s) rfl
  | .bool b, _, _ => by
      rw [valueMatches]
      exact scalarMatches_self (beq_self_eq_true b) rfl
  | .double (.finite negative units), _, _ => by
      rw [valueMatches]
      exact scalarMatches_self (beq_self_eq_true (if negative then -(units : Int) else units)) rfl
  | .list items, h, _ => by
      rw [valueMatches, Value.hasNullItem]
      rw [Value.isDocument] at h
      show (if items.length = items.length then itemsMatch items items else .ok false) = _
      rw [if_pos rfl, itemsMatch_self items h]
  | .map es, h, _ => by
      rw [valueMatches, Value.hasNullItem]
      rw [Value.isDocument, Bool.and_eq_true, decide_eq_true_eq] at h
      exact entriesMatch_self es es (fun k v hmem => Value.find?_of_mem h.1 hmem) h.2
  | .null, _, h => by cases h
  | .double (.infinite _), h, _ | .double .nan, h, _ | .bytes _, h, _ | .uuid _, h, _
  | .tuple _, h, _ | .unresolved, h, _ | .object .., h, _ | .entity .., h, _
  | .resource .., h, _ => by cases h

theorem itemsMatch_self : ∀ items : List Value, Value.itemsAreDocuments items = true →
    itemsMatch items items = .ok (!Value.itemsHaveNull items)
  | [], _ => rfl
  | v :: rest, h => by
      rw [Value.itemsAreDocuments, Bool.and_eq_true] at h
      rw [itemsMatch, Value.itemsHaveNull]
      -- An item is compared as it is, so null is not what null expects.
      cases hnull : v.isNull with
      | true =>
          cases v with
          | null => rfl
          | _ => cases hnull
      | false =>
          rw [valueMatches_self v h.1 hnull, Bool.false_or]
          cases v.hasNullItem with
          | true => rfl
          | false => exact itemsMatch_self rest h.2

-- The entries that are left are held against the whole mapping, so the induction is on those while
-- the mapping stays.
theorem entriesMatch_self : ∀ es all : List (String × Value),
    (∀ k v, (k, v) ∈ es → Value.find? k all = some v) → Value.entriesAreDocuments es = true →
    entriesMatch es (.map all) = .ok (!Value.entriesHaveNullItem es)
  | [], _, _, _ => rfl
  | (k, v) :: rest, all, hfound, h => by
      rw [Value.entriesAreDocuments, Bool.and_eq_true, Bool.and_eq_true] at h
      obtain ⟨⟨hhop, hv⟩, hrest⟩ := h
      have hhop : '.' ∉ k.toList := by simpa using hhop
      rw [entriesMatch, Value.walk_key hhop (hfound k v List.mem_cons_self),
        Value.entriesHaveNullItem]
      dsimp only
      rw [valueMatches_orUnresolved (valueMatches_self v hv)]
      cases v.hasNullItem with
      | true => rfl
      | false =>
          exact entriesMatch_self rest all (fun k v hmem => hfound k v (List.mem_cons_of_mem _ hmem))
            hrest

end

/-- A document that is a mapping matches itself if no sequence in it has null for an item, and does
not match itself otherwise. -/
theorem holds_self {es : List (String × Value)} (h : (Value.map es).isDocument = true) :
    holds (.map es) (.map es) = .ok (!(Value.map es).hasNullItem) := by
  have hself := valueMatches_self (.map es) h rfl
  rw [valueMatches] at hself
  exact hself

end Conditions

/-! ### A file with its history -/

/-- Null at a key, at a key of an item, and an empty mapping and sequence. -/
def Value.fileWithHistory : Value :=
  .map [("name", .text "plan"), ("deletedAt", .null), ("size", .double (.finite false 3)),
    ("history", .list [.map [("by", .null), ("version", .int 1)], .list [], .bool true]),
    ("labels", .map [])]

theorem Conditions.holds_self_fileWithHistory :
    Value.fileWithHistory.isDocument = true ∧ Value.fileWithHistory.hasNullItem = false ∧
      holds .fileWithHistory .fileWithHistory = .ok true := by
  have hdocument : Value.fileWithHistory.isDocument = true := by decide +kernel
  exact ⟨hdocument, by decide +kernel, holds_self hdocument⟩

theorem Conditions.null_item_unmatched :
    (Value.map [("tags", .list [.null])]).isDocument = true ∧
      holds (.map [("tags", .list [.null])]) (.map [("tags", .list [.null])]) = .ok false := by
  exact ⟨by decide +kernel, rfl⟩

end Warrant
