import Mathlib.Data.List.Basic
import Warrant.Proofs.Identifiers
import Warrant.Ownership

/-!
# Only an identifier reads like one

Identifiers are compared in words, and any value has words, so it could be that
something of another kind has the words of an identifier. None has. The words of
an identifier are hexadecimal digits and four hyphens. What else has words shows
it by a character that is neither: a quote, a bracket, a letter beyond the
digits. Numbers have no such character, if they have no fraction and no
exponent, but a number has at most two hyphens.

So an identifier is the same in words as itself and as its own text, and as
nothing else but an object whose class writes it so. There the class says what
the object is, and it is taken at its word.
-/

namespace Warrant

/-! ## The characters of an identifier -/

namespace Text

theorem hexChar_among : ∀ n < 16, hexChar n ∈ "0123456789abcdef".toList := by decide

theorem mem_hexDigits {width n : Nat} {c : Char} (h : c ∈ hexDigits width n) :
    c ∈ "0123456789abcdef".toList := by
  induction width generalizing n with
  | zero => cases h
  | succ width ih =>
      rw [hexDigits, List.mem_append, List.mem_singleton] at h
      obtain h | rfl := h
      · exact ih h
      · exact hexChar_among _ (Nat.mod_lt _ (by decide))

theorem count_hyphen_toDigits (n : Nat) : (Nat.toDigits 10 n).count '-' = 0 :=
  List.count_eq_zero.mpr fun h =>
    absurd (Nat.isDigit_of_mem_toDigits (by decide) (by decide) h) (by decide)

theorem Quoted.quoteFor_foreign (cs : List Char) :
    quoteFor cs ∉ "-0123456789abcdef".toList := by
  unfold quoteFor
  split <;> decide

end Text

namespace Uuid

theorem mem_grouped {digits : List Char} {c : Char} (h : c ∈ grouped digits) :
    c = '-' ∨ c ∈ digits := by
  have hgroup : ∀ {k n}, c ∈ (digits.drop k).take n → c ∈ digits := fun h =>
    List.mem_of_mem_drop (List.mem_of_mem_take h)
  simp only [grouped, List.append_assoc, List.cons_append, List.mem_append, List.mem_cons] at h
  obtain h | h | h | h | h | h | h | h | h := h
  · exact .inr (List.mem_of_mem_take h)
  · exact .inl h
  · exact .inr (hgroup h)
  · exact .inl h
  · exact .inr (hgroup h)
  · exact .inl h
  · exact .inr (hgroup h)
  · exact .inl h
  · exact .inr (List.mem_of_mem_drop h)

theorem le_count_hyphen_grouped (digits : List Char) : 4 ≤ (grouped digits).count '-' := by
  simp only [grouped, List.append_assoc, List.cons_append, List.count_append, List.count_cons_self]
  omega

variable {s t : String} {c : Char}

/-- A text with a character that is neither a hyphen nor a digit is not that of an identifier. -/
theorem ne_text_of_mem (h : c ∈ s.toList) (hforeign : c ∉ "-0123456789abcdef".toList) (u : Uuid) :
    s ≠ u.text := by
  rintro rfl
  rw [text, String.toList_ofList] at h
  exact hforeign (List.mem_cons.mpr ((mem_grouped h).imp_right Text.mem_hexDigits))

theorem append_ne_text_of_mem (h : c ∈ t.toList) (hforeign : c ∉ "-0123456789abcdef".toList)
    (s : String) (u : Uuid) : s ++ t ≠ u.text := by
  refine ne_text_of_mem ?_ hforeign u
  rw [String.toList_append]
  exact List.mem_append_right _ h

/-- A text with fewer than four hyphens is not that of an identifier. -/
theorem ne_text_of_count (h : s.toList.count '-' < 4) (u : Uuid) : s ≠ u.text := by
  rintro rfl
  rw [text, String.toList_ofList] at h
  exact absurd (le_count_hyphen_grouped _) (Nat.not_le.mpr h)

end Uuid

/-! ## The hyphens of a number -/

namespace Number.Double

theorem count_hyphen_exponentText (e : Int) : (exponentText e).count '-' ≤ 1 := by
  have hdigits := Text.count_hyphen_toDigits e.natAbs
  unfold exponentText
  dsimp only
  rw [List.count_cons]
  split <;> split <;> simp [hdigits]

/-- A number without its sign has no hyphen but in its exponent. -/
theorem count_hyphen_unitsText (units : Nat) : (unitsText units).count '-' ≤ 1 := by
  unfold unitsText
  obtain ⟨n, last⟩ := dropZeros 20 (decimal units)
  dsimp only
  have hdigits := Text.count_hyphen_toDigits n
  generalize Nat.toDigits 10 n = digits at hdigits ⊢
  generalize last + (digits.length : Int) - 1 = leading
  have hexponent := count_hyphen_exponentText leading
  have hzeros : ∀ k, (List.replicate k '0').count '-' = 0 := fun k =>
    List.count_eq_zero.mpr fun h => absurd (List.eq_of_mem_replicate h) (by decide)
  have hpoint : ('.' == '-') = false := by decide
  have hletter : ('e' == '-') = false := by decide
  split
  · split
    · simp [hdigits, hzeros]
    · split
      · have htake := (List.take_sublist (leading.toNat + 1) digits).count_le '-'
        have hdrop := (List.drop_sublist (leading.toNat + 1) digits).count_le '-'
        simp only [List.count_append, List.count_cons, hpoint, Bool.false_eq_true, if_false]
        omega
      · simp [hdigits, hzeros]
  · split
    · exact Nat.zero_le 1
    · simp only [List.count_cons, hletter, Bool.false_eq_true, if_false] at hdigits ⊢
      omega
    · simp only [List.count_cons, List.count_append, hpoint, hletter, Bool.false_eq_true,
        if_false] at hdigits ⊢
      omega

theorem count_hyphen_text (d : Number.Double) : d.text.toList.count '-' < 4 := by
  cases d with
  | finite negative units =>
      have hdigits : (if units = 0 then ['0', '.', '0'] else unitsText units).count '-' ≤ 1 := by
        split
        · decide
        · exact count_hyphen_unitsText units
      unfold text
      dsimp only
      rw [String.toList_ofList]
      split
      · rw [List.count_cons_self]
        omega
      · omega
  | infinite negative => cases negative <;> decide
  | nan => decide

end Number.Double

namespace Value

theorem count_hyphen_toString (n : Int) : (toString n).toList.count '-' < 4 := by
  have hdigits : ∀ m : Nat, (Nat.repr m).toList.count '-' = 0 := fun m => by
    rw [Nat.repr, String.toList_ofList, Text.count_hyphen_toDigits]
  cases n with
  | ofNat n =>
      show (Nat.repr n).toList.count '-' < 4
      rw [hdigits]
      decide
  | negSucc n =>
      show ("-" ++ Nat.repr (n + 1)).toList.count '-' < 4
      rw [String.toList_append, List.count_append, hdigits]
      decide

/-! ## The words of a value -/

/-- No literal reads like an identifier: in a literal, texts and identifiers are in quotes. -/
theorem literal_ne_text (v : Value) (u : Uuid) : v.literal ≠ u.text := by
  have hround : ∀ s : String, s ++ ")" ≠ u.text := fun s =>
    Uuid.append_ne_text_of_mem (c := ')') (by decide) (by decide) s u
  cases v with
  | null => exact Uuid.ne_text_of_mem (c := 'N') (by decide) (by decide) u
  | bool b =>
      cases b with
      | true => exact Uuid.ne_text_of_mem (c := 'T') (by decide) (by decide) u
      | false => exact Uuid.ne_text_of_mem (c := 'F') (by decide) (by decide) u
  | int n => exact Uuid.ne_text_of_count (count_hyphen_toString n) u
  | double d => exact Uuid.ne_text_of_count d.count_hyphen_text u
  | text s =>
      refine Uuid.ne_text_of_mem (c := Text.Quoted.quoteFor s.toList) ?_
        (Text.Quoted.quoteFor_foreign _) u
      show _ ∈ (Text.Quoted.encode s).toList
      rw [Text.Quoted.encode, String.toList_ofList]
      exact List.mem_cons_self
  | bytes octets =>
      refine Uuid.ne_text_of_mem (c := Text.Quoted.quoteFor (octets.map fun b => .ofNat b.toNat)) ?_
        (Text.Quoted.quoteFor_foreign _) u
      show _ ∈ (Text.Quoted.encodeOctets octets).toList
      rw [Text.Quoted.encodeOctets, String.toList_ofList]
      exact List.mem_cons_of_mem _ List.mem_cons_self
  | uuid v =>
      show "UUID(" ++ Text.Quoted.encode v.text ++ ")" ≠ u.text
      exact hround _
  | list items =>
      show "[" ++ joined ", " (literals items) ++ "]" ≠ u.text
      exact Uuid.append_ne_text_of_mem (c := ']') (by decide) (by decide) _ u
  | tuple items =>
      match items with
      | [] => exact Uuid.ne_text_of_mem (c := '(') (by decide) (by decide) u
      | [v] =>
          show "(" ++ literal v ++ ",)" ≠ u.text
          exact Uuid.append_ne_text_of_mem (c := ',') (by decide) (by decide) _ u
      | v :: w :: rest =>
          show "(" ++ joined ", " (literals (v :: w :: rest)) ++ ")" ≠ u.text
          exact hround _
  | map es =>
      show "\x7b" ++ joined ", " (entryLiterals ": " Text.Quoted.encode es) ++ "\x7d" ≠ u.text
      exact Uuid.append_ne_text_of_mem (c := '\x7d') (by decide) (by decide) _ u
  | unresolved => exact Uuid.ne_text_of_mem (c := 'U') (by decide) (by decide) u
  | object className declared attributes failing =>
      show "<" ++ className ++ " object>" ≠ u.text
      exact Uuid.append_ne_text_of_mem (c := '>') (by decide) (by decide) _ u
  | entity kind fields =>
      show entityName kind ++ "(" ++ joined ", " (entryLiterals "=" id fields) ++ ")" ≠ u.text
      exact hround _
  | resource subject attributes =>
      show "ResourceInstance(subject=" ++ literal subject ++ ", attributes=" ++
        literal attributes ++ ")" ≠ u.text
      exact hround _

/-- What an object may pass for. -/
def guise? : Value → Option Guise
  | object _ _ _ _ guise => some guise
  | _ => none

variable {v : Value} {u : Uuid}

theorem display_eq_text_iff (hplain : v.guise? = none) :
    v.display = u.text ↔ v = .uuid u ∨ v = .text u.text := by
  cases v
  case text s => simp only [display, text.injEq, reduceCtorEq, false_or]
  case uuid other =>
    rw [uuid.injEq, or_iff_left nofun]
    exact ⟨Uuid.text_inj, congrArg Uuid.text⟩
  case object => cases hplain
  all_goals exact iff_of_false (literal_ne_text _ u) (by simp only [reduceCtorEq, or_self,
    not_false_eq_true])

theorem words?_of_plain (hplain : v.guise? = none) :
    v.words? = if v.holdsObject then none else some v.display := by
  cases v
  case object => cases hplain
  all_goals rfl

theorem words?_of_guise {g : Guise} (h : v.guise? = some g) : v.words? = g.words := by
  cases v
  case object =>
    cases h
    rfl
  all_goals cases h

theorem holdsObject_of_reads (h : v = .uuid u ∨ v = .text u.text) :
    v.guise? = none ∧ v.holdsObject = false := by
  obtain rfl | rfl := h <;> exact ⟨rfl, rfl⟩

theorem words?_eq_text_iff : v.words? = some u.text ↔
    v = .uuid u ∨ v = .text u.text ∨ ∃ g, v.guise? = some g ∧ g.words = some u.text := by
  rw [← or_assoc]
  cases hguise : v.guise? with
  | some g =>
      have hplain : ¬ (v = .uuid u ∨ v = .text u.text) := fun h => by
        rw [(holdsObject_of_reads h).1] at hguise
        cases hguise
      rw [words?_of_guise hguise, or_iff_right hplain]
      simp only [Option.some.injEq, exists_eq_left']
  | none =>
      rw [words?_of_plain hguise, or_iff_left (by simp only [reduceCtorEq, false_and, exists_false,
        not_false_eq_true])]
      split
      · next hholds =>
          refine iff_of_false nofun fun h => ?_
          rw [(holdsObject_of_reads h).2] at hholds
          cases hholds
      · rw [Option.some.injEq]
        exact display_eq_text_iff hguise

/-- The same in words as an identifier are it itself, its own text, and what its class writes like
it. -/
theorem sameWords_uuid_iff : v.sameWords (.uuid u) = true ↔
    v = .uuid u ∨ v = .text u.text ∨ ∃ g, v.guise? = some g ∧ g.words = some u.text := by
  have hwords : (uuid u).words? = some u.text := rfl
  rw [sameWords, hwords, Bool.and_eq_true, beq_iff_eq, ← words?_eq_text_iff]
  exact and_iff_right_of_imp fun h => by rw [h]; rfl

theorem equalIdentity_uuid_iff {id : Option Uuid} :
    equalIdentity id (.uuid u) = true ↔ id = some u := by
  rw [equalIdentity, identity?, Bool.and_eq_true, beq_iff_eq]
  exact ⟨fun h => h.2.symm, fun h => ⟨by rw [h]; rfl, h.symm⟩⟩

/-- An identifier equals itself, and what its class lets pass for it. -/
theorem equal_uuid_iff : v.equal (.uuid u) = true ↔
    v = .uuid u ∨ ∃ g, v.guise? = some g ∧ g.sameAs = some u := by
  cases v <;> simp [equal, equalNumeric, numeric?, equalIdentity_uuid_iff, guise?]

end Value

end Warrant
