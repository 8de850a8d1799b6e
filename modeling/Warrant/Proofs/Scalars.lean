import Mathlib.Data.List.Count
import Warrant.Conditions.Match

/-!
# When scalars are equal

A condition compares a scalar with whatever was found, and the rule for the
comparison changes with the kinds of the two: truth values by kind and value,
identifiers by their text, numbers by their exact value, texts as they are. That
this mixture still is an equality is not plain to see. A text may equal an
identifier, and the text of an identifier may be written by something else.

Each scalar has a key: a truth value, a word or a place on the number line. Two
scalars are equal exactly if they have one key in common, and a scalar that
equals anything at all shares its key with it, or is an identifier that met its
own text in something that is no scalar. So two scalars that equal the same
thing are equal to each other, whatever that thing is.

The one place where this could fail is a number whose numeral is the text of an
identifier. There is none, because numerals have at most two hyphens and
identifiers have four.
-/

namespace Warrant

/-! ## Hyphens in numerals -/

namespace Number

/-- The number of hyphens in a text. -/
def hyphens (s : String) : Nat := s.toList.count '-'

theorem toDigits_hyphens (n : Nat) : (Nat.toDigits 10 n).count '-' = 0 := by
  rw [List.count_eq_zero]
  intro h
  have hdigit := Nat.isDigit_of_mem_toDigits (by decide) (by decide) h
  exact absurd hdigit (by decide)

theorem int_hyphens (n : Int) : hyphens (toString n) ≤ 1 := by
  have hnat : ∀ m : Nat, m.repr.toList.count '-' = 0 := by
    intro m
    rw [Nat.toList_repr]
    exact toDigits_hyphens m
  unfold hyphens
  rw [Int.toString_eq_repr, Int.repr_eq_if]
  split
  · rw [hnat]
    exact Nat.zero_le 1
  · rw [String.toList_append, List.count_append, hnat]
    decide

namespace Double

theorem exponentText_hyphens (e : Int) : (exponentText e).count '-' ≤ 1 := by
  have hdigits : (if (Nat.toDigits 10 e.natAbs).length < 2 then '0' :: Nat.toDigits 10 e.natAbs
      else Nat.toDigits 10 e.natAbs).count '-' = 0 := by
    split
    · rw [List.count_cons_of_ne (by decide), toDigits_hyphens]
    · exact toDigits_hyphens _
  unfold exponentText
  dsimp only
  rw [List.count_cons, hdigits]
  split <;> decide

theorem unitsText_hyphens (units : Nat) : (unitsText units).count '-' ≤ 1 := by
  unfold unitsText
  generalize dropZeros 20 (decimal units) = d
  obtain ⟨n, last⟩ := d
  have hdigits := toDigits_hyphens n
  dsimp only
  generalize Nat.toDigits 10 n = digits at hdigits
  have hzeros : ∀ m : Nat, (List.replicate m '0').count '-' = 0 := fun m =>
    List.count_replicate.trans (if_neg (by decide))
  have hnone : '-' ∉ digits := List.count_eq_zero.mp hdigits
  split
  · split
    · rw [List.count_append, List.count_append, hdigits, hzeros]
      decide
    · split
      · rw [List.count_append, List.count_cons_of_ne (by decide),
          List.count_eq_zero.mpr fun h => hnone (List.mem_of_mem_take h),
          List.count_eq_zero.mpr fun h => hnone (List.mem_of_mem_drop h)]
        decide
      · rw [List.count_cons_of_ne (by decide), List.count_cons_of_ne (by decide),
          List.count_append, hzeros, hdigits]
        decide
  · split
    · exact Nat.zero_le 1
    · next d =>
        rw [List.count_cons, List.count_nil, Nat.zero_add] at hdigits
        rw [List.count_cons, hdigits, List.count_cons_of_ne (by decide), Nat.add_zero]
        exact exponentText_hyphens _
    · next d rest _ _ =>
        rw [List.count_cons] at hdigits
        have hrest : rest.count '-' = 0 := by omega
        have hd : (if (d == '-') = true then 1 else 0) = 0 := by omega
        rw [List.count_cons, hd, List.count_cons_of_ne (by decide), List.count_append, hrest,
          List.count_cons_of_ne (by decide), Nat.zero_add, Nat.add_zero]
        exact exponentText_hyphens _

theorem text_hyphens (d : Double) : hyphens d.text ≤ 2 := by
  cases d with
  | nan => decide
  | infinite negative => cases negative <;> decide
  | finite negative units =>
      have hbody : (if units = 0 then ['0', '.', '0'] else unitsText units).count '-' ≤ 1 := by
        split
        · decide
        · exact unitsText_hyphens units
      unfold hyphens text
      dsimp only
      rw [String.toList_ofList]
      split
      · rw [List.count_cons_self]
        omega
      · omega

end Double

end Number

/-- The text of an identifier has a hyphen between any two of its five groups. -/
theorem Uuid.text_hyphens (u : Uuid) : 4 ≤ Number.hyphens u.text := by
  unfold Number.hyphens Uuid.text Uuid.grouped
  rw [String.toList_ofList]
  simp only [List.count_append, List.count_cons_self]
  omega

/-! ## Keys -/

namespace Value

/-- What a number is on the line of numbers: so many units, or one of the two ends. -/
def Numeric.place : Numeric → Option (Int ⊕ Bool)
  | .whole n => some (.inl (n * Number.Double.unitsPerOne))
  | .double (.infinite negative) => some (.inr negative)
  | .double d => d.units?.map .inl

theorem unitsPerOne_ne_zero : (Number.Double.unitsPerOne : Int) ≠ 0 := by
  have hpow : ∀ e, ((Nat.pow 2 e : Nat) : Int) ≠ 0 := by
    intro e
    have hpos : 0 < Nat.pow 2 e := Nat.two_pow_pos e
    omega
  unfold Number.Double.unitsPerOne
  exact hpow _

/-- Numbers are equal if they are at one place. What is not a number is at none. -/
theorem Numeric.equal_iff {a b : Numeric} :
    a.equal b = true ↔ ∃ p, a.place = some p ∧ b.place = some p := by
  have hone := unitsPerOne_ne_zero
  cases a with
  | whole m =>
      cases b with
      | whole n =>
          simp only [Numeric.equal, place]
          generalize (Number.Double.unitsPerOne : Int) = u at hone
          simp [Int.mul_eq_mul_right_iff hone]
          exact eq_comm
      | double d =>
          simp only [Numeric.equal, place, Number.Double.equalsInt]
          generalize (Number.Double.unitsPerOne : Int) = u
          cases d <;> simp [Number.Double.units?]
  | double d =>
      cases b with
      | whole n =>
          simp only [Numeric.equal, place, Number.Double.equalsInt]
          generalize (Number.Double.unitsPerOne : Int) = u
          cases d <;> simp [Number.Double.units?]
          exact eq_comm
      | double e =>
          cases d <;> cases e <;>
            simp [Numeric.equal, place, Number.Double.equal, Number.Double.units?] <;>
            exact eq_comm

/-- What a scalar is compared by. -/
inductive Key where
  | truth (b : Bool)
  | word (s : String)
  | number (p : Int ⊕ Bool)

/-- The key of a scalar. What is not a number has none, like everything that is no scalar. -/
def key? : Value → Option Key
  | bool b => some (.truth b)
  | text s => some (.word s)
  | uuid id => some (.word id.text)
  | int n => (Numeric.place (.whole n)).map .number
  | double d => (Numeric.place (.double d)).map .number
  | _ => none

/-- The values that conditions compare as scalars. -/
def isScalar : Value → Bool
  | bool _ => true
  | int _ => true
  | double _ => true
  | text _ => true
  | uuid _ => true
  | _ => false

/-- No numeral is the text of an identifier. -/
theorem int_display_ne (n : Int) (id : Uuid) : (int n).display ≠ id.text := by
  intro h
  have hnumeral : Number.hyphens (int n).display ≤ 1 := Number.int_hyphens n
  have hid := id.text_hyphens
  rw [← h] at hid
  omega

theorem double_display_ne (d : Number.Double) (id : Uuid) : (double d).display ≠ id.text := by
  intro h
  have hnumeral : Number.hyphens (double d).display ≤ 2 := d.text_hyphens
  have hid := id.text_hyphens
  rw [← h] at hid
  omega

end Value

namespace Conditions

open Value

/-- Scalars with one key are equal. -/
theorem scalarEqual_of_key {v w : Value} {k : Key} (hv : v.key? = some k) (hw : w.key? = some k) :
    scalarEqual v w = true := by
  cases k with
  | truth b =>
      cases v <;> simp [key?] at hv
      cases w <;> simp [key?] at hw
      simp [scalarEqual, hv, hw]
  | word s =>
      cases v <;> simp [key?] at hv <;> cases w <;> simp [key?] at hw <;>
        simp [scalarEqual, hv, hw, equal, display]
  | number p =>
      cases v <;> simp [key?] at hv <;> cases w <;> simp [key?] at hw
      all_goals
        simp only [scalarEqual, equal, equalNumeric, numeric?]
        exact Numeric.equal_iff.mpr ⟨p, hv, hw⟩

/-- Equal numbers have one key. -/
theorem key_of_equal {a b : Numeric} (h : a.equal b = true) :
    ∃ k, a.place.map Key.number = some k ∧ b.place.map Key.number = some k := by
  obtain ⟨p, ha, hb⟩ := Numeric.equal_iff.mp h
  exact ⟨.number p, by rw [ha, Option.map_some], by rw [hb, Option.map_some]⟩

/-- A scalar that equals something shares a key with it, unless it is an identifier that met its
text in something without a key. -/
theorem key_of_scalarEqual {v w : Value} (hv : v.isScalar = true) (h : scalarEqual v w = true) :
    (∃ k, v.key? = some k ∧ w.key? = some k) ∨
      ∃ id, v = .uuid id ∧ w.key? = none ∧ id.text = w.display := by
  cases v with
  | bool a =>
      cases w with
      | bool b => exact Or.inl ⟨.truth a, rfl, by rw [key?, beq_iff_eq.mp h]⟩
      | _ => cases h
  | text s =>
      cases w with
      | text t => exact Or.inl ⟨.word s, rfl, by rw [key?, beq_iff_eq.mp h]⟩
      | uuid b => exact Or.inl ⟨.word s, rfl, by rw [key?, ← beq_iff_eq.mp h]; rfl⟩
      | _ => cases h
  | int m =>
      cases w with
      | int n => exact Or.inl (key_of_equal (show (Numeric.whole m).equal (.whole n) = true from h))
      | double e =>
          exact Or.inl (key_of_equal (show (Numeric.whole m).equal (.double e) = true from h))
      -- Against an identifier even a number is compared by its text.
      | uuid b => exact absurd (beq_iff_eq.mp h) (int_display_ne m b)
      | _ => cases h
  | double d =>
      cases w with
      | int n => exact Or.inl (key_of_equal (show (Numeric.double d).equal (.whole n) = true from h))
      | double e =>
          exact Or.inl (key_of_equal (show (Numeric.double d).equal (.double e) = true from h))
      | uuid b => exact absurd (beq_iff_eq.mp h) (double_display_ne d b)
      | _ => cases h
  | uuid a =>
      cases w with
      | bool b => cases h
      | uuid b => exact Or.inl ⟨.word a.text, rfl, by rw [key?, beq_iff_eq.mp h]; rfl⟩
      | text t => exact Or.inl ⟨.word a.text, rfl, by rw [key?, beq_iff_eq.mp h]; rfl⟩
      | int m => exact absurd (beq_iff_eq.mp h).symm (int_display_ne m a)
      | double d => exact absurd (beq_iff_eq.mp h).symm (double_display_ne d a)
      | _ => exact Or.inr ⟨a, rfl, rfl, beq_iff_eq.mp h⟩
  | _ => cases hv

/-- Two scalars that equal the same thing are equal, whatever that thing is. -/
theorem scalarEqual_of_common {v w x : Value} (hv : v.isScalar = true) (hw : w.isScalar = true)
    (hvx : scalarEqual v x = true) (hwx : scalarEqual w x = true) : scalarEqual v w = true := by
  -- The thing in the middle has a key or it has none, and both comparisons must agree on that.
  rcases key_of_scalarEqual hv hvx with ⟨k, hvk, hxk⟩ | ⟨a, rfl, hnone, ha⟩
  · rcases key_of_scalarEqual hw hwx with ⟨l, hwl, hxl⟩ | ⟨b, rfl, hnone, -⟩
    · rw [hxk] at hxl
      cases hxl
      exact scalarEqual_of_key hvk hwl
    · rw [hnone] at hxk
      cases hxk
  · rcases key_of_scalarEqual hw hwx with ⟨l, -, hxl⟩ | ⟨b, rfl, -, hb⟩
    · rw [hnone] at hxl
      cases hxl
    · exact beq_iff_eq.mpr (ha.trans hb.symm)

end Conditions

end Warrant
