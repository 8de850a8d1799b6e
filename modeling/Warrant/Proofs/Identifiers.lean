import Mathlib.Data.List.Basic
import Warrant.Uuid.Basic

/-!
# Identifiers are told by their texts

The log names things by texts, the tables by identifiers. Nothing is lost
between the two: the 32 digits of an identifier determine its number, and the
hyphens between the groups can be taken out again, since no digit is one.
-/

namespace Warrant

namespace Text

theorem hexChar_inj : ∀ a < 16, ∀ b < 16, hexChar a = hexChar b → a = b := by decide

theorem hexChar_ne_hyphen : ∀ a < 16, hexChar a ≠ '-' := by decide

theorem length_hexDigits (width n : Nat) : (hexDigits width n).length = width := by
  induction width generalizing n with
  | zero => rfl
  | succ width ih => rw [hexDigits, List.length_append, ih, List.length_singleton]

theorem hyphen_notMem_hexDigits (width n : Nat) : '-' ∉ hexDigits width n := by
  induction width generalizing n with
  | zero => exact List.not_mem_nil
  | succ width ih =>
      rw [hexDigits, List.mem_append, List.mem_singleton, not_or]
      exact ⟨ih _, (hexChar_ne_hyphen _ (Nat.mod_lt _ (by decide))).symm⟩

/-- Numbers below the power of the base are told apart by their digits. -/
theorem hexDigits_inj {width n m : Nat} (hn : n < Nat.pow 16 width)
    (hm : m < Nat.pow 16 width) (h : hexDigits width n = hexDigits width m) : n = m := by
  induction width generalizing n m with
  | zero =>
      change n < 1 at hn
      change m < 1 at hm
      omega
  | succ width ih =>
      change n < Nat.pow 16 width * 16 at hn
      change m < Nat.pow 16 width * 16 at hm
      rw [hexDigits, hexDigits] at h
      obtain ⟨hhigh, hlow⟩ := List.append_inj h (by rw [length_hexDigits, length_hexDigits])
      have hdiv : n / 16 = m / 16 := ih (by omega) (by omega) hhigh
      have hmod : n % 16 = m % 16 := hexChar_inj _ (Nat.mod_lt _ (by decide)) _
        (Nat.mod_lt _ (by decide)) (List.singleton_inj.mp hlow)
      omega

end Text

namespace Uuid

/-- The hyphens can be taken out again. -/
theorem filter_grouped {digits : List Char} (h : '-' ∉ digits) :
    (grouped digits).filter (· != '-') = digits := by
  have hkeep : ∀ {part : List Char}, (∀ c ∈ part, c ∈ digits) → part.filter (· != '-') = part := by
    intro part hpart
    refine List.filter_eq_self.mpr fun c hc => bne_iff_ne.mpr fun heq => h ?_
    rw [← heq]
    exact hpart c hc
  have hgroup : ∀ k n, ((digits.drop k).take n).filter (· != '-') = (digits.drop k).take n :=
    fun _ _ => hkeep fun _ hc => List.mem_of_mem_drop (List.mem_of_mem_take hc)
  have hhyphen : ∀ part : List Char,
      ('-' :: part).filter (· != '-') = part.filter (· != '-') := fun _ => rfl
  unfold grouped
  simp only [List.filter_append, hhyphen, hgroup]
  rw [hkeep fun _ hc => List.mem_of_mem_take hc, hkeep fun _ hc => List.mem_of_mem_drop hc,
    ← List.take_add, ← List.take_add, ← List.take_add, List.take_append_drop]

/-- An identifier is told by its text. -/
theorem text_inj {u v : Uuid} (h : u.text = v.text) : u = v := by
  have hgroups : grouped (Text.hexDigits 32 u.number) = grouped (Text.hexDigits 32 v.number) := by
    have := congrArg String.toList h
    simpa only [text, String.toList_ofList] using this
  have hdigits : Text.hexDigits 32 u.number = Text.hexDigits 32 v.number := by
    rw [← filter_grouped (Text.hyphen_notMem_hexDigits 32 u.number), hgroups,
      filter_grouped (Text.hyphen_notMem_hexDigits 32 v.number)]
  have hnumber : u.number = v.number :=
    Text.hexDigits_inj (show u.number < Nat.pow 16 32 from u.number_lt)
      (show v.number < Nat.pow 16 32 from v.number_lt) hdigits
  cases u
  cases v
  simpa using hnumber

end Uuid

end Warrant
