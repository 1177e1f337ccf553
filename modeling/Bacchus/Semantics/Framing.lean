import Mathlib.Algebra.Ring.Nat
import Mathlib.Data.List.Basic

/-!
# Framings that can be read back

A field can be read off the front of a message if its width is fixed, if a byte that it cannot
hold ends it, or if its length stands before it. The lemmas peel one such field off two equal
messages.
-/

namespace Bacchus.Framing

open List

/-- The lowest `width` bytes of a number, the highest one first. -/
def fixed : (width value : Nat) → List UInt8
  | 0, _ => []
  | width + 1, value => fixed width (value / 256) ++ [.ofNat value]

/-- A fixed field has its width. -/
@[simp] theorem length_fixed (width value : Nat) : (fixed width value).length = width := by
  induction width generalizing value with
  | zero => rfl
  | succ width ih => rw [fixed, length_append, ih, length_singleton]

/-- The bytes keep what fits the width, and nothing else. -/
theorem fixed_inj {width value other : Nat} :
    fixed width value = fixed width other ↔ value % 256 ^ width = other % 256 ^ width := by
  induction width generalizing value other with
  | zero => simp only [fixed, Nat.pow_zero, Nat.mod_one]
  | succ width ih =>
    have low : UInt8.ofNat value = UInt8.ofNat other ↔ value % 256 = other % 256 := by
      rw [← UInt8.toNat_inj, UInt8.toNat_ofNat', UInt8.toNat_ofNat']
    rw [fixed, fixed, append_singleton_inj, low, ih, Nat.pow_succ,
      Nat.mul_comm, Nat.mod_mul, Nat.mod_mul]
    omega

variable {front back left right : List UInt8}

/-- A number of fixed width is read off the front. -/
theorem fixed_append_inj {width value other : Nat} :
    fixed width value ++ left = fixed width other ++ right ↔
      value % 256 ^ width = other % 256 ^ width ∧ left = right := by
  rw [← fixed_inj]
  constructor
  · intro same
    exact append_inj same (by rw [length_fixed, length_fixed])
  · rintro ⟨number, rest⟩
    rw [number, rest]

/-- A field that stands behind its length is read off the front. -/
theorem prefixed_append_inj {width : Nat} (fits : front.length < 256 ^ width)
    (fits' : back.length < 256 ^ width) :
    fixed width front.length ++ (front ++ left) = fixed width back.length ++ (back ++ right) ↔
      front = back ∧ left = right := by
  rw [fixed_append_inj, Nat.mod_eq_of_lt fits, Nat.mod_eq_of_lt fits']
  constructor
  · rintro ⟨length, same⟩
    exact append_inj same length
  · rintro ⟨rfl, rfl⟩
    exact ⟨rfl, rfl⟩

/-- A field without the mark that ends it is read off the front. -/
theorem terminated_append_inj {Symbol : Type} {mark : Symbol}
    {front back left right : List Symbol} (unmarked : mark ∉ front) (unmarked' : mark ∉ back) :
    front ++ mark :: left = back ++ mark :: right ↔ front = back ∧ left = right := by
  constructor
  · intro same
    induction front generalizing back with
    | nil =>
      cases back with
      | nil => exact ⟨rfl, tail_eq_of_cons_eq same⟩
      | cons =>
        obtain ⟨rfl, -⟩ := cons_eq_cons.mp same
        exact absurd (mem_cons_self) unmarked'
    | cons symbol front ih =>
      cases back with
      | nil =>
        obtain ⟨rfl, -⟩ := cons_eq_cons.mp same
        exact absurd (mem_cons_self) unmarked
      | cons =>
        obtain ⟨rfl, rest⟩ := cons_eq_cons.mp same
        obtain ⟨rfl, tails⟩ := ih (not_mem_of_not_mem_cons unmarked)
          (not_mem_of_not_mem_cons unmarked') rest
        exact ⟨rfl, tails⟩
  · rintro ⟨rfl, rfl⟩
    rfl

end Bacchus.Framing
