import Mathlib.Algebra.Ring.Nat
import Mathlib.Tactic.Common
import Mathlib.Data.Nat.Log

/-!
# Products of a binary floating-point number with an integer

Finite nonnegative numbers of the 64-bit format, and the product with an integer: the exact one
rounded to 53 significant bits, ties to the even one.
-/

namespace Bacchus

/-- A finite nonnegative number: `significand / 2 ^ shift`. -/
structure Binary64 where
  significand : Nat
  shift : Nat
  fits : significand < 2 ^ 53

/-- The nearest number with 53 significant bits. -/
def roundSignificant (value : Nat) : Nat :=
  let dropped := value.log2 - 52
  let kept := value / 2 ^ dropped
  let rest := value % 2 ^ dropped
  if 2 ^ dropped < 2 * rest ∨ 2 ^ dropped = 2 * rest ∧ kept % 2 = 1 then
    (kept + 1) * 2 ^ dropped
  else kept * 2 ^ dropped

/-- Numbers of at most 53 bits stay as they are. -/
theorem roundSignificant_of_lt {value : Nat} (small : value < 2 ^ 53) :
    roundSignificant value = value := by
  have none : value.log2 - 52 = 0 := by
    by_cases zero : value = 0
    · rw [zero]
      rfl
    · have length := (Nat.log2_lt zero).mpr small
      omega
  unfold roundSignificant
  rw [none]
  simp [Nat.mod_one]

namespace Binary64

/-- The integer part of the product with `n`. -/
def floorMul (number : Binary64) (n : Nat) : Nat := number.significand * n / 2 ^ number.shift

/-- The integer part of the product with `n` as computed: `n` is converted to the format and the
product rounded to it. -/
def truncMul (number : Binary64) (n : Nat) : Nat :=
  roundSignificant (number.significand * roundSignificant n) / 2 ^ number.shift

variable {number : Binary64}

/-- Nothing is rounded when significand times `n` has at most 53 bits. -/
theorem truncMul_eq_floorMul {n : Nat} (converted : n < 2 ^ 53)
    (small : number.significand * n < 2 ^ 53) : number.truncMul n = number.floorMul n := by
  rw [truncMul, roundSignificant_of_lt converted, roundSignificant_of_lt small, floorMul]

/-- A number up to one takes no more than one step for each integer. -/
theorem floorMul_succ_le (small : number.significand ≤ 2 ^ number.shift) (n : Nat) :
    number.floorMul (n + 1) ≤ number.floorMul n + 1 := by
  unfold floorMul
  have positive : 0 < 2 ^ number.shift := Nat.two_pow_pos _
  rw [← Nat.add_div_right _ positive]
  apply Nat.div_le_div_right
  rw [Nat.mul_add, Nat.mul_one]
  exact Nat.add_le_add_left small _

/-- A factor of at most one raises nothing. -/
theorem floorMul_le (small : number.significand ≤ 2 ^ number.shift) (n : Nat) :
    number.floorMul n ≤ n := by
  apply Nat.div_le_of_le_mul
  exact Nat.mul_le_mul_right n small

end Binary64

end Bacchus
