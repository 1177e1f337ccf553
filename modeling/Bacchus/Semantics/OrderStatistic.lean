import Mathlib.Data.List.GetD
import Mathlib.Data.List.Sort

/-!
# Order statistics of a list

The value at a rank of the sorted list, and what can be said of it without sorting: it is at
least a bound exactly when enough of the values are.
-/

namespace Bacchus

open List

variable {α : Type*} [LinearOrder α]

/-- The value at `rank`, counted from zero, of the values in ascending order. -/
def orderStatistic (values : List α) (rank : Nat) (default : α) : α :=
  (values.insertionSort (· ≤ ·)).getD rank default

/-- In an ascending list the values from a rank on are the largest ones. -/
theorem le_getElem_iff {sorted : List α} (ascending : sorted.Pairwise (· ≤ ·)) {rank : Nat}
    (inside : rank < sorted.length) (bound : α) :
    bound ≤ sorted[rank] ↔ sorted.length - rank ≤ sorted.countP (bound ≤ ·) := by
  induction sorted generalizing rank with
  | nil => exact absurd inside (Nat.not_lt_zero rank)
  | cons head tail ih =>
    rw [pairwise_cons] at ascending
    obtain ⟨least, ascending⟩ := ascending
    -- From a head within the bound on, every value counts.
    have all : bound ≤ head → tail.countP (bound ≤ ·) = tail.length := by
      intro within
      rw [countP_eq_length]
      intro value member
      exact decide_eq_true (le_trans within (least value member))
    have most : tail.countP (bound ≤ ·) ≤ tail.length := countP_le_length
    by_cases within : bound ≤ head
    · have counted : (head :: tail).countP (bound ≤ ·) = tail.length + 1 := by
        rw [countP_cons, if_pos (decide_eq_true within), all within]
      refine iff_of_true ?_ ?_
      · have member : (head :: tail)[rank] ∈ head :: tail := getElem_mem inside
        rcases mem_cons.mp member with same | later
        · rw [same]
          exact within
        · exact le_trans within (least _ later)
      · rw [counted, length_cons]
        omega
    · have counted : (head :: tail).countP (bound ≤ ·) = tail.countP (bound ≤ ·) := by
        rw [countP_cons, if_neg (fun holds => within (of_decide_eq_true holds)), Nat.add_zero]
      cases rank with
      | zero =>
        refine iff_of_false within ?_
        rw [counted, length_cons]
        omega
      | succ rank =>
        have shorter : rank < tail.length := by
          rw [length_cons] at inside
          omega
        rw [counted, getElem_cons_succ, ih ascending shorter, length_cons, Nat.add_sub_add_right]

variable {values others : List α} {rank : Nat} {default : α}

/-- The value at a rank is at least a bound exactly when at most `rank` values are below it. -/
theorem le_orderStatistic_iff (inside : rank < values.length) (bound : α) :
    bound ≤ orderStatistic values rank default ↔
      values.length - rank ≤ values.countP (bound ≤ ·) := by
  have permuted := perm_insertionSort (· ≤ ·) values
  have sortedInside : rank < (values.insertionSort (· ≤ ·)).length := by
    rw [length_insertionSort]
    exact inside
  have ascending := pairwise_insertionSort (· ≤ ·) values
  rw [orderStatistic, getD_eq_getElem _ _ sortedInside, le_getElem_iff ascending,
    permuted.length_eq, permuted.countP_eq]

/-- The order of the values does not matter. -/
theorem orderStatistic_perm (permuted : values.Perm others) (rank : Nat) (default : α) :
    orderStatistic values rank default = orderStatistic others rank default := by
  have sorted : values.insertionSort (· ≤ ·) = others.insertionSort (· ≤ ·) := by
    apply List.Perm.eq_of_pairwise (fun _ _ _ _ => le_antisymm)
      (pairwise_insertionSort (· ≤ ·) values) (pairwise_insertionSort (· ≤ ·) others)
    exact (perm_insertionSort _ _).trans (permuted.trans (perm_insertionSort _ _).symm)
  rw [orderStatistic, orderStatistic, sorted]

/-- It is one of the values. -/
theorem orderStatistic_mem (inside : rank < values.length) :
    orderStatistic values rank default ∈ values := by
  have sortedInside : rank < (values.insertionSort (· ≤ ·)).length := by
    rw [length_insertionSort]
    exact inside
  rw [orderStatistic, getD_eq_getElem _ _ sortedInside]
  exact (perm_insertionSort _ values).subset (getElem_mem sortedInside)

/-- One more value not above the statistic does not raise it, at a rank one higher at most. -/
theorem orderStatistic_cons_le {value : α} {higher : Nat} (inside : rank < values.length)
    (below : value ≤ orderStatistic values rank default) (next : higher ≤ rank + 1) :
    orderStatistic (value :: values) higher default ≤ orderStatistic values rank default := by
  have wider : higher < (value :: values).length := by
    rw [length_cons]
    omega
  have enough := (le_orderStatistic_iff wider _).mp
    (le_refl (orderStatistic (value :: values) higher default))
  by_cases reached : orderStatistic (value :: values) higher default ≤ value
  · exact le_trans reached below
  · rw [le_orderStatistic_iff inside]
    rw [countP_cons, if_neg (fun holds => reached (of_decide_eq_true holds)),
      length_cons] at enough
    omega

end Bacchus
