import Bacchus.Chain.Selection

/-!
# What a shuffle can draw

The lists `shuffleHops` can leave behind are the permutations of the pool, each of them.
-/

namespace Bacchus.Chain

open List

section

variable {Item : Type} {items target shuffled : List Item}

theorem getElem?_swap_first {first second : Nat} (inFirst : first < items.length)
    (inSecond : second < items.length) : (swap items first second)[first]? = items[second]? := by
  unfold swap
  rw [getElem?_eq_getElem inFirst, getElem?_eq_getElem inSecond]
  by_cases same : second = first
  · subst same
    simp [inFirst]
  · rw [getElem?_set_ne same, getElem?_set_self inFirst]

theorem getElem?_swap_other {first second index : Nat} (offFirst : index ≠ first)
    (offSecond : index ≠ second) : (swap items first second)[index]? = items[index]? := by
  unfold swap
  split
  · rw [getElem?_set_ne offSecond.symm, getElem?_set_ne offFirst.symm]
  · rfl

/-- A shuffle whose draws are all answered yields a list. -/
theorem exists_shuffleFrom (draw : Nat → Nat) (pos : Nat) (items : List Item) :
    ∃ shuffled, shuffleFrom (fun index => some (draw index)) pos items = some shuffled := by
  induction pos generalizing items with
  | zero => exact ⟨items, rfl⟩
  | succ pos ih => exact ih _

/-- The loop only reads the draws of the positions it visits. -/
theorem shuffleFrom_congr {draw other : Nat → Option Nat} {pos : Nat} (items : List Item)
    (agree : ∀ index ≤ pos, draw index = other index) :
    shuffleFrom draw pos items = shuffleFrom other pos items := by
  induction pos generalizing items with
  | zero => rfl
  | succ pos ih =>
    rw [shuffleFrom, shuffleFrom, agree (pos + 1) (Nat.le_refl _)]
    congr 1
    funext drawn
    exact ih _ fun index bound => agree index (Nat.le_succ_of_le bound)

/-- Lists that are permutations of one another and end alike begin with permutations. -/
theorem take_perm (perm : items.Perm target) {count : Nat}
    (settled : items.drop count = target.drop count) :
    (items.take count).Perm (target.take count) := by
  have whole : (items.take count ++ target.drop count).Perm
      (target.take count ++ target.drop count) := by
    rw [take_append_drop, ← settled, take_append_drop]
    exact perm
  exact (perm_append_right_iff _).mp whole

/-- Every order of the positions the loop still visits can be drawn. -/
theorem shuffleFrom_reaches {pos : Nat} (inside : pos < items.length)
    (perm : items.Perm target) (settled : items.drop (pos + 1) = target.drop (pos + 1)) :
    ∃ draw : Nat → Nat,
      shuffleFrom (fun index => some (draw index)) pos items = some target := by
  have lengths := perm.length_eq
  induction pos generalizing items with
  | zero =>
    refine ⟨fun _ => 0, congrArg some ?_⟩
    obtain ⟨first, rest, rfl⟩ := exists_cons_of_length_pos inside
    obtain ⟨other, tail, rfl⟩ := exists_cons_of_length_pos (lengths ▸ inside)
    have same : rest = tail := settled
    subst same
    have firsts : [first].Perm [other] := take_perm perm settled
    rw [singleton_perm_singleton.mp firsts]
  | succ pos ih =>
    have bound : pos + 1 < target.length := lengths ▸ inside
    have wanted : target[pos + 1] ∈ items.take (pos + 2) := by
      rw [(take_perm perm settled).mem_iff]
      exact mem_take_iff_getElem.mpr ⟨pos + 1, by omega, rfl⟩
    obtain ⟨drawn, _, found⟩ := mem_take_iff_getElem.mp wanted
    have least : drawn < pos + 2 := by omega
    -- The item that belongs here is drawn from the positions not settled yet.
    have placed : (swap items (pos + 1) drawn).drop (pos + 1) =
        target.drop (pos + 1) := by
      apply ext_getElem?
      intro index
      rw [getElem?_drop, getElem?_drop]
      cases index with
      | zero =>
        rw [Nat.add_zero, getElem?_swap_first inside (by omega), getElem?_eq_getElem bound,
          getElem?_eq_getElem (by omega), found]
      | succ index =>
        have later := congrArg (fun rest : List Item => rest[index]?) settled
        simp only [getElem?_drop] at later
        rw [getElem?_swap_other (by omega) (by omega),
          show pos + 1 + (index + 1) = pos + 1 + 1 + index by omega]
        exact later
    obtain ⟨draw, reached⟩ := ih (by rw [(swap_perm items (pos + 1) drawn).length_eq]; omega)
      ((swap_perm items (pos + 1) drawn).trans perm) placed
      ((swap_perm items (pos + 1) drawn).length_eq.trans lengths)
    refine ⟨Function.update draw (pos + 1) drawn, ?_⟩
    rw [shuffleFrom, Function.update_self, Option.bind_some, Nat.mod_eq_of_lt least]
    refine (shuffleFrom_congr _ fun index visited => ?_).trans reached
    rw [Function.update_of_ne (by omega)]

/-- The lists a shuffle can yield are the permutations of its input. -/
theorem exists_shuffle_iff :
    (∃ draw : Nat → Nat, shuffle (fun index => some (draw index)) items = some target) ↔
      target.Perm items := by
  constructor
  · rintro ⟨draw, result⟩
    exact shuffleFrom_perm result
  · intro perm
    cases items with
    | nil =>
      rw [perm_nil.mp perm]
      exact ⟨fun _ => 0, rfl⟩
    | cons =>
      refine shuffleFrom_reaches (by simp) perm.symm ?_
      rw [drop_eq_nil_of_le (by simp), drop_eq_nil_of_le (by simp [perm.length_eq])]

end

end Bacchus.Chain
