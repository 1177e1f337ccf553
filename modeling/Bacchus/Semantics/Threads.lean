import Mathlib.Algebra.GroupWithZero.Nat
import Mathlib.Data.List.Basic

/-!
# Threads kept in a list

The step of one thread replaces its entry. What holds of every thread survives that, and what some
thread still has to do unless it is done; a sum over the threads changes by its part.
-/

namespace Bacchus.Threads

open List

variable {Thread : Type} {threads : List Thread} {index : Nat} {old new : Thread}

/-- What holds of every thread holds of every thread after one has gone on. -/
theorem forall_set {Holds : Thread → Prop} (every : ∀ thread ∈ threads, Holds thread)
    (goes : Holds new) : ∀ thread ∈ threads.set index new, Holds thread := by
  intro thread member
  rcases mem_or_eq_of_mem_set member with earlier | rfl
  · exact every thread earlier
  · exact goes

/-- What a thread has still to do is done, or some thread still has to do it. -/
theorem pending_set {Pending : Thread → Prop} {Done Settled : Prop}
    (found : threads[index]? = some old)
    (before : Done ∨ ∃ thread ∈ threads, Pending thread) (kept : Done → Settled)
    (goes : Pending old → Settled ∨ Pending new) :
    Settled ∨ ∃ thread ∈ threads.set index new, Pending thread := by
  rcases before with done | ⟨thread, member, pending⟩
  · exact .inl (kept done)
  · obtain ⟨pos, known⟩ := mem_iff_getElem?.mp member
    by_cases here : index = pos
    · subst here
      obtain rfl : old = thread := Option.some.inj (found.symm.trans known)
      have inside := (List.getElem?_eq_some_iff.mp found).1
      exact (goes pending).imp_right fun still => ⟨new, mem_set inside new, still⟩
    · refine .inr ⟨thread, mem_of_getElem? (i := pos) ?_, pending⟩
      rwa [getElem?_set_ne here]

/-- Whoever still has to do something hands it to its own next step. -/
theorem exists_set {Pending : Thread → Prop} (found : threads[index]? = some old)
    (goes : Pending old → Pending new) (before : ∃ thread ∈ threads, Pending thread) :
    ∃ thread ∈ threads.set index new, Pending thread := by
  have settled : False ∨ ∃ thread ∈ threads.set index new, Pending thread :=
    pending_set found (.inr before) id fun pending => .inr (goes pending)
  exact settled.resolve_left id

/-- A thread of the list is an old one or the changed one. -/
theorem mem_modify {change : Thread → Thread} {thread : Thread}
    (member : thread ∈ threads.modify index change) : ∃ before ∈ threads, thread = before ∨
      threads[index]? = some before ∧ thread = change before := by
  obtain ⟨_, found⟩ := mem_iff_getElem?.mp member
  rw [getElem?_modify] at found
  obtain ⟨before, known, same⟩ := Option.map_eq_some_iff.mp found
  refine ⟨before, mem_of_getElem? known, ?_⟩
  split_ifs at same with here
  · subst here
    exact .inr ⟨known, same.symm⟩
  · exact .inl same.symm

/-- One thread goes on, and its part of a sum over the threads changes. -/
theorem sum_set (weight : Thread → Nat) (new : Thread) (found : threads[index]? = some old) :
    ((threads.set index new).map weight).sum + weight old =
      (threads.map weight).sum + weight new := by
  induction threads generalizing index with
  | nil => cases found
  | cons first rest ih =>
    cases index with
    | zero =>
      cases found
      simp only [set_cons_zero, map_cons, sum_cons]
      omega
    | succ index =>
      have later := ih found
      simp only [set_cons_succ, map_cons, sum_cons]
      omega

end Bacchus.Threads
