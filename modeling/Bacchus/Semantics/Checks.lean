import Mathlib.Data.List.Nodup

/-!
# Checks in sequence

A validator makes its checks in order and stops at the first that fails. A loop of
such checks over rows can refuse a key it has seen; a lookup by key then has one answer.
-/

namespace Bacchus

open List

section

variable {ε α β : Type} {next : α → Except ε β}

/-- Both parts succeed. -/
theorem bind_eq_ok_iff {first : Except ε α} {result : β} :
    first >>= next = .ok result ↔ ∃ value, first = .ok value ∧ next value = .ok result := by
  cases first with
  | error => exact ⟨nofun, nofun⟩
  | ok value => exact ⟨fun done => ⟨value, rfl, done⟩, fun ⟨_, rfl, done⟩ => done⟩

/-- The check refuses nothing and the rest succeeds. -/
theorem refused_bind_eq_ok_iff {refused : Prop} [Decidable refused] {failure : ε}
    {rest : Except ε β} {result : β} :
    (if refused then throw failure >>= next else rest) = .ok result ↔
      ¬ refused ∧ rest = .ok result := by
  split_ifs with failed
  · exact ⟨nofun, fun passed => absurd failed passed.1⟩
  · exact ⟨fun passed => ⟨failed, passed⟩, fun passed => passed.2⟩

/-- Every item passes. -/
theorem forM_eq_ok_iff {check : α → Except ε Unit} {items : List α} :
    items.forM check = .ok () ↔ ∀ item ∈ items, check item = .ok () := by
  induction items with
  | nil => exact ⟨fun _ => nofun, fun _ => rfl⟩
  | cons item rest ih =>
    rw [forM_eq_forM, forM_cons, bind_eq_ok_iff, forall_mem_cons, ← ih]
    exact ⟨fun ⟨_, first, others⟩ => ⟨first, others⟩, fun ⟨first, others⟩ => ⟨(), first, others⟩⟩

end

section

variable {ε α κ : Type} {key : α → κ} {rows : List α}

/-- A loop that refuses a seen key passes rows of different keys. -/
theorem nodup_of_loop {check : List α → α → Except ε Unit} {loop : List α → List α → Except ε Unit}
    (step : ∀ seen row rest,
      loop seen (row :: rest) = check seen row >>= fun _ => loop (row :: seen) rest)
    (fresh : ∀ {seen row}, check seen row = .ok () → ∀ other ∈ seen, key other ≠ key row)
    {seen : List α} (passed : loop seen rows = .ok ()) :
    (rows.map key).Nodup ∧ ∀ row ∈ rows, ∀ other ∈ seen, key other ≠ key row := by
  induction rows generalizing seen with
  | nil => exact ⟨nodup_nil, nofun⟩
  | cons row rest ih =>
    rw [step, bind_eq_ok_iff] at passed
    obtain ⟨_, checked, passed⟩ := passed
    obtain ⟨distinct, unseen⟩ := ih passed
    constructor
    · refine nodup_cons.mpr ⟨fun again => ?_, distinct⟩
      obtain ⟨next, member, same⟩ := mem_map.mp again
      exact unseen next member row mem_cons_self same.symm
    · intro next member other earlier
      rcases mem_cons.mp member with rfl | member
      · exact fresh checked other earlier
      · exact unseen next member other (mem_cons_of_mem _ earlier)

/-- At most one row is wanted and it is found, whatever the order of the rows. -/
structure Unambiguous (rows : List α) (wanted : α → Bool) (lookup : List α → Option α) : Prop where
  single : (rows.filter wanted).length ≤ 1
  found : ∀ row ∈ rows, wanted row → lookup rows = some row
  order : ∀ others : List α, others.Perm rows → lookup others = lookup rows

theorem find?_eq_some_iff_of_nodup [DecidableEq κ] (distinct : (rows.map key).Nodup) {wanted : κ}
    {row : α} : rows.find? (key · = wanted) = some row ↔
      row ∈ rows ∧ key row = wanted := by
  constructor
  · exact fun found => ⟨mem_of_find?_eq_some found, by simpa using find?_some found⟩
  · rintro ⟨member, same⟩
    cases found : rows.find? (key · = wanted) with
    | none => simpa [same] using find?_eq_none.mp found row member
    | some other =>
      have wants : key other = wanted := by simpa using find?_some found
      rw [inj_on_of_nodup_map distinct (mem_of_find?_eq_some found) member (wants.trans same.symm)]

/-- Distinct keys make a lookup unambiguous. -/
theorem unambiguous_of_nodup [DecidableEq κ] (distinct : (rows.map key).Nodup) (wanted : κ) :
    Unambiguous rows (key · = wanted) (List.find? (key · = wanted)) where
  single := by
    have counted := nodup_iff_count_le_one.mp distinct wanted
    rw [count_eq_countP, countP_map, countP_eq_length_filter] at counted
    exact counted
  found row member wants := (find?_eq_some_iff_of_nodup distinct).mpr ⟨member, by simpa using wants⟩
  order others permuted := by
    ext row
    rw [find?_eq_some_iff_of_nodup distinct,
      find?_eq_some_iff_of_nodup ((permuted.map key).nodup_iff.mpr distinct), permuted.mem_iff]

end

end Bacchus
