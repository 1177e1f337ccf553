import Mathlib.Data.List.AList
import Mathlib.Data.List.Induction

/-!
# Tables swept by a test

A map as a program keeps it: entries under distinct keys, stored and dropped one at a
time, and swept by a test on the whole entry.
-/

namespace Bacchus

open List

/-- A finite map with values of one type. -/
abbrev Table (Key Value : Type) := AList fun _ : Key => Value

namespace Table

variable {Key Value : Type} [DecidableEq Key]

/-- The entries that pass a test. -/
def retain (table : Table Key Value) (keep : Key → Value → Bool) : Table Key Value where
  entries := table.entries.filter fun entry => keep entry.1 entry.2
  nodupKeys := table.nodupKeys.sublist List.filter_sublist

/-- A sweep keeps what passes the test. -/
@[simp] theorem lookup_retain (table : Table Key Value) (keep : Key → Value → Bool) (key : Key) :
    (table.retain keep).lookup key = (table.lookup key).filter (keep key) := by
  ext value
  rw [← Option.mem_def, AList.mem_lookup_iff, Option.filter_eq_some_iff, ← Option.mem_def,
    AList.mem_lookup_iff]
  exact mem_filter

variable {table : Table Key Value} {key : Key} {value : Value}

/-- What a sweep leaves under a key was there and passes the test. -/
theorem lookup_retain_eq_some {keep : Key → Value → Bool} :
    (table.retain keep).lookup key = some value ↔
      table.lookup key = some value ∧ keep key value := by
  rw [lookup_retain, Option.filter_eq_some_iff]

/-- What is found after an insertion. -/
theorem lookup_insert_eq_some {stored : Key} {found : Value} :
    (AList.insert stored value table).lookup key = some found ↔
      key = stored ∧ value = found ∨ key ≠ stored ∧ table.lookup key = some found := by
  by_cases same : key = stored
  · subst same
    simp
  · simp [AList.lookup_insert_ne same, same]

/-- What is found after a removal. -/
theorem lookup_erase_eq_some {dropped : Key} {found : Value} :
    (AList.erase dropped table).lookup key = some found ↔
      key ≠ dropped ∧ table.lookup key = some found := by
  by_cases same : key = dropped
  · subst same
    simp
  · simp [AList.lookup_erase_ne same, same]

/-- At most one entry is under a key: the one a lookup finds. -/
theorem filter_key (table : Table Key Value) (key : Key) :
    (table.entries.filter fun entry => entry.1 = key) =
      ((table.lookup key).map (@Sigma.mk Key (fun _ => Value) key)).toList := by
  obtain ⟨entries, distinct⟩ := table
  change _ = ((dlookup key entries).map (@Sigma.mk Key (fun _ => Value) key)).toList
  induction entries with
  | nil => rfl
  | cons entry entries ih =>
    obtain ⟨absent, distinct⟩ := nodupKeys_cons.mp distinct
    by_cases same : key = entry.1
    · obtain ⟨_, _⟩ := entry
      subst same
      have none : (entries.filter fun other => other.1 = key) = [] := by
        apply filter_eq_nil_iff.mpr
        intro other member found
        have key := mem_keys_of_mem member
        rw [of_decide_eq_true found] at key
        exact absent key
      simp only [filter_cons, decide_true, if_true, none, dlookup_cons_eq]
      rfl
    · simp only [filter_cons, decide_eq_true_eq, if_neg (Ne.symm same),
        dlookup_cons_ne entries entry same]
      exact ih distinct

omit [DecidableEq Key] in
theorem length_keys (table : Table Key Value) : table.keys.length = table.entries.length :=
  length_map _

omit [DecidableEq Key] in
/-- A sweep adds no entry. -/
theorem length_retain_le (table : Table Key Value) (keep : Key → Value → Bool) :
    (table.retain keep).entries.length ≤ table.entries.length :=
  length_filter_le _ _

/-- A removal adds no entry. -/
theorem length_erase_le (table : Table Key Value) (key : Key) :
    (table.erase key).entries.length ≤ table.entries.length := by
  rw [← length_keys, ← length_keys, AList.keys_erase]
  exact List.length_erase_le

/-- An insertion adds one entry at most. -/
theorem length_insert_le (table : Table Key Value) (key : Key) (value : Value) :
    (table.insert key value).entries.length ≤ table.entries.length + 1 := by
  rw [← length_keys, ← length_keys, AList.keys_insert]
  exact Nat.succ_le_succ List.length_erase_le

/-- Storing under a key that is held replaces its entry. -/
theorem length_insert_of_isSome (value : Value) (held : (table.lookup key).isSome) :
    (table.insert key value).entries.length = table.entries.length := by
  have member : key ∈ table.keys := AList.mem_keys.mp (AList.lookup_isSome.mp held)
  have positive : 0 < table.keys.length := length_pos_of_mem member
  rw [← length_keys, ← length_keys, AList.keys_insert, length_cons, length_erase_of_mem member]
  omega

/-- Append a value to the list under a key. -/
def push (table : Table Key (List Value)) (key : Key) (value : Value) : Table Key (List Value) :=
  table.insert key ((table.lookup key).getD [] ++ [value])

/-- Collect the second components under the first, in order. -/
def group (pairs : List (Key × Value)) : Table Key (List Value) :=
  pairs.foldl (fun table pair => table.push pair.1 pair.2) ∅

/-- The values paired with a key. -/
def valuesAt (pairs : List (Key × Value)) (key : Key) : List Value :=
  (pairs.filter fun pair => pair.1 = key).map Prod.snd

variable {pairs : List (Key × Value)}

/-- The values under a key. -/
theorem mem_valuesAt : value ∈ valuesAt pairs key ↔ (key, value) ∈ pairs := by
  unfold valuesAt
  rw [mem_map]
  constructor
  · rintro ⟨⟨other, _⟩, member, rfl⟩
    obtain ⟨found, same⟩ := mem_filter.mp member
    rw [← of_decide_eq_true same]
    exact found
  · intro found
    exact ⟨(key, value), mem_filter.mpr ⟨found, decide_eq_true rfl⟩, rfl⟩

/-- The values under a key, in two parts. -/
theorem valuesAt_append (pairs more : List (Key × Value)) (key : Key) :
    valuesAt (pairs ++ more) key = valuesAt pairs key ++ valuesAt more key := by
  unfold valuesAt
  rw [filter_append, map_append]

/-- Permuted pairs have permuted values. -/
theorem valuesAt_perm {others : List (Key × Value)} (permuted : pairs.Perm others) (key : Key) :
    (valuesAt pairs key).Perm (valuesAt others key) :=
  (permuted.filter _).map _

/-- One more pair joins its group. -/
theorem group_append_singleton (pairs : List (Key × Value)) (pair : Key × Value) :
    group (pairs ++ [pair]) = (group pairs).push pair.1 pair.2 := by
  unfold group
  rw [foldl_append]
  rfl

theorem lookup_group (pairs : List (Key × Value)) (key : Key) :
    (group pairs).lookup key =
      if valuesAt pairs key = [] then none else some (valuesAt pairs key) := by
  induction pairs using reverseRecOn with
  | nil => rfl
  | append_singleton pairs pair ih =>
    rw [group_append_singleton, push, valuesAt_append]
    by_cases same : key = pair.1
    · subst same
      have one : valuesAt [pair] pair.1 = [pair.2] := by simp [valuesAt]
      have some : valuesAt pairs pair.1 ++ [pair.2] ≠ [] := by simp
      rw [AList.lookup_insert, ih, one, if_neg some]
      by_cases empty : valuesAt pairs pair.1 = []
      · rw [if_pos empty, empty]
        rfl
      · rw [if_neg empty]
        rfl
    · have none : valuesAt [pair] key = [] := by
        simp [valuesAt, Ne.symm same]
      rw [AList.lookup_insert_ne same, ih, none, append_nil]

/-- A key holds what was collected under it, and is absent when nothing was. -/
theorem lookup_group_eq_some {values : List Value} :
    (group pairs).lookup key = some values ↔ values = valuesAt pairs key ∧ values ≠ [] := by
  rw [lookup_group]
  split_ifs with empty
  · constructor
    · intro none
      cases none
    · rintro ⟨rfl, some⟩
      exact absurd empty some
  · rw [Option.some.injEq]
    constructor
    · rintro rfl
      exact ⟨rfl, empty⟩
    · rintro ⟨rfl, _⟩
      rfl

end Table

end Bacchus
