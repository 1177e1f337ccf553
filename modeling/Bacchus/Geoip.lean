import Bacchus.Net.Netip
import Bacchus.Text.Escape

/-!
# Country codes

The canonical form of `core/geoip`, by which a directory's tag, an operator's file and
what a user types are compared.
-/

namespace Bacchus.Geoip

open List

/-- `unicode.ToUpper`, where it yields ASCII: so it does for two letters outside ASCII. -/
def toUpper (char : Char) : Char :=
  if 'a' ≤ char ∧ char ≤ 'z' then Char.ofNat (char.toNat - 32)
  else if char.toNat = 0x131 then 'I'
  else if char.toNat = 0x17f then 'S'
  else char

/-- `Canonical`: two bytes that become capital letters, or no country. -/
def canonical (text : String) : String :=
  let trimmed := (Netip.trimSpace text).toList
  let upper := trimmed.map toUpper
  if Text.byteLength trimmed = 2 ∧ upper.all fun char => 'A' ≤ char ∧ char ≤ 'Z' then .ofList upper
  else ""

/-- Two capital letters. -/
def IsTag (text : String) : Prop :=
  text.toList.length = 2 ∧ ∀ char ∈ text.toList, 'A' ≤ char ∧ char ≤ 'Z'

instance decidableIsTag (text : String) : Decidable (IsTag text) :=
  decidable_of_iff
    (text.toList.length = 2 ∧ (text.toList.all fun char => decide ('A' ≤ char ∧ char ≤ 'Z')))
    (by simp only [IsTag, List.all_eq_true, decide_eq_true_eq])

/-- A capital letter is one byte, no white space and its own upper case. -/
theorem capital_fixed {char : Char} (capital : 'A' ≤ char ∧ char ≤ 'Z') :
    char.utf8Size = 1 ∧ Netip.isSpace char = false ∧ toUpper char = char := by
  have low : 65 ≤ char.toNat := capital.1
  have high : char.toNat ≤ 90 := capital.2
  refine ⟨Char.utf8Size_eq_one_iff.mpr ?_, ?_, ?_⟩
  · exact UInt32.le_iff_toNat_le.mpr (Nat.le_trans high (by decide))
  · simp only [Netip.isSpace, mem_cons, not_mem_nil, or_false, Bool.or_eq_false_iff,
      Bool.and_eq_false_iff, decide_eq_false_iff_not]
    omega
  · unfold toUpper
    have lower : ¬('a' ≤ char ∧ char ≤ 'z') := fun small =>
      absurd (Nat.le_trans (show 97 ≤ char.toNat from small.1) high) (by decide)
    rw [if_neg lower, if_neg (by omega), if_neg (by omega)]

variable {text : String}

/-- A tag of two capital letters is its own canonical form. -/
theorem canonical_of_isTag (tag : IsTag text) : canonical text = text := by
  obtain ⟨two, capitals⟩ := tag
  have trimmed : Netip.trimSpace text = text :=
    Netip.trimSpace_eq_self fun char member => (capital_fixed (capitals char member)).2.1
  have upper : text.toList.map toUpper = text.toList := by
    have same : text.toList.map toUpper = text.toList.map id :=
      map_congr_left fun char member => (capital_fixed (capitals char member)).2.2
    rw [same, map_id]
  have bytes : Text.byteLength text.toList = 2 := by
    unfold Text.byteLength
    have ones : text.toList.map Char.utf8Size = text.toList.map fun _ => 1 :=
      map_congr_left fun char member => (capital_fixed (capitals char member)).1
    rw [ones, map_const', sum_replicate, two]
    rfl
  have all : (text.toList.all fun char => 'A' ≤ char ∧ char ≤ 'Z') :=
    all_eq_true.mpr fun char member => decide_eq_true (capitals char member)
  unfold canonical
  simp only [trimmed, upper, if_pos (And.intro bytes all), String.ofList_toList]

/-- No country, or a tag. -/
def Formed (text : String) : Prop := text = "" ∨ IsTag text

/-- Not one of the two letters of two bytes that become one capital. -/
def Plain (text : String) : Prop := Netip.trimSpace text ≠ "ı" ∧ Netip.trimSpace text ≠ "ſ"

instance : DecidablePred Formed := fun _ => inferInstanceAs (Decidable (_ ∨ _))

instance : DecidablePred Plain := fun _ => inferInstanceAs (Decidable (_ ∧ _))

/-- A well-formed code is canonical. -/
theorem canonical_of_formed (formed : Formed text) : canonical text = text := by
  rcases formed with rfl | tag
  · decide
  · exact canonical_of_isTag tag

theorem canonical_of_not_plain (odd : ¬ Plain text) :
    canonical text = "I" ∨ canonical text = "S" := by
  unfold canonical
  rcases not_and_or.mp odd with dotless | long
  · rw [not_not.mp dotless]
    exact .inl (by decide)
  · rw [not_not.mp long]
    exact .inr (by decide)

/-- Only a plain code becomes well formed. -/
theorem plain_of_formed_canonical (formed : Formed (canonical text)) :
    Plain text := by
  by_contra odd
  revert formed
  rcases canonical_of_not_plain odd with single | single <;> rw [single] <;> decide

/-- A well-formed code is plain. -/
theorem plain_of_formed (formed : Formed text) : Plain text :=
  plain_of_formed_canonical (by rwa [canonical_of_formed formed])

/-- A letter of two bytes with a capital as upper case is one of two. -/
theorem odd_of_toUpper {char : Char} (wide : char.utf8Size = 2)
    (capital : 'A' ≤ toUpper char ∧ toUpper char ≤ 'Z') : char = 'ı' ∨ char = 'ſ' := by
  have high : ¬ char.toNat ≤ 127 := fun low =>
    absurd (Char.utf8Size_eq_one_iff.mpr (UInt32.le_iff_toNat_le.mpr low)) (by omega)
  unfold toUpper at capital
  split_ifs at capital with lower dotless long
  · exact absurd (Nat.le_trans (show char.toNat ≤ 122 from lower.2) (by decide)) high
  · exact .inl (Char.toNat_inj.mp dotless)
  · exact .inr (Char.toNat_inj.mp long)
  · exact absurd (Nat.le_trans (show char.toNat ≤ 90 from capital.2) (by decide)) high

/-- A plain code becomes well formed. -/
theorem formed_canonical (plain : Plain text) : Formed (canonical text) := by
  unfold canonical
  dsimp only
  split_ifs with accepted
  · refine .inr ⟨?_, by simpa using accepted.2⟩
    obtain ⟨two, capitals⟩ := accepted
    rw [String.toList_ofList, length_map]
    simp only [all_map, all_eq_true, Function.comp_apply, decide_eq_true_eq] at capitals
    generalize spelled : (Netip.trimSpace text).toList = trimmed at two capitals ⊢
    match trimmed with
    | [] => cases two
    | [char] =>
      have wide : char.utf8Size = 2 := by simpa [Text.byteLength] using two
      rcases odd_of_toUpper wide (capitals char (.head _)) with rfl | rfl
      · exact absurd (String.toList_inj.mp spelled) plain.1
      · exact absurd (String.toList_inj.mp spelled) plain.2
    | [_, _] => rfl
    | first :: second :: third :: rest =>
      have := first.utf8Size_pos
      have := second.utf8Size_pos
      have := third.utf8Size_pos
      simp only [Text.byteLength, map_cons, sum_cons] at two
      omega
  · exact .inl rfl

/-- Twice canonical is well formed. -/
theorem formed_canonical_canonical (text : String) : Formed (canonical (canonical text)) := by
  by_cases plain : Plain text
  · rw [canonical_of_formed (formed_canonical plain)]
    exact formed_canonical plain
  · rcases canonical_of_not_plain plain with single | single <;> rw [single] <;> decide

end Bacchus.Geoip
