import Bacchus.Semantics.Checks
import Mathlib.Data.List.Induction
import Mathlib.Data.Nat.Digits.Defs

/-!
# Release versions

`core/version`: three integers read with `strconv.Atoi`, compared component by
component. An `int` has 64 bits.
-/

namespace Bacchus

open Option List

/-- The value of a decimal digit. -/
def digitValue (char : Char) : Option Nat :=
  if '0' ≤ char ∧ char ≤ '9' then some (char.toNat - '0'.toNat) else none

/-- The value of one or more decimal digits. -/
def decimalValue (digits : List Char) : Option Nat :=
  if digits = [] then none
  else digits.foldl
    (fun total char => total.bind fun value => (digitValue char).map fun digit =>
      10 * value + digit)
    (some 0)

/-- `strconv.Atoi`: an optional sign, then digits, within the range of `int`. -/
def atoi : List Char → Option Int
  | '-' :: digits => (decimalValue digits).bind fun value =>
    if value ≤ 2 ^ 63 then some (-value) else none
  | '+' :: digits => (decimalValue digits).bind fun value =>
    if value < 2 ^ 63 then some value else none
  | digits => (decimalValue digits).bind fun value => if value < 2 ^ 63 then some value else none

structure Version where
  major : Int := 0
  minor : Int := 0
  patch : Int := 0
deriving DecidableEq

namespace Version

inductive ParseError where
  | notMajorMinorPatch (text : String)
  | invalidComponent (text part : String)
deriving DecidableEq

/-- One component: an integer that is not negative. -/
def component (text : String) (part : List Char) : Except ParseError Int :=
  match atoi part with
  | some value => if value < 0 then .error (.invalidComponent text (.ofList part)) else .ok value
  | none => .error (.invalidComponent text (.ofList part))

/-- Read a version as the source does. -/
def parse (text : String) : Except ParseError Version :=
  match text.toList.splitOn '.' with
  | [major, minor, patch] => do
      let major ← component text major
      let minor ← component text minor
      let patch ← component text patch
      return { major, minor, patch }
  | _ => .error (.notMajorMinorPatch text)

def string (version : Version) : String :=
  toString version.major ++ "." ++ toString version.minor ++ "." ++ toString version.patch

/-- `Compare`: the sign of the first difference. -/
def compare (version other : Version) : Int :=
  [version.major - other.major, version.minor - other.minor, version.patch - other.patch].foldr
    (fun difference rest => if difference < 0 then -1 else if difference > 0 then 1 else rest) 0

/-- The version is at or above the minimum. -/
def servingAllowed (node floor : Version) : Bool := node.compare floor ≥ 0

end Version

/-- A decimal numeral below a bound, without sign or superfluous zero. -/
def Numeral (bound : Nat) (part : List Char) : Prop :=
  (1 < part.length → part.head? ≠ some '0') ∧ ∃ value < bound, decimalValue part = some value

theorem decimalValue_concat {digits : List Char} (char : Char) (further : digits ≠ []) :
    decimalValue (digits ++ [char]) =
      (decimalValue digits).bind fun value =>
        (digitValue char).map fun digit => 10 * value + digit := by
  simp [decimalValue, further]

theorem digitValue_eq_some {char : Char} {digit : Nat} (read : digitValue char = some digit) :
    digit < 10 ∧ digit.digitChar = char := by
  unfold digitValue at read
  split_ifs at read with within
  cases read
  have low : 48 ≤ char.toNat := within.1
  have high : char.toNat ≤ 57 := within.2
  have below : char.toNat - 48 < 10 := by omega
  refine ⟨below, ?_⟩
  have code : (char.toNat - 48).digitChar.toNat = char.toNat := by
    have digits : ∀ digit < 10, digit.digitChar.toNat = digit + 48 := by decide
    rw [digits _ below]
    omega
  exact Char.toNat_inj.mp code

variable {part : List Char}

/-- A numeral without superfluous zeros is how its value is written. -/
theorem toDigits_of_decimalValue {value : Nat} (plain : 1 < part.length → part.head? ≠ some '0')
    (read : decimalValue part = some value) :
    Nat.toDigits 10 value = part := by
  induction part using reverseRecOn generalizing value with
  | nil => cases read
  | append_singleton digits char ih =>
    by_cases first : digits = []
    · subst first
      have single : digitValue char = some value := by simpa [decimalValue] using read
      obtain ⟨below, written⟩ := digitValue_eq_some single
      rw [Nat.toDigits_of_lt_base below, written]
      rfl
    · rw [decimalValue_concat char first] at read
      obtain ⟨high, higher, low⟩ := bind_eq_some_iff.mp read
      obtain ⟨digit, lower, rfl⟩ := map_eq_some_iff.mp low
      obtain ⟨below, written⟩ := digitValue_eq_some lower
      have leads : digits.head? ≠ some '0' := by
        have head := plain (by simp [length_pos_iff.mpr first])
        rwa [head?_append_of_ne_nil _ first] at head
      have earlier : Nat.toDigits 10 high = digits := ih (fun _ => leads) higher
      have positive : high ≠ 0 := by
        rintro rfl
        exact leads (by rw [← earlier]; rfl)
      rw [Nat.toDigits_of_base_le (by decide) (by omega), ← written]
      have quotient : (10 * high + digit) / 10 = high := by omega
      have remainder : (10 * high + digit) % 10 = digit := by omega
      rw [quotient, remainder, earlier]

/-- A component the integer parser reads past: with a sign, or a superfluous zero. -/
def Coerced (part : List Char) : Prop :=
  part.head? = some '+' ∨ part.head? = some '-' ∨ 1 < part.length ∧ part.head? = some '0'

theorem Numeral.digits {bound : Nat} (numeral : Numeral bound part) :
    ∀ char ∈ part, digitValue char ≠ none := by
  obtain ⟨plain, _, _, read⟩ := numeral
  rw [← toDigits_of_decimalValue plain read]
  intro char member
  have digit := Nat.isDigit_of_mem_toDigits (by decide) (by decide) member
  simp only [Char.isDigit, Bool.and_eq_true, decide_eq_true_eq] at digit
  have within : '0' ≤ char ∧ char ≤ '9' := digit
  simp [digitValue, within]

theorem Numeral.not_coerced {bound : Nat} (numeral : Numeral bound part) :
    ¬ Coerced part := by
  rintro (sign | sign | ⟨long, zero⟩)
  · exact numeral.digits _ (mem_of_head? sign) rfl
  · exact numeral.digits _ (mem_of_head? sign) rfl
  · exact numeral.1 long zero

/-- Without a sign, `Atoi` is the value of the digits. -/
theorem atoi_of_not_coerced (plain : ¬ Coerced part) :
    atoi part = (decimalValue part).bind fun value =>
      if value < 2 ^ 63 then some (value : Int) else none := by
  unfold atoi
  split
  · exact absurd (.inr (.inl rfl)) plain
  · exact absurd (.inl rfl) plain
  · rfl

theorem numeral_iff :
    Numeral (2 ^ 63) part ↔ (∃ value, atoi part = some value ∧ 0 ≤ value) ∧ ¬ Coerced part := by
  constructor
  · intro numeral
    have plain := numeral.not_coerced
    obtain ⟨_, value, below, read⟩ := numeral
    refine ⟨⟨value, ?_, Int.natCast_nonneg value⟩, plain⟩
    rw [atoi_of_not_coerced plain, read, bind_some, if_pos below]
  · rintro ⟨⟨value, read, _⟩, plain⟩
    rw [atoi_of_not_coerced plain] at read
    obtain ⟨number, digits, bounded⟩ := bind_eq_some_iff.mp read
    obtain ⟨below, _⟩ := ite_none_right_eq_some.mp bounded
    exact ⟨fun long zero => plain (.inr (.inr ⟨long, zero⟩)), number, below, digits⟩

namespace Version

/-- The components of a version as text. -/
def parts (text : String) : List (List Char) := text.toList.splitOn '.'

/-- Three numerals below a bound, joined by dots. -/
def Canonical (bound : Nat) (text : String) : Prop :=
  (parts text).length = 3 ∧ ∀ part ∈ parts text, Numeral bound part

/-- Three components the integer parser takes for natural numbers. -/
def Readable (text : String) : Prop :=
  (parts text).length = 3 ∧ ∀ part ∈ parts text, ∃ value, atoi part = some value ∧ 0 ≤ value

variable {bound : Nat} {text : String}

/-- A canonical number is readable. -/
theorem Canonical.readable (canonical : Canonical bound text) (fits : bound ≤ 2 ^ 63 := by decide) :
    Readable text := by
  refine ⟨canonical.1, fun part member => (numeral_iff.mp ?_).1⟩
  obtain ⟨plain, value, below, read⟩ := canonical.2 part member
  exact ⟨plain, value, below.trans_le fits, read⟩

variable {part : List Char}

theorem component_eq_ok_iff {value : Int} :
    component text part = .ok value ↔ atoi part = some value ∧ 0 ≤ value := by
  unfold component
  cases atoi part with
  | none => simp
  | some => grind

variable {version : Version}

theorem parse_eq_ok_iff :
    parse text = .ok version ↔ ∃ major minor patch, parts text = [major, minor, patch] ∧
      component text major = .ok version.major ∧ component text minor = .ok version.minor ∧
      component text patch = .ok version.patch := by
  unfold parse
  split
  · next major minor patch three =>
    have three : parts text = [major, minor, patch] := three
    simp only [bind_eq_ok_iff, three]
    cases version
    simp [pure, Except.pure]
  · next other =>
    constructor
    · exact nofun
    · rintro ⟨major, minor, patch, three, _⟩
      exact (other major minor patch three).elim

/-- What is parsed is what is readable. -/
theorem exists_parse_iff :
    (∃ version, parse text = .ok version) ↔ Readable text := by
  simp only [parse_eq_ok_iff, component_eq_ok_iff, Readable]
  constructor
  · rintro ⟨version, major, minor, patch, three, first, second, third⟩
    simp [three, first, second, third]
  · rintro ⟨three, read⟩
    obtain ⟨major, minor, patch, three⟩ := length_eq_three.mp three
    simp only [three, forall_mem_cons] at read
    obtain ⟨⟨first, read⟩, ⟨second, read'⟩, ⟨third, read''⟩, _⟩ := read
    exact ⟨⟨first, second, third⟩, major, minor, patch, three, read, read', read''⟩

theorem toString_component {value : Int} (numeral : Numeral bound part)
    (read : component text part = .ok value) :
    (toString value).toList = part := by
  have atoi := (component_eq_ok_iff.mp read).1
  rw [atoi_of_not_coerced numeral.not_coerced] at atoi
  obtain ⟨number, digits, bounded⟩ := bind_eq_some_iff.mp atoi
  obtain ⟨_, same⟩ := ite_none_right_eq_some.mp bounded
  cases same
  have written : toString (number : Int) = String.ofList (Nat.toDigits 10 number) :=
    Nat.repr_eq_ofList_toDigits
  rw [written, toDigits_of_decimalValue numeral.1 digits, String.toList_ofList]

/-- Numerals are read as the version they write. -/
theorem string_of_parse (canonical : Canonical bound text) (parsed : parse text = .ok version) :
    version.string = text := by
  obtain ⟨_, _, _, three, first, second, third⟩ := parse_eq_ok_iff.mp parsed
  have numerals := canonical.2
  simp only [three, forall_mem_cons] at numerals
  obtain ⟨numeral, numeral', numeral'', _⟩ := numerals
  apply String.toList_inj.mp
  have joined : ['.'].intercalate (parts text) = text.toList := intercalate_splitOn '.'
  rw [← joined, three]
  simp only [string, String.toList_append, toString_component numeral first,
    toString_component numeral' second, toString_component numeral'' third]
  simp [intercalate]

/-- What is wrong with the text of a release. -/
inductive Fault where
  | required
  | shape (text : String)
  | emptyComponent (text : String)
  | leadingZero (text part : String)
  | nonDigit (text part : String)
  | outOfRange (text part : String)
deriving DecidableEq

variable {Failure : Type} {refuse : Fault → Failure}

/-- One component of a release: digits, no superfluous zero, below 2³¹. -/
def checkPart (refuse : Fault → Failure) (text : String) (part : List Char) : Except Failure Unit :=
  if part = [] then .error (refuse (.emptyComponent text))
  else if 1 < part.length ∧ part.head? = some '0' then
    .error (refuse (.leadingZero text (.ofList part)))
  else if part.any fun char => (digitValue char).isNone then
    .error (refuse (.nonDigit text (.ofList part)))
  else if (decimalValue part).all fun value => 2 ^ 31 ≤ value then
    .error (refuse (.outOfRange text (.ofList part)))
  else .ok ()

/-- The check that `core/update` and `core/policy` each write out, with its own errors. -/
def check (refuse : Fault → Failure) (text : String) : Except Failure Unit :=
  if text = "" then .error (refuse .required)
  else
    let parts := text.toList.splitOn '.'
    if parts.length ≠ 3 then .error (refuse (.shape text))
    else parts.forM (checkPart refuse text)

/-- A component that passes is a numeral. -/
theorem checkPart_eq_ok_iff : checkPart refuse text part = .ok () ↔ Numeral (2 ^ 31) part := by
  unfold checkPart
  constructor
  · intro passed
    split_ifs at passed with empty zero other high
    refine ⟨fun long leads => zero ⟨long, leads⟩, ?_⟩
    cases read : decimalValue part with
    | none => simp [read] at high
    | some value => exact ⟨value, by simpa [read] using high, rfl⟩
  · intro numeral
    have digits := numeral.digits
    obtain ⟨plain, value, below, read⟩ := numeral
    rw [if_neg, if_neg fun zero => plain zero.1 zero.2, if_neg (by simpa using digits),
      if_neg (by simpa [read] using below)]
    rintro rfl
    cases read

/-- A release that passes is a version in three numerals below 2³¹. -/
theorem check_eq_ok_iff : check refuse text = .ok () ↔ Canonical (2 ^ 31) text := by
  unfold check Canonical parts
  by_cases empty : text = ""
  · subst empty
    rw [if_pos rfl]
    exact ⟨nofun, fun canonical => absurd canonical.1 (by decide)⟩
  · rw [if_neg empty]
    by_cases three : (text.toList.splitOn '.').length = 3
    · simp only [three, ne_eq, not_true, if_false, forM_eq_ok_iff, checkPart_eq_ok_iff, true_and]
    · simp [three]

/-- A text parses exactly when it is a canonical version, and then renders as itself, unless the
integer parser reads past a sign or a superfluous zero in it. -/
theorem parse_exact_iff (text : String) :
    (((∃ version, parse text = .ok version) ↔ Canonical (2 ^ 63) text) ∧
      ∀ version, parse text = .ok version → version.string = text) ↔
      ¬ (Readable text ∧ ∃ part ∈ parts text, Coerced part) := by
  have exact : Canonical (2 ^ 63) text ↔ Readable text ∧ ¬ ∃ part ∈ parts text, Coerced part := by
    simp only [Canonical, Readable, numeral_iff, not_exists, not_and, and_assoc, forall_and]
  rw [exists_parse_iff]
  constructor
  · rintro ⟨only, _⟩ ⟨readable, coerced⟩
    exact (exact.mp (only.mp readable)).2 coerced
  · intro plain
    have canonical : Readable text → Canonical (2 ^ 63) text := fun readable =>
      exact.mpr ⟨readable, fun coerced => plain ⟨readable, coerced⟩⟩
    refine ⟨⟨canonical, fun written => (exact.mp written).1⟩, fun version parsed => ?_⟩
    exact string_of_parse (canonical (exists_parse_iff.mp ⟨version, parsed⟩)) parsed

/-- A sign and a superfluous zero are read past. -/
theorem coerced_version_parses :
    parse "+1.02.3" = .ok ⟨1, 2, 3⟩ ∧ (⟨1, 2, 3⟩ : Version).string = "1.2.3" ∧
      ¬ Canonical (2 ^ 63) "+1.02.3" := by
  refine ⟨by decide, by decide, fun canonical => ?_⟩
  exact (canonical.2 ['+', '1'] (by decide)).not_coerced (.inl rfl)

end Version

end Bacchus
