import Bacchus.Text.Escape

/-!
# Bytes as text

`encoding/hex`: lowercase when written, either case when read. `encoding/base64` in the
URL alphabet without padding, and in the standard one with it.
-/

namespace Bacchus

open List Option

abbrev Bytes := List UInt8

/-- A hash function with digests of 32 bytes. -/
structure Digest where
  hash : Bytes → Bytes
  length_hash : ∀ content, (hash content).length = 32

namespace Text

/-- `hex.EncodeToString`. -/
def hexEncode (bytes : Bytes) : String :=
  .ofList (bytes.flatMap fun byte => hexDigits 2 byte.toNat)

/-- The value of a hexadecimal digit. -/
def hexValue (char : Char) : Option Nat :=
  if '0' ≤ char ∧ char ≤ '9' then some (char.toNat - 48)
  else if 'a' ≤ char ∧ char ≤ 'f' then some (char.toNat - 87)
  else if 'A' ≤ char ∧ char ≤ 'F' then some (char.toNat - 55)
  else none

def hexPairs : List Char → Option Bytes
  | [] => some []
  | [_] => none
  | high :: low :: rest => do
      let high ← hexValue high
      let low ← hexValue low
      let bytes ← hexPairs rest
      return UInt8.ofNat (16 * high + low) :: bytes

/-- `hex.DecodeString`. -/
def hexDecode (text : String) : Option Bytes := hexPairs text.toList

/-- Two digits a byte. -/
theorem length_hexEncode (bytes : Bytes) : (hexEncode bytes).length = 2 * bytes.length := by
  unfold hexEncode
  rw [String.length_ofList]
  induction bytes with
  | nil => rfl
  | cons byte bytes ih =>
    rw [flatMap_cons, length_append, ih, length_cons, length_hexDigits]
    omega

variable {bytes : Bytes}

/-- Some bytes have some digits. -/
theorem hexEncode_ne_empty (nonempty : bytes ≠ []) : hexEncode bytes ≠ "" := by
  intro empty
  have length := length_hexEncode bytes
  rw [empty] at length
  have positive : 0 < bytes.length := length_pos_iff.mpr nonempty
  have none : "".length = 0 := rfl
  omega

variable {value : Nat}

theorem hexValue_hexDigit (small : value < 16) : hexValue (hexDigit value) = some value := by
  have every : ∀ value < 16, hexValue (hexDigit value) = some value := by decide
  exact every value small

theorem hexPairs_append_digits (byte : UInt8) (rest : List Char) :
    hexPairs (hexDigits 2 byte.toNat ++ rest) = (hexPairs rest).map (byte :: ·) := by
  have high : byte.toNat / 16 % 16 < 16 := Nat.mod_lt _ (by decide)
  have low : byte.toNat % 16 < 16 := Nat.mod_lt _ (by decide)
  have whole : 16 * (byte.toNat / 16 % 16) + byte.toNat % 16 = byte.toNat := by
    have bound : byte.toNat < 256 := byte.toNat_lt
    omega
  simp only [hexDigits, nil_append, cons_append, hexPairs, hexValue_hexDigit high,
    hexValue_hexDigit low, bind_eq_bind, bind_some, whole, UInt8.ofNat_toNat]
  cases hexPairs rest <;> rfl

/-- Bytes are read back. -/
theorem hexDecode_hexEncode (bytes : Bytes) : hexDecode (hexEncode bytes) = some bytes := by
  unfold hexDecode hexEncode
  rw [String.toList_ofList]
  induction bytes with
  | nil => rfl
  | cons byte bytes ih =>
    rw [flatMap_cons, hexPairs_append_digits, ih]
    rfl

variable {char : Char}

theorem hexDigit_of_hexValue (valued : hexValue char = some value) :
    value < 16 ∧ hexDigit value = char.toLower := by
  have every : ∀ code < 128, ∀ value ∈ hexValue (Char.ofNat code),
      value < 16 ∧ hexDigit value = (Char.ofNat code).toLower := by decide
  have ascii : char.toNat < 128 := by
    unfold hexValue at valued
    split_ifs at valued with digit lower upper
    · exact Nat.lt_of_le_of_lt digit.2 (by decide)
    · exact Nat.lt_of_le_of_lt lower.2 (by decide)
    · exact Nat.lt_of_le_of_lt upper.2 (by decide)
  rw [← Char.ofNat_toNat char] at valued ⊢
  exact every char.toNat ascii value valued

variable {text : String}

/-- Only the case is lost. -/
theorem hexEncode_of_hexDecode (decoded : hexDecode text = some bytes) :
    hexEncode bytes = text.toLower := by
  unfold hexDecode at decoded
  have lower : text.toLower.toList = text.toList.map Char.toLower := String.toList_map
  rw [← String.toList_inj, hexEncode, String.toList_ofList, lower]
  generalize text.toList = chars at decoded
  induction chars using hexPairs.induct generalizing bytes with
  | case1 =>
    cases decoded
    rfl
  | case2 => cases decoded
  | case3 high low rest ih =>
    simp only [hexPairs, bind_eq_bind, bind_eq_some_iff, Option.pure_def,
      some.injEq] at decoded
    obtain ⟨first, highValue, second, lowValue, _, pairs, rfl⟩ := decoded
    obtain ⟨_, firstDigit⟩ := hexDigit_of_hexValue highValue
    obtain ⟨_, secondDigit⟩ := hexDigit_of_hexValue lowValue
    have whole : (UInt8.ofNat (16 * first + second)).toNat = 16 * first + second := by
      rw [UInt8.toNat_ofNat', Nat.mod_eq_of_lt]
      omega
    have quotient : (16 * first + second) / 16 % 16 = first := by omega
    have remainder : (16 * first + second) % 16 = second := by omega
    rw [flatMap_cons, ih pairs]
    simp only [whole, hexDigits, quotient, remainder, firstDigit, secondDigit, nil_append,
      cons_append, map_cons]

/-- Every byte takes two digits. -/
theorem length_of_hexPairs {chars : List Char} (decoded : hexPairs chars = some bytes) :
    chars.length = 2 * bytes.length := by
  have written := @hexEncode_of_hexDecode bytes (.ofList chars)
    (by rwa [hexDecode, String.toList_ofList])
  have lower : (String.ofList chars).toLower.length = chars.length :=
    String.length_map.trans String.length_ofList
  rw [← length_hexEncode, written, lower]

/-- The value of a digit of the URL alphabet. -/
def base64Value (char : Char) : Option Nat :=
  if 'A' ≤ char ∧ char ≤ 'Z' then some (char.toNat - 65)
  else if 'a' ≤ char ∧ char ≤ 'z' then some (char.toNat - 71)
  else if '0' ≤ char ∧ char ≤ '9' then some (char.toNat + 4)
  else if char = '-' then some 62
  else if char = '_' then some 63
  else none

/-- Four digits make three bytes; a last group may be two or three digits long. -/
def base64Groups : List Nat → Option Bytes
  | [] => some []
  | [_] => none
  | [first, second] => some [UInt8.ofNat (4 * first + second / 16)]
  | [first, second, third] =>
    some [UInt8.ofNat (4 * first + second / 16), UInt8.ofNat (16 * second + third / 4)]
  | first :: second :: third :: fourth :: rest =>
    (base64Groups rest).map fun bytes =>
      UInt8.ofNat (4 * first + second / 16) :: UInt8.ofNat (16 * second + third / 4) ::
        UInt8.ofNat (64 * third + fourth) :: bytes

/-- `base64.RawURLEncoding.DecodeString`; line breaks are skipped. -/
def base64Decode (text : String) : Option Bytes :=
  ((text.toList.filter fun char => char ≠ '\r' ∧ char ≠ '\n').mapM base64Value).bind base64Groups

/-- The digit of the URL alphabet with a value. -/
def base64Digit (value : Nat) : Char :=
  if value < 26 then Char.ofNat (value + 65)
  else if value < 52 then Char.ofNat (value + 71)
  else if value < 62 then Char.ofNat (value - 4)
  else if value = 62 then '-'
  else '_'

/-- Three bytes make four digits; one or two at the end make two or three. -/
def base64Digits : Bytes → List Nat
  | [] => []
  | [first] => [first.toNat / 4, first.toNat % 4 * 16]
  | [first, second] =>
    [first.toNat / 4, first.toNat % 4 * 16 + second.toNat / 16, second.toNat % 16 * 4]
  | first :: second :: third :: rest =>
    first.toNat / 4 :: (first.toNat % 4 * 16 + second.toNat / 16) ::
      (second.toNat % 16 * 4 + third.toNat / 64) :: third.toNat % 64 :: base64Digits rest

/-- `base64.RawURLEncoding.EncodeToString`. -/
def base64Encode (bytes : Bytes) : String := .ofList ((base64Digits bytes).map base64Digit)

/-- The value of a digit of the standard alphabet. -/
def base64StdValue (char : Char) : Option Nat :=
  if char = '+' then some 62
  else if char = '/' then some 63
  else if char = '-' ∨ char = '_' then none
  else base64Value char

/-- `base64.StdEncoding.DecodeString`: the padding fills the last group of four. -/
def base64StdDecode (text : String) : Option Bytes :=
  let chars := text.toList.filter fun char => char ≠ '\r' ∧ char ≠ '\n'
  let digits := chars.takeWhile fun char => char ≠ '='
  if chars = digits ++ replicate ((4 - digits.length % 4) % 4) '=' then
    (digits.mapM base64StdValue).bind base64Groups
  else none

/-- The digit of the standard alphabet with a value. -/
def base64StdDigit (value : Nat) : Char :=
  if value = 62 then '+' else if value = 63 then '/' else base64Digit value

/-- `base64.StdEncoding.EncodeToString`. -/
def base64StdEncode (bytes : Bytes) : String :=
  let digits := (base64Digits bytes).map base64StdDigit
  .ofList (digits ++ replicate ((4 - digits.length % 4) % 4) '=')

theorem base64Value_base64Digit (small : value < 64) :
    base64Value (base64Digit value) = some value := by
  have every : ∀ value < 64, base64Value (base64Digit value) = some value := by decide
  exact every value small

theorem base64Digits_lt (member : value ∈ base64Digits bytes) : value < 64 := by
  fun_induction base64Digits bytes with
  | case1 => cases member
  | case2 first =>
    have byte := first.toNat_lt
    simp only [mem_cons, not_mem_nil, or_false] at member
    omega
  | case3 first second =>
    have byte := first.toNat_lt
    have next := second.toNat_lt
    simp only [mem_cons, not_mem_nil, or_false] at member
    omega
  | case4 first second third rest ih =>
    have byte := first.toNat_lt
    have next := second.toNat_lt
    have last := third.toNat_lt
    by_cases later : value ∈ base64Digits rest
    · exact ih later
    · simp only [mem_cons, later, or_false] at member
      omega

theorem base64Groups_base64Digits (bytes : Bytes) :
    base64Groups (base64Digits bytes) = some bytes := by
  have same {value : Nat} {byte : UInt8} (equal : value % 256 = byte.toNat) :
      UInt8.ofNat value = byte := by
    apply UInt8.toNat_inj.mp
    rw [UInt8.toNat_ofNat', ← equal]
  have head (byte : UInt8) (low : Nat) (small : low < 16) :
      UInt8.ofNat (4 * (byte.toNat / 4) + (byte.toNat % 4 * 16 + low) / 16) = byte := by
    have := byte.toNat_lt
    exact same (by omega)
  have middle (byte : UInt8) (high low : Nat) (small : low < 4) :
      UInt8.ofNat (16 * (high * 16 + byte.toNat / 16) + (byte.toNat % 16 * 4 + low) / 4) =
        byte := by
    have := byte.toNat_lt
    exact same (by omega)
  have tail (byte : UInt8) (high : Nat) :
      UInt8.ofNat (64 * (high * 4 + byte.toNat / 64) + byte.toNat % 64) = byte := by
    have := byte.toNat_lt
    exact same (by omega)
  fun_induction base64Digits bytes with
  | case1 => rfl
  | case2 first => exact congrArg (fun byte => some [byte]) (head first 0 (by decide))
  | case3 first second =>
    have next := second.toNat_lt
    have last := middle second (first.toNat % 4) 0 (by decide)
    rw [Nat.add_zero] at last
    rw [base64Groups, head first _ (by omega), last]
  | case4 first second third rest ih =>
    have next := second.toNat_lt
    have last := third.toNat_lt
    rw [base64Groups, ih, map_some, head first _ (by omega), middle second _ _ (by omega),
      tail]

/-- What is written in base64 is in the alphabet. -/
theorem base64Value_of_mem_base64Encode (member : char ∈ (base64Encode bytes).toList) :
    ∃ value, value < 64 ∧ char = base64Digit value := by
  rw [base64Encode, String.toList_ofList] at member
  obtain ⟨value, digit, rfl⟩ := mem_map.mp member
  exact ⟨value, base64Digits_lt digit, rfl⟩

/-- Some bytes have some text. -/
theorem base64Encode_ne_nil (nonempty : bytes ≠ []) : (base64Encode bytes).toList ≠ [] := by
  rw [base64Encode, String.toList_ofList]
  fun_cases base64Digits bytes
  · exact absurd rfl nonempty
  all_goals simp

/-- Bytes are read back. -/
theorem base64Decode_base64Encode (bytes : Bytes) :
    base64Decode (base64Encode bytes) = some bytes := by
  have unbroken : ∀ value < 64, base64Digit value ≠ '\r' ∧ base64Digit value ≠ '\n' := by decide
  have kept : (base64Encode bytes).toList.filter (fun char => char ≠ '\r' ∧ char ≠ '\n') =
      (base64Encode bytes).toList := by
    apply filter_eq_self.mpr
    intro char member
    obtain ⟨value, small, rfl⟩ := base64Value_of_mem_base64Encode member
    exact decide_eq_true (unbroken value small)
  have read : ((base64Digits bytes).map base64Digit).mapM base64Value =
      some (base64Digits bytes) := by
    have small : ∀ value ∈ base64Digits bytes, value < 64 := fun _ => base64Digits_lt
    revert small
    induction base64Digits bytes with
    | nil => exact fun _ => rfl
    | cons value values ih =>
      intro small
      have tail := ih fun value member => small value (.tail _ member)
      rw [map_cons, mapM_cons, base64Value_base64Digit (small value (.head _)), tail]
      rfl
  rw [base64Decode, kept, base64Encode, String.toList_ofList, read]
  exact base64Groups_base64Digits bytes

/-- A character outside the alphabet spoils a text, line breaks apart. -/
theorem base64Decode_eq_none (member : char ∈ text.toList) (visible : char ≠ '\r' ∧ char ≠ '\n')
    (foreign : base64Value char = none) : base64Decode text = none := by
  have kept : char ∈ text.toList.filter (fun char => char ≠ '\r' ∧ char ≠ '\n') :=
    mem_filter.mpr ⟨member, decide_eq_true visible⟩
  unfold base64Decode
  generalize text.toList.filter (fun char => char ≠ '\r' ∧ char ≠ '\n') = chars at kept
  have spoilt : chars.mapM base64Value = none := by
    induction chars with
    | nil => cases kept
    | cons head rest ih =>
      rw [mapM_cons]
      rcases mem_cons.mp kept with rfl | later
      · rw [foreign]
        rfl
      · rw [ih later]
        cases base64Value head <;> rfl
  rw [spoilt]
  rfl

/-- The loop behind `ByteArray.toList` collects the bytes in their order. -/
theorem toList_loop (bytes : ByteArray) (index : Nat) (found : Bytes) :
    ByteArray.toList.loop bytes index found = found.reverse ++ bytes.data.toList.drop index := by
  fun_induction ByteArray.toList.loop bytes index found with
  | case1 index found more ih =>
    have inside : index < bytes.data.toList.length := more
    have byte : bytes.get! index = bytes.data.toList.get ⟨index, inside⟩ :=
      getElem!_pos bytes.data index more
    rw [ih, reverse_cons, append_assoc, singleton_append, byte, drop_eq_getElem_cons inside]
    rfl
  | case2 index found done =>
    have outside : bytes.data.toList.length ≤ index := Nat.not_lt.mp done
    rw [drop_eq_nil_of_le outside, append_nil]

/-- A text is its bytes. -/
theorem utf8_inj {other : String} : text.toUTF8.toList = other.toUTF8.toList ↔ text = other := by
  constructor
  · intro same
    rw [ByteArray.toList, ByteArray.toList, toList_loop, toList_loop] at same
    exact String.toByteArray_inj.mp (ByteArray.ext (Array.toList_inj.mp same))
  · rintro rfl
    rfl

end Text

end Bacchus
