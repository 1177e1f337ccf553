import Mathlib.Data.List.Basic

/-!
# Words as bytes

The bytes of a word in either order. A word is determined by its bytes, and a mask may be
applied to the word or to its bytes.
-/

namespace Bacchus

open List

namespace Word

variable {count : Nat}

/-- The bytes of a word, the highest first. -/
def bigEndian (count : Nat) (word : BitVec (8 * count)) : List UInt8 :=
  (range count).map fun index => .ofBitVec (word.extractLsb' (8 * (count - 1 - index)) 8)

/-- As many bytes as asked for. -/
@[simp] theorem length_bigEndian (word : BitVec (8 * count)) :
    (bigEndian count word).length = count := by
  simp [bigEndian]

/-- The bytes determine the word. -/
theorem bigEndian_injective : Function.Injective (bigEndian count) := by
  intro left right same
  apply BitVec.eq_of_getLsbD_eq
  intro bit inside
  -- The bit stands in the byte that is as far from the end as the bit's place says.
  let index := count - 1 - bit / 8
  have placed : count - 1 - index = bit / 8 := by omega
  have bytes : left.extractLsb' (8 * (bit / 8)) 8 = right.extractLsb' (8 * (bit / 8)) 8 := by
    have every := map_inj_left.mp same index (mem_range.mpr (by omega))
    rw [placed] at every
    exact UInt8.ofBitVec.inj every
  have bits := congrArg (fun byte : BitVec 8 => byte.getLsbD (bit % 8)) bytes
  have low : bit % 8 < 8 := Nat.mod_lt _ (by decide)
  simpa only [BitVec.getLsbD_extractLsb', low, decide_true, Bool.true_and, Nat.div_add_mod]
    using bits

/-- Equal bytes, equal words. -/
theorem bigEndian_inj {left right : BitVec (8 * count)} :
    bigEndian count left = bigEndian count right ↔ left = right :=
  bigEndian_injective.eq_iff

/-- Masking byte by byte is masking the word. -/
theorem zipWith_and_bigEndian (left right : BitVec (8 * count)) :
    zipWith (· &&& ·) (bigEndian count left) (bigEndian count right) =
      bigEndian count (left &&& right) := by
  simp only [bigEndian, zipWith_map, zipWith_self, BitVec.extractLsb'_and]
  rfl

end Word

/-- The order in which a machine keeps the bytes of a word. -/
inductive ByteOrder where
  | big | little

/-- The bytes of a word in an order. -/
def ByteOrder.bytes (order : ByteOrder) (count : Nat) (word : BitVec (8 * count)) : List UInt8 :=
  match order with
  | .big => Word.bigEndian count word
  | .little => (Word.bigEndian count word).reverse

/-- As many bytes in either order. -/
@[simp] theorem ByteOrder.length_bytes (order : ByteOrder) {count : Nat}
    (word : BitVec (8 * count)) : (order.bytes count word).length = count := by
  cases order <;> simp [ByteOrder.bytes]

/-- Equal bytes, equal words, in either order. -/
theorem ByteOrder.bytes_inj (order : ByteOrder) {count : Nat} {left right : BitVec (8 * count)} :
    order.bytes count left = order.bytes count right ↔ left = right := by
  cases order with
  | big => exact Word.bigEndian_inj
  | little => exact reverse_inj.trans Word.bigEndian_inj

/-- Zeros change nothing. -/
theorem zipWith_xor_zero (bytes : List UInt8) :
    zipWith (· ^^^ ·) bytes (replicate bytes.length 0) = bytes := by
  induction bytes with
  | nil => rfl
  | cons byte bytes ih =>
    simp only [length_cons, replicate_succ, zipWith_cons_cons, UInt8.xor_zero, ih]

end Bacchus
