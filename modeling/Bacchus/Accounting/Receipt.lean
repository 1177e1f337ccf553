import Bacchus.Semantics.Framing
import Bacchus.Text.Hex

/-!
# What is signed of a receipt

`core/accounting`: an exit and a client sign the claim of an interval, and the client signs it
once more for the coordinator, with a bit of its own. A Go string is any bytes.
-/

namespace Bacchus.Accounting

open Framing

/-- The fields of a `Receipt` that both sides sign. -/
@[ext] structure Claim where
  sessionID : Bytes
  seq : UInt64
  intervalSec : UInt32
  bytes : UInt64
  exitID : Bytes
deriving DecidableEq

/-- A receipt, with the one bit the client alone asserts. -/
@[ext] structure Receipt extends Claim where
  saturated : Bool
deriving DecidableEq

/-- `canonical`. The two lengths are cut to 32 bits. -/
def Claim.canonical (claim : Claim) : Bytes :=
  fixed 4 claim.sessionID.length ++ (claim.sessionID ++
    (fixed 8 claim.seq.toNat ++ (fixed 4 claim.intervalSec.toNat ++
      (fixed 8 claim.bytes.toNat ++
        (fixed 4 claim.exitID.length ++ claim.exitID)))))

def capacityReportDomain : Bytes := "bacchus-capacity-report\x00".toUTF8.toList

def Receipt.reportCanonical (receipt : Receipt) : Bytes :=
  capacityReportDomain ++ (receipt.canonical ++ [if receipt.saturated then 1 else 0])

/-- A session id whose length does not read as the text `bacc`. -/
def Claim.Short (claim : Claim) : Prop := claim.sessionID.length < 0x62616363

variable {claim other : Claim}

/-- Its length prefix holds it. -/
theorem Claim.Short.lt (short : claim.Short) : claim.sessionID.length < 2 ^ 32 :=
  Nat.lt_trans short (by decide)

/-- The bytes tell claims apart. The exit's id is last, so nothing is lost with its length. -/
theorem canonical_inj (short : claim.sessionID.length < 2 ^ 32)
    (short' : other.sessionID.length < 2 ^ 32) :
    claim.canonical = other.canonical ↔ claim = other := by
  constructor
  · intro same
    obtain ⟨sessions, rest⟩ := (prefixed_append_inj (by omega) (by omega)).mp same
    obtain ⟨seqs, rest⟩ := fixed_append_inj.mp rest
    obtain ⟨intervals, rest⟩ := fixed_append_inj.mp rest
    obtain ⟨counts, rest⟩ := fixed_append_inj.mp rest
    obtain ⟨-, exits⟩ := fixed_append_inj.mp rest
    have wide : ∀ number : UInt64, number.toNat % 256 ^ 8 = number.toNat :=
      fun number => Nat.mod_eq_of_lt number.toNat_lt
    have narrow : ∀ number : UInt32, number.toNat % 256 ^ 4 = number.toNat :=
      fun number => Nat.mod_eq_of_lt number.toNat_lt
    rw [wide, wide] at seqs counts
    rw [narrow, narrow] at intervals
    exact Claim.ext sessions (UInt64.toNat_inj.mp seqs) (UInt32.toNat_inj.mp intervals)
      (UInt64.toNat_inj.mp counts) exits
  · rintro rfl
    rfl

/-- The signed bytes of a report determine the receipt. -/
theorem reportCanonical_inj {receipt another : Receipt} (short : receipt.sessionID.length < 2 ^ 32)
    (short' : another.sessionID.length < 2 ^ 32) :
    receipt.reportCanonical = another.reportCanonical ↔ receipt = another := by
  constructor
  · intro same
    obtain ⟨claims, bits⟩ := List.append_inj' (List.append_cancel_left same) rfl
    have bit : ∀ left right : Bool,
        ([if left then 1 else 0] : Bytes) = [if right then 1 else 0] → left = right := by
      decide
    have claim := (canonical_inj short short').mp claims
    exact Receipt.ext (congrArg Claim.sessionID claim) (congrArg Claim.seq claim)
      (congrArg Claim.intervalSec claim) (congrArg Claim.bytes claim) (congrArg Claim.exitID claim)
      (bit _ _ bits)
  · rintro rfl
    rfl

/-- A claim of a short session starts below any text starting with `bacc`. -/
theorem canonical_ne_of_bacc (short : claim.Short) {text : Bytes}
    (starts : text.take 4 = [0x62, 0x61, 0x63, 0x63]) : claim.canonical ≠ text := by
  rintro rfl
  have front : claim.canonical.take 4 = fixed 4 claim.sessionID.length := by
    unfold Claim.canonical
    rw [List.take_left' (length_fixed _ _)]
  have number : fixed 4 claim.sessionID.length = fixed 4 0x62616363 := by
    rw [← front, starts]
    decide
  have length := fixed_inj.mp number
  have below : claim.sessionID.length < 0x62616363 := short
  omega

/-- No report is a claim of a short session. -/
theorem canonical_ne_reportCanonical (short : claim.Short) (receipt : Receipt) :
    claim.canonical ≠ receipt.reportCanonical := by
  apply canonical_ne_of_bacc short
  have domain : capacityReportDomain.take 4 = [0x62, 0x61, 0x63, 0x63] := by
    decide +kernel
  have long : 4 ≤ capacityReportDomain.length := by
    decide +kernel
  rw [Receipt.reportCanonical, List.take_append_of_le_length long, domain]

end Bacchus.Accounting
