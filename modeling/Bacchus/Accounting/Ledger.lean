import Bacchus.Accounting.Receipt
import Bacchus.Delegation.Separation
import Bacchus.Semantics.Checks
import Bacchus.Semantics.Machine
import Bacchus.Semantics.Threads

/-!
# The exit's receipts for a session

`handleAcctStream` of `core`, with `ExitPropose` of `core/accounting`. The client opens a stream
for every interval, and nothing keeps it from opening several at once. `Delta` loads the count and
then swaps it in for the last one.
-/

namespace Bacchus.Accounting

/-- A `Receipt`, without the bit of the client's own. -/
structure Cosigned extends Claim where
  exitAcctPub : Bytes
  exitSig : Bytes
  clientAcctPub : Bytes
  clientSig : Bytes

structure AckMsg where
  ok : Bool
  clientAcctPub : Bytes
  clientSig : Bytes
  localBytes : UInt64

inductive AcctError where
  | exitKey | clientKey | exitSignature | clientSignature
  /-- The claim could not be sent, or no answer be read. -/
  | channel
  | mismatch (exit client : UInt64)

def Cosigned.verify (scheme : Delegation.Scheme) (receipt : Cosigned) : Except AcctError Unit :=
  if receipt.exitAcctPub.length ≠ 32 then .error .exitKey
  else if receipt.clientAcctPub.length ≠ 32 then .error .clientKey
  else if !scheme.verify receipt.exitAcctPub receipt.canonical receipt.exitSig then
    .error .exitSignature
  else if !scheme.verify receipt.clientAcctPub receipt.canonical receipt.clientSig then
    .error .clientSignature
  else .ok ()

structure AcctConfig where
  acctKey : Bytes
  exitID : Bytes
  sessionID : Bytes
  acctIntervalSec : Int

def AcctConfig.claim (cfg : AcctConfig) (seq bytes : UInt64) : Claim where
  sessionID := cfg.sessionID
  seq := seq
  intervalSec := if cfg.acctIntervalSec ≤ 0 then 60 else .ofInt cfg.acctIntervalSec
  bytes := bytes
  exitID := cfg.exitID

variable {scheme : Delegation.Scheme} (signer : Update.Signer scheme) (cfg : AcctConfig)

/-- `ExitPropose`, with what could be read of the client's answer. -/
def exitPropose (claim : Claim) : Option AckMsg → Except AcctError Cosigned
  | none => throw .channel
  | some ack => do
    if ack.ok = false then throw (.mismatch claim.bytes ack.localBytes)
    let receipt : Cosigned :=
      { claim with
        exitAcctPub := signer.publicKey cfg.acctKey
        exitSig := signer.sign cfg.acctKey claim.canonical
        clientAcctPub := ack.clientAcctPub, clientSig := ack.clientSig }
    receipt.verify scheme
    return receipt

/-- A claim of the exit's for the session that both sides have signed. -/
def Cosigned.Own (receipt : Cosigned) : Prop :=
  receipt.verify scheme = .ok () ∧ receipt.exitAcctPub = signer.publicKey cfg.acctKey ∧
    receipt.toClaim = cfg.claim receipt.seq receipt.bytes

/-- Where a stream is in `handleAcctStream`. -/
inductive AcctStage where
  /-- The two halves of `Delta`. -/
  | loading
  | swapping (now : UInt64)
  /-- The section that takes a sequence number. -/
  | numbering (delta : UInt64)
  | proposing (delta seq : UInt64)
  | ended

/-- What a stream has taken off the count and has not settled. -/
def AcctStage.claimed : AcctStage → Nat
  | .numbering delta | .proposing delta _ => delta.toNat
  | _ => 0

/-- What the exit has for the session: its counter, the next sequence number, and the receipts in
the store. -/
structure Ledger where
  total : UInt64 := 0
  last : UInt64 := 0
  acctSeq : UInt64 := 0
  streams : List AcctStage := []
  receipts : List Cosigned := []

inductive LedgerLabel where
  /-- `Add`, by a stream that carries data. -/
  | count (bytes : UInt64)
  /-- The client opens an accounting stream. -/
  | enter
  /-- It goes on, with the client's answer and whether the store takes the receipt. -/
  | proceed (index : Nat) (ack : Option AckMsg) (stored : Bool)

/-- The accounting of one session at an exit. -/
def exitLedger : Machine Ledger LedgerLabel where
  initial ledger := ledger = {}
  step ledger
    | .count bytes => some { ledger with total := ledger.total + bytes }
    | .enter =>
      if cfg.sessionID = [] then none
      else some { ledger with streams := ledger.streams ++ [.loading] }
    | .proceed index ack stored => ledger.streams[index]?.bind fun
      | .loading => some { ledger with
          streams := ledger.streams.set index (.swapping ledger.total) }
      | .swapping now => some { ledger with
          last := now, streams := ledger.streams.set index (.numbering (now - ledger.last)) }
      | .numbering delta => some { ledger with
          acctSeq := ledger.acctSeq + 1
          streams := ledger.streams.set index (.proposing delta ledger.acctSeq) }
      | .proposing delta seq => some { ledger with
          streams := ledger.streams.set index .ended
          receipts := ledger.receipts ++
            match exitPropose signer cfg (cfg.claim seq delta) ack with
            | .ok receipt => if stored then [receipt] else []
            | .error _ => [] }
      | .ended => none

namespace Ledger

/-- The count does not wrap, and calls of `Delta` swap in the order in which they load. -/
def inOrder (ledger : Ledger) : LedgerLabel → Bool
  | .count bytes => ledger.total.toNat + bytes.toNat < 2 ^ 64
  | .enter => true
  | .proceed index _ _ => ledger.streams[index]?.all fun
    | .swapping now => ledger.last ≤ now
    | _ => true

/-- The bytes there are receipts for. -/
def receipted (receipts : List Cosigned) : Nat :=
  (receipts.map fun receipt => receipt.bytes.toNat).sum

/-- With what streams have still to settle, the receipts are for no more than the last count that
was swapped in. -/
structure Balanced (ledger : Ledger) : Prop where
  own : ∀ receipt ∈ ledger.receipts, receipt.Own signer cfg
  claimed : receipted ledger.receipts + (ledger.streams.map AcctStage.claimed).sum ≤
    ledger.last.toNat
  behind : ledger.last ≤ ledger.total
  loaded : ∀ stage ∈ ledger.streams, ∀ now, stage = .swapping now → now ≤ ledger.total

variable {signer cfg} {ledger next : Ledger}

theorem exitPropose_ok {seq bytes : UInt64} {ack : Option AckMsg} {receipt : Cosigned}
    (proposed : exitPropose signer cfg (cfg.claim seq bytes) ack = .ok receipt) :
    receipt.Own signer cfg ∧ receipt.bytes = bytes := by
  cases ack with
  | none => cases proposed
  | some ack =>
    obtain ⟨-, proposed⟩ := refused_bind_eq_ok_iff.mp proposed
    obtain ⟨_, verified, kept⟩ := bind_eq_ok_iff.mp proposed
    cases kept
    exact ⟨⟨verified, rfl, rfl⟩, rfl⟩

/-- A stream takes and settles no more than the count swapped in has moved. -/
theorem Balanced.goes {index : Nat} {stage new : AcctStage} {last acctSeq : UInt64}
    {receipts more : List Cosigned} (balanced : ledger.Balanced signer cfg)
    (found : ledger.streams[index]? = some stage) (grown : receipts = ledger.receipts ++ more)
    (own : ∀ receipt ∈ more, receipt.Own signer cfg) (behind : last ≤ ledger.total)
    (taken : receipted more + new.claimed + ledger.last.toNat ≤ stage.claimed + last.toNat)
    (loaded : ∀ now, new = .swapping now → now ≤ ledger.total) :
    Balanced signer cfg
      { ledger with last, acctSeq, receipts, streams := ledger.streams.set index new } := by
  subst grown
  refine ⟨?_, ?_, behind, Threads.forall_set balanced.loaded loaded⟩
  · simpa [or_imp, forall_and] using ⟨balanced.own, own⟩
  · have claimed := balanced.claimed
    have sums := Threads.sum_set AcctStage.claimed new found
    simp only [receipted, List.map_append, List.sum_append] at *
    omega

/-- Every step keeps the account balanced. -/
theorem Balanced.step {label : LedgerLabel} (balanced : ledger.Balanced signer cfg)
    (ordered : ledger.inOrder label)
    (moves : (exitLedger signer cfg).step ledger label = some next) :
    next.Balanced signer cfg := by
  cases label with
  | count bytes =>
    cases moves
    have grown : ledger.total ≤ ledger.total + bytes := by
      have fits : ledger.total.toNat + bytes.toNat < 2 ^ 64 := of_decide_eq_true ordered
      rw [UInt64.le_iff_toNat_le, UInt64.toNat_add, Nat.mod_eq_of_lt fits]
      exact Nat.le_add_right _ _
    exact ⟨balanced.own, balanced.claimed, UInt64.le_trans balanced.behind grown,
      fun stage member now same => UInt64.le_trans (balanced.loaded stage member now same) grown⟩
  | enter =>
    simp only [exitLedger] at moves
    split_ifs at moves
    cases moves
    refine ⟨balanced.own, ?_, balanced.behind, ?_⟩
    · simpa [AcctStage.claimed] using balanced.claimed
    · simpa [or_imp, forall_and] using balanced.loaded
  | proceed index ack stored =>
    obtain ⟨stage, found, moves⟩ := Option.bind_eq_some_iff.mp moves
    have none := (List.append_nil ledger.receipts).symm
    have nothing : ∀ receipt ∈ ([] : List Cosigned), receipt.Own signer cfg := by simp
    cases stage with
    | loading =>
      cases moves
      refine balanced.goes found none nothing balanced.behind le_rfl fun now same => ?_
      cases same
      exact UInt64.le_refl _
    | swapping now =>
      cases moves
      have later : ledger.last ≤ now := by simpa [inOrder, found] using ordered
      have known := balanced.loaded _ (List.mem_of_getElem? found) now rfl
      have delta := UInt64.toNat_sub_of_le now ledger.last later
      -- what the stream takes is what the last count moves by
      refine balanced.goes found none nothing known ?_ (by rintro _ ⟨⟩)
      rw [UInt64.le_iff_toNat_le] at later
      simp only [receipted, AcctStage.claimed, List.map_nil, List.sum_nil]
      omega
    | numbering delta =>
      cases moves
      refine balanced.goes found none nothing balanced.behind ?_ (by rintro _ ⟨⟩)
      simp [receipted, AcctStage.claimed]
    | proposing delta seq =>
      cases moves
      cases proposed : exitPropose signer cfg (cfg.claim seq delta) ack with
      | error =>
        refine balanced.goes found rfl nothing balanced.behind ?_ (by rintro _ ⟨⟩)
        simp [receipted, AcctStage.claimed]
      | ok receipt =>
        obtain ⟨own, bytes⟩ := exitPropose_ok proposed
        refine balanced.goes found rfl ?_ balanced.behind ?_ (by rintro _ ⟨⟩)
        · split_ifs <;> simp [own]
        · split_ifs <;> simp [receipted, AcctStage.claimed, bytes]
    | ended => cases moves

end Ledger

/-- Whatever a client answers and however its accounting streams interleave, as long as calls of
`Delta` swap in the order in which they load: the exit's receipts are for claims of its own that
both sides have signed, and together for no more bytes than it has counted. -/
theorem receipts_within_count {labels : List LedgerLabel} {ledger : Ledger}
    (runs : (exitLedger signer cfg).Runs (·.inOrder ·) labels ledger) :
    (∀ receipt ∈ ledger.receipts, receipt.Own signer cfg) ∧
      Ledger.receipted ledger.receipts ≤ ledger.total.toNat := by
  have balanced : ledger.Balanced signer cfg := by
    refine runs.invariant (fun start => ?_) fun balanced order moves => balanced.step order moves
    subst start
    exact ⟨nofun, le_rfl, UInt64.le_refl _, nofun⟩
  refine ⟨balanced.own, ?_⟩
  have claimed := balanced.claimed
  have behind := UInt64.le_iff_toNat_le.mp balanced.behind
  omega

def metered : AcctConfig := ⟨[], [1], [2], 0⟩

/-- A stream goes on; the client signs whatever is proposed. -/
def signs (index : Nat) : LedgerLabel :=
  .proceed index (some ⟨true, .replicate 32 0, [], 0⟩) true

def meteredRun : List LedgerLabel :=
  [.count 5, .enter, signs 0, .count 3, signs 0, signs 0, signs 0]

/-- The receipts of this run add up to five bytes. -/
theorem meteredRun_receipted : ∃ ledger,
    (exitLedger Delegation.anySigner metered).Runs (·.inOrder ·) meteredRun ledger ∧
    Ledger.receipted ledger.receipts = 5 ∧
      Ledger.receipted ledger.receipts ≤ ledger.total.toNat := by
  obtain ⟨ledger, runs, five⟩ : ∃ ledger,
      (exitLedger Delegation.anySigner metered).Runs (·.inOrder ·) meteredRun ledger ∧
      Ledger.receipted ledger.receipts = 5 := by
    refine Machine.exists_runs rfl ?_ ?_ <;> decide
  exact ⟨ledger, runs, five, (receipts_within_count _ _ runs).2⟩

/-- Two streams at once: the first to load swaps last, and its receipt is for nearly as many bytes
as a counter can hold. -/
theorem overlapping_receipt : ∃ ledger, (exitLedger Delegation.anySigner metered).Runs Machine.free
      ([.count 5, .enter, .enter, signs 0, .count 3, signs 1, signs 1] ++ .replicate 3 (signs 0))
        ledger ∧
    ledger.total = 8 ∧ Ledger.receipted ledger.receipts = 2 ^ 64 - 3 :=
  Machine.exists_runs rfl (Machine.meets_free _ _) (by decide)

end Bacchus.Accounting
