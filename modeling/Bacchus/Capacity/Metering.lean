import Mathlib.Algebra.BigOperators.Fin
import Mathlib.Algebra.Order.BigOperators.Group.Finset
import Bacchus.Capacity.Quota

/-!
# Metered streams over one quota

`quotaReader.Read` checks the quota, reads, and charges what it read. The lock is not held in
between, so each read in flight may add up to its own size after the cap is spent.
-/

namespace Bacchus.Capacity

open Function

/-- How often a forwarded byte crosses the node's link. -/
def linkCrossings : Bytes := 2

def Ledger.addForwarded (ledger : Ledger) (now : Reading) (n : Bytes) : Ledger :=
  ledger.add now (n * linkCrossings)

/-- Where a stream is in `quotaReader.Read`. -/
inductive Phase where
  /-- Outside of `Read`. -/
  | idle
  /-- Past the check, in the wrapped reader. -/
  | reading
  /-- The wrapped reader returned `n` bytes, not charged yet. -/
  | returned (n : Nat)
deriving DecidableEq

structure Streams (k : Nat) where
  ledger : Ledger
  phases : Fin k → Phase

inductive StreamLabel (k : Nat) where
  /-- `Read` is called and checks the quota. -/
  | read (stream : Fin k) (now : Reading)
  /-- The wrapped reader returns. -/
  | returns (stream : Fin k) (n : Nat)
  /-- `AddForwarded` of the bytes read. -/
  | charge (stream : Fin k) (now : Reading)
  /-- Another caller of `Exhausted`, `Used` or `Remaining`. -/
  | status (now : Reading)
  | flush (now : Reading)

/-- The clock reading of a step that makes one. -/
def StreamLabel.now {k : Nat} : StreamLabel k → Option Reading
  | .read _ now | .charge _ now | .status now | .flush now => some now
  | .returns _ _ => none

/-- `k` streams whose reads return at most `size` bytes, from a quota within the bound. -/
def metered (k size : Nat) : Machine (Streams k) (StreamLabel k) where
  initial state :=
    state.ledger.quota.limit ≠ 0 ∧
      state.ledger.quota.used.toNat ≤ state.ledger.quota.limit.toNat - 1 + 2 * k * size ∧
      ∀ stream, state.phases stream = .idle
  step state
    | .read stream now =>
      match state.phases stream with
      | .idle =>
        let checked := state.ledger.exhausted now
        -- `ErrQuotaExhausted` ends the call before the wrapped reader is asked.
        if checked.1 then some { state with ledger := checked.2 }
        else some
          { ledger := checked.2
            phases := update state.phases stream .reading }
      | _ => none
    | .returns stream n =>
      match state.phases stream with
      | .reading =>
        if n ≤ size ∧ n < 2 ^ 63 then
          some { state with
            phases :=
              update state.phases stream (if 0 < n then .returned n else .idle) }
        else none
      | _ => none
    | .charge stream now =>
      match state.phases stream with
      | .returned n =>
        some
          { ledger := state.ledger.addForwarded now (.ofNat n)
            phases := update state.phases stream .idle }
      | _ => none
    | .status now => some { state with ledger := state.ledger.rollover now }
    | .flush now => some { state with ledger := (state.ledger.flush now).2 }

section

variable {k size : Nat} {state next : Streams k} {stream : Fin k} {now : Reading}

/-- A call of `Read` is refused, or the wrapped reader is asked below the cap. -/
theorem read_cases (moves : (metered k size).step state (.read stream now) = some next) :
    state.phases stream = .idle ∧ ((state.ledger.exhausted now).1 ∧
          next = { state with ledger := state.ledger.rollover now } ∨
        (state.ledger.rollover now).quota.used.toNat <
            (state.ledger.rollover now).quota.limit.toNat ∧
          next = ⟨state.ledger.rollover now, update state.phases stream .reading⟩) := by
  simp only [metered] at moves
  split at moves
  case h_2 => cases moves
  case h_1 idle =>
    refine ⟨idle, ?_⟩
    split at moves
    case isTrue spent =>
      cases moves
      exact .inl ⟨spent, rfl⟩
    case isFalse unspent =>
      cases moves
      refine .inr ⟨?_, rfl⟩
      simp only [Ledger.exhausted, decide_eq_true_eq, UInt64.not_le] at unspent
      exact UInt64.lt_iff_toNat_lt.mp unspent

theorem returns_cases {n : Nat}
    (moves : (metered k size).step state (.returns stream n) = some next) :
    state.phases stream = .reading ∧ n ≤ size ∧
      next = { state with
        phases := update state.phases stream (if 0 < n then .returned n else .idle) } := by
  simp only [metered] at moves
  split at moves
  case h_2 => cases moves
  case h_1 reading =>
    split at moves
    case isTrue fits =>
      cases moves
      exact ⟨reading, fits.1, rfl⟩
    case isFalse => cases moves

theorem charge_cases (moves : (metered k size).step state (.charge stream now) = some next) :
    ∃ n, state.phases stream = .returned n ∧
      next = ⟨state.ledger.addForwarded now (.ofNat n),
        update state.phases stream .idle⟩ := by
  simp only [metered] at moves
  split at moves
  case h_2 => cases moves
  case h_1 n returned =>
    cases moves
    exact ⟨n, returned, rfl⟩

end

/-- The most that a stream in this phase can still charge. -/
def Phase.pending (size : Nat) : Phase → Nat
  | .idle => 0
  | .reading => 2 * size
  | .returned n => 2 * n

/-- The most that all streams can still charge. -/
def Streams.pending {k : Nat} (size : Nat) (state : Streams k) : Nat :=
  ∑ stream, (state.phases stream).pending size

section

variable {k size : Nat} {state next : Streams k} {label : StreamLabel k}

/-- One stream moves on, and the others keep what they can charge. -/
theorem pending_update (phases : Fin k → Phase) (stream : Fin k) (phase : Phase) :
    (∑ other, (update phases stream phase other).pending size) +
        (phases stream).pending size =
      (∑ other, (phases other).pending size) + phase.pending size := by
  have split := Finset.sum_erase_add Finset.univ (fun other => (phases other).pending size)
    (Finset.mem_univ stream)
  have splitUpdated := Finset.sum_erase_add Finset.univ
    (fun other => (update phases stream phase other).pending size) (Finset.mem_univ stream)
  have rest : ∑ other ∈ Finset.univ.erase stream,
        (update phases stream phase other).pending size =
      ∑ other ∈ Finset.univ.erase stream, (phases other).pending size := by
    apply Finset.sum_congr rfl
    intro other member
    rw [update_of_ne (Finset.ne_of_mem_erase member)]
  rw [rest, update_self] at splitUpdated
  omega

/-- Streams that can each charge at most one full read can charge `k` of them together. -/
theorem pending_le (within : ∀ stream, (state.phases stream).pending size ≤ 2 * size) :
    state.pending size ≤ 2 * k * size := by
  have bounded := Finset.sum_le_card_nsmul Finset.univ
    (fun stream => (state.phases stream).pending size) (2 * size) (fun stream _ => within stream)
  rw [Finset.card_univ, Fintype.card_fin, smul_eq_mul] at bounded
  calc state.pending size ≤ k * (2 * size) := bounded
    _ = 2 * k * size := by rw [← Nat.mul_assoc, Nat.mul_comm k 2]

/-- `Add` counts the bytes it is given, less if the counter wraps or the cycle ends. -/
theorem Ledger.add_used_le {ledger : Ledger} {now : Reading} (n : Bytes) :
    (ledger.add now n).quota.used.toNat ≤ ledger.quota.used.toNat + n.toNat := by
  by_cases nothing : n = 0
  · rw [add, if_pos nothing]
    exact Nat.le_add_right _ _
  · have rolled : (ledger.rollover now).quota.used.toNat ≤ ledger.quota.used.toNat :=
      rollover_used_le
    obtain ⟨_, _, _, added⟩ := add_quota n nothing
    rw [added]
    change ((ledger.rollover now).quota.used + n).toNat ≤ _
    rw [UInt64.toNat_add]
    omega

theorem forwarded_le (n : Nat) : (UInt64.ofNat n * linkCrossings).toNat ≤ 2 * n := by
  rw [UInt64.toNat_mul, UInt64.toNat_ofNat']
  have doubled : linkCrossings.toNat = 2 := rfl
  rw [doubled]
  omega

/-- The usage and the bytes still to be charged stay within the bound together. -/
structure Bounded (k size : Nat) (state : Streams k) : Prop where
  declared : state.ledger.quota.limit ≠ 0
  within : ∀ stream, (state.phases stream).pending size ≤ 2 * size
  total : state.ledger.quota.used.toNat + state.pending size ≤
    state.ledger.quota.limit.toNat - 1 + 2 * k * size

theorem within_update {phases : Fin k → Phase} {phase : Phase} {stream : Fin k}
    (within : ∀ other, (phases other).pending size ≤ 2 * size)
    (small : phase.pending size ≤ 2 * size) (other : Fin k) :
    (update phases stream phase other).pending size ≤ 2 * size := by
  by_cases same : other = stream
  · rw [same, update_self]
    exact small
  · rw [update_of_ne same]
    exact within other

/-- What lowers the usage or keeps it, under the same limit, stays within the bound. -/
theorem Bounded.lower {ledger : Ledger} (bounded : Bounded k size state)
    (limit : ledger.quota.limit = state.ledger.quota.limit)
    (used : ledger.quota.used.toNat ≤ state.ledger.quota.used.toNat) :
    Bounded k size { state with ledger } := by
  constructor
  case declared =>
    rw [limit]
    exact bounded.declared
  case within => exact bounded.within
  case total =>
    have total := bounded.total
    change ledger.quota.used.toNat + state.pending size ≤
      ledger.quota.limit.toNat - 1 + 2 * k * size
    rw [limit]
    omega

/-- A stream that charges no more than it held stays within the bound. -/
theorem Bounded.move {ledger : Ledger} {stream : Fin k} {phase : Phase}
    (bounded : Bounded k size state) (limit : ledger.quota.limit = state.ledger.quota.limit)
    (small : phase.pending size ≤ 2 * size)
    (held : ledger.quota.used.toNat + phase.pending size ≤
      state.ledger.quota.used.toNat + (state.phases stream).pending size) :
    Bounded k size ⟨ledger, update state.phases stream phase⟩ := by
  constructor
  case declared =>
    rw [limit]
    exact bounded.declared
  case within => exact within_update bounded.within small
  case total =>
    have total := bounded.total
    have moved := @pending_update k size state.phases stream phase
    unfold Streams.pending at total ⊢
    dsimp only
    rw [limit]
    omega

/-- Every step keeps the overshoot bounded. -/
theorem Bounded.step (bounded : Bounded k size state)
    (moves : (metered k size).step state label = some next) : Bounded k size next := by
  cases label with
  | read stream now =>
    have rolled := bounded.lower (state.ledger.rollover_limit now) Ledger.rollover_used_le
    obtain ⟨_, ⟨_, rfl⟩ | ⟨_, rfl⟩⟩ := read_cases moves
    · exact rolled
    · have within := @within_update k size state.phases .reading stream bounded.within
        (Nat.le_refl _)
      refine ⟨rolled.declared, within, ?_⟩
      -- The check saw a usage below the cap, whatever the streams still hold.
      have most := @pending_le k size
        ⟨state.ledger.rollover now, update state.phases stream .reading⟩ within
      dsimp only at most ⊢
      omega
  | returns stream n =>
    obtain ⟨reading, small, rfl⟩ := returns_cases moves
    have less : (if 0 < n then Phase.returned n else .idle).pending size ≤ 2 * size := by
      split_ifs
      · exact Nat.mul_le_mul_left 2 small
      · exact Nat.zero_le _
    apply bounded.move rfl less
    rw [reading]
    exact Nat.add_le_add_left less _
  | charge stream now =>
    obtain ⟨n, returned, rfl⟩ := charge_cases moves
    have counted : (state.ledger.addForwarded now (.ofNat n)).quota.used.toNat ≤
        state.ledger.quota.used.toNat + (UInt64.ofNat n * linkCrossings).toNat :=
      Ledger.add_used_le _
    have doubled := forwarded_le n
    refine bounded.move (Ledger.add_limit _) (Nat.zero_le _) ?_
    rw [returned]
    change (state.ledger.addForwarded now (.ofNat n)).quota.used.toNat + 0 ≤
      state.ledger.quota.used.toNat + 2 * n
    omega
  | status now =>
    cases moves
    exact bounded.lower (state.ledger.rollover_limit now) Ledger.rollover_used_le
  | flush =>
    cases moves
    apply bounded.lower (Ledger.checkpoint_limit _ _)
    rw [Ledger.checkpoint_used]

/-- A charge fits in the counter. -/
def Fits (state : Streams k) : StreamLabel k → Prop
  | .charge stream _ => match state.phases stream with
      | .returned n => state.ledger.quota.used.toNat + 2 * n < 2 ^ 64
      | _ => True
  | _ => True

/-- The step's reading, if it makes one, does not fall in a later cycle. -/
def WithinCycle (state : Streams k) (label : StreamLabel k) : Prop :=
  ∀ now ∈ label.now, ¬ state.ledger.LaterCycle now

/-- A usage at the cap stays there while the cycle lasts and the counter holds. -/
theorem step_spent (fits : Fits state label) (within : WithinCycle state label)
    (spent : state.ledger.quota.limit ≤ state.ledger.quota.used)
    (moves : (metered k size).step state label = some next) :
    next.ledger.quota.limit ≤ next.ledger.quota.used := by
  cases label with
  | read stream now =>
    have unchanged : state.ledger.rollover now = state.ledger :=
      Ledger.rollover_same (within now rfl)
    obtain ⟨_, ⟨_, rfl⟩ | ⟨_, rfl⟩⟩ := read_cases moves
    · rw [unchanged]
      exact spent
    · rw [unchanged]
      exact spent
  | returns =>
    obtain ⟨_, _, rfl⟩ := returns_cases moves
    exact spent
  | charge stream now =>
    obtain ⟨n, returned, rfl⟩ := charge_cases moves
    simp only [Fits, returned] at fits
    have doubled := forwarded_le n
    exact Ledger.add_spent _ (within now rfl) (by omega) spent
  | status now =>
    cases moves
    rw [Ledger.rollover_same (within now rfl)]
    exact spent
  | flush =>
    cases moves
    rw [Ledger.flush, Ledger.checkpoint_limit, Ledger.checkpoint_used]
    exact spent

/-- However the streams interleave, the recorded usage passes the cap by less than one charged read
for each stream. Once it has reached the cap, no call of `Read` gets to the wrapped reader in that
cycle, as long as the charges in flight fit in the counter. -/
theorem overshoot_bounded {labels : List (StreamLabel k)}
    (runs : (metered k size).Runs Machine.free labels state) :
    state.ledger.quota.used.toNat ≤ state.ledger.quota.limit.toNat - 1 + 2 * k * size ∧
      (state.ledger.quota.limit ≤ state.ledger.quota.used →
        ∀ {more middle}, (metered k size).follow state more = some middle →
          (metered k size).Meets (fun state label => Fits state label ∧ WithinCycle state label)
            state more →
          ∀ {stream now next}, ¬ middle.ledger.LaterCycle now →
            (metered k size).step middle (.read stream now) = some next →
            next.phases stream = .idle) := by
  have bounded : Bounded k size state := by
    apply runs.invariant
    · rintro state ⟨declared, used, idle⟩
      refine ⟨declared, fun stream => ?_, ?_⟩
      · rw [idle stream]
        exact Nat.zero_le _
      · have none : state.pending size = 0 := by
          apply Finset.sum_eq_zero
          intro stream _
          rw [idle stream]
          rfl
        omega
    · intro state label next bounded _ transition
      exact bounded.step transition
  constructor
  · have total := bounded.total
    omega
  intro spent more middle followed met stream now next same transition
  have kept := @Machine.follow_related _ _ (metered k size) _ (fun _ _ => True)
    (fun state => state.ledger.quota.limit ≤ state.ledger.quota.used)
    (fun _ => trivial) (fun _ _ => trivial)
    (fun spent met transition => ⟨step_spent met.1 met.2 spent transition, trivial⟩)
    more state middle spent followed met
  obtain ⟨idle, ⟨_, rfl⟩ | ⟨below, rfl⟩⟩ := read_cases transition
  · exact idle
  · rw [Ledger.rollover_same same] at below
    have reached := UInt64.le_iff_toNat_le.mp kept.1
    omega

end

/-- Two idle streams over a quota with a checkpoint of the current cycle. -/
def resumed (limit used : Bytes) (now : Reading) : Streams 2 where
  ledger :=
    { quota := { freshQuota ⟨limit, 1⟩ "quota.json" now with used, flushedAt := used }
      file := .saved ⟨cycleStart now 1, used, limit, 1⟩ }
  phases _ := .idle

/-- Both streams pass the check, and the first one charges what it read. -/
def raced (n : Nat) (now : Reading) : List (StreamLabel 2) :=
  [.read 0 now, .read 1 now, .returns 0 n, .charge 0 now]

/-- Two reads of three bytes are in flight when the first spends a cap of six bytes. The second is
charged past it, and the next call of `Read` is refused. -/
theorem second_read_overshoots :
    ∃ state next, (metered 2 3).Runs Machine.free
        (raced 3 (midnight 2026 1 5) ++ [.returns 1 3, .charge 1 (midnight 2026 1 5)]) state ∧
      state.ledger.quota.used = 12 ∧
      state.ledger.quota.used.toNat ≤ state.ledger.quota.limit.toNat - 1 + 2 * 2 * 3 ∧
      (metered 2 3).step state (.read 0 (midnight 2026 1 5)) = some next ∧
      next.phases 0 = .idle := by
  have valid : (metered 2 3).initial (resumed 6 0 (midnight 2026 1 5)) :=
    ⟨by decide, by decide, fun _ => rfl⟩
  have runs : (metered 2 3).Runs Machine.free
      (raced 3 (midnight 2026 1 5) ++ [.returns 1 3, .charge 1 (midnight 2026 1 5)]) _ :=
    .ofFollow valid rfl (Machine.meets_free _ _)
  obtain ⟨bound, refused⟩ := overshoot_bounded runs
  have next := @refused (by decide) [] _ rfl trivial 0 (midnight 2026 1 5) _ (by decide) rfl
  exact ⟨_, _, runs, rfl, bound, rfl, next⟩

/-- A node restarted near the end of a cap of 2^64 - 2048 bytes. -/
def nearlySpent : Streams 2 :=
  resumed 18446744073709549568 18446744073709547520 (midnight 2026 1 5)

/-- Under a cap at the end of the counter's range the read in flight wraps the usage to zero, and
the next call of `Read` gets to the wrapped reader. -/
theorem wrapped_usage_reads_on :
    newQuota ⟨18446744073709549568, 1⟩ "quota.json" nearlySpent.ledger.file (midnight 2026 1 5) =
        .ok (some nearlySpent.ledger.quota) ∧
      ∃ state final,
        (metered 2 32768).follow nearlySpent (raced 1024 (midnight 2026 1 5)) = some state ∧
        (metered 2 32768).Runs Machine.free (raced 1024 (midnight 2026 1 5)) state ∧
        state.ledger.quota.limit ≤ state.ledger.quota.used ∧
        (metered 2 32768).follow state [.returns 1 1024, .charge 1 (midnight 2026 1 5),
          .read 0 (midnight 2026 1 5)] = some final ∧
        final.phases 0 = .reading ∧
        final.ledger.quota.cycleStart = state.ledger.quota.cycleStart := by
  refine ⟨rfl, ?_⟩
  have valid : (metered 2 32768).initial nearlySpent :=
    ⟨by decide, by decide, fun _ => rfl⟩
  have runs : (metered 2 32768).Runs Machine.free (raced 1024 (midnight 2026 1 5)) _ :=
    .ofFollow valid rfl (Machine.meets_free _ _)
  exact ⟨_, _, rfl, runs, by decide, rfl, rfl, rfl⟩

end Bacchus.Capacity
