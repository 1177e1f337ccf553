import Bacchus.Coordinator.Challenges
import Bacchus.Semantics.Machine

/-!
# What the store of challenges answers over a run

The operations of `challengeStore` in any order and at any times, with a log of the values issued
and returned. An issued value is that of one call of `issue`: two could draw the same bytes.
-/

namespace Bacchus.Coordinator

open List

open Admission (Time)

/-- A value that was issued. -/
structure IssuedValue where
  value : Bytes
  issuedAt : Time

/-- A value `spend` returned, and the connect nonce it was returned for. -/
structure ReturnedValue where
  issue : Nat
  value : Bytes
  nonce : String
  returnedAt : Time

/-- The store, the values issued in order, and those returned in any. -/
structure ChallengeLedger where
  store : ChallengeStore
  issued : List IssuedValue := []
  returned : List ReturnedValue := []

inductive ChallengeOp where
  | issue (drawn : Option Bytes) (key : UDPAddr) (cred issuerCert : String) (now : Time)
  | spend (key : UDPAddr) (nonce : String) (now : Time)
  | drop (key : UDPAddr)
  | sweep (now : Time)

namespace ChallengeLedger

/-- One operation on the store. -/
def perform (ledger : ChallengeLedger) : ChallengeOp → ChallengeLedger
  | .issue drawn key cred issuerCert now =>
    let (store, outcome) := ledger.store.issue drawn key cred issuerCert now
    { ledger with store, issued := ledger.issued ++ (outcome.map (⟨·, now⟩)).toList }
  | .spend key nonce now =>
    let (store, outcome) := ledger.store.spend key nonce now
    { ledger with
      store
      returned := (outcome.map fun entry => ⟨entry.issue, entry.value, nonce, now⟩).toList ++
        ledger.returned }
  | .drop key => { ledger with store := ledger.store.drop key }
  | .sweep now => { ledger with store := ledger.store.sweep now }

end ChallengeLedger

/-- Runs of the store from an empty one. -/
def challengeOps : Machine ChallengeLedger ChallengeOp where
  initial ledger :=
    ledger.store.entries = ∅ ∧ ledger.store.issued = 0 ∧ ledger.issued = [] ∧ ledger.returned = []
  step ledger op := some (ledger.perform op)

/-- The log accounts for the entries held and the values returned. -/
structure Accountable (ledger : ChallengeLedger) : Prop where
  counted : ledger.issued.length = ledger.store.issued
  /-- An entry holds the value of its issue and expires with it. -/
  recorded : ∀ {key entry}, ledger.store.entries.lookup key = some entry →
    ∃ issued, ledger.issued[entry.issue]? = some issued ∧ issued.value = entry.value ∧
      entry.expires = issued.issuedAt + deviceChallengeTTL
  apart : ∀ {key other entry found}, ledger.store.entries.lookup key = some entry →
    ledger.store.entries.lookup other = some found → entry.issue = found.issue → key = other
  fresh : ∀ returned ∈ ledger.returned, ∃ issued, ledger.issued[returned.issue]? = some issued ∧
    issued.value = returned.value ∧ returned.returnedAt < issued.issuedAt + deviceChallengeTTL
  /-- An entry whose value was returned is bound to the nonce it was returned for. -/
  bound : ∀ returned ∈ ledger.returned, ∀ {key entry},
    ledger.store.entries.lookup key = some entry → entry.issue = returned.issue →
      entry.spent ∧ entry.spentBy = returned.nonce
  once : ∀ first ∈ ledger.returned, ∀ second ∈ ledger.returned,
    first.issue = second.issue → first.nonce = second.nonce
  roomy : ledger.store.entries.entries.length ≤ ledger.store.cap

namespace Accountable

variable {ledger : ChallengeLedger} (holds : Accountable ledger)

include holds

theorem issue_lt {key : UDPAddr} {entry : PendingChallenge}
    (held : ledger.store.entries.lookup key = some entry) : entry.issue < ledger.store.issued := by
  obtain ⟨issued, found, -⟩ := holds.recorded held
  rw [← holds.counted]
  exact (List.getElem?_eq_some_iff.mp found).1

theorem returned_lt {returned : ReturnedValue}
    (member : returned ∈ ledger.returned) : returned.issue < ledger.store.issued := by
  obtain ⟨issued, found, -⟩ := holds.fresh returned member
  rw [← holds.counted]
  exact (List.getElem?_eq_some_iff.mp found).1

theorem thin {store : ChallengeStore}
    (thins : ledger.store.Thins store) : Accountable { ledger with store } where
  counted := holds.counted.trans thins.issued.symm
  recorded held := holds.recorded (thins.held held)
  apart held found := holds.apart (thins.held held) (thins.held found)
  fresh := holds.fresh
  bound returned member _ _ held := holds.bound returned member (thins.held held)
  once := holds.once
  roomy := by
    have cap : store.cap = ledger.store.cap := by
      unfold ChallengeStore.cap
      rw [thins.capacity]
    exact cap ▸ thins.length.trans holds.roomy

theorem put (key : UDPAddr) (value : Bytes) (cred issuerCert : String)
    (now : Time) (room : (ledger.store.entries.lookup key).isSome ∨
      ledger.store.entries.entries.length < ledger.store.cap) :
    Accountable { ledger with
      store := ledger.store.put key value cred issuerCert now
      issued := ledger.issued ++ [⟨value, now⟩] } where
  counted := by
    rw [length_append, holds.counted]
    rfl
  recorded held := by
    rcases Table.lookup_insert_eq_some.mp held with ⟨-, rfl⟩ | ⟨-, was⟩
    · exact ⟨⟨value, now⟩, by simp [← holds.counted], rfl, rfl⟩
    · obtain ⟨issued, found, same⟩ := holds.recorded was
      exact ⟨issued, (getElem?_append_left (holds.counted ▸ holds.issue_lt was)).trans found, same⟩
  apart held found same := by
    rcases Table.lookup_insert_eq_some.mp held with ⟨rfl, rfl⟩ | ⟨-, was⟩ <;>
      rcases Table.lookup_insert_eq_some.mp found with ⟨rfl, rfl⟩ | ⟨-, other⟩
    · rfl
    · exact absurd same.symm (Nat.ne_of_lt (holds.issue_lt other))
    · exact absurd same (Nat.ne_of_lt (holds.issue_lt was))
    · exact holds.apart was other same
  fresh returned member := by
    obtain ⟨issued, found, same⟩ := holds.fresh returned member
    have inside := holds.counted ▸ holds.returned_lt member
    exact ⟨issued, (getElem?_append_left inside).trans found, same⟩
  bound returned member _ _ held same := by
    rcases Table.lookup_insert_eq_some.mp held with ⟨-, rfl⟩ | ⟨-, was⟩
    · exact absurd same.symm (Nat.ne_of_lt (holds.returned_lt member))
    · exact holds.bound returned member was same
  once := holds.once
  roomy := by
    change (ledger.store.entries.insert key _).entries.length ≤ ledger.store.cap
    rcases room with held | free
    · rw [Table.length_insert_of_isSome _ held]
      exact holds.roomy
    · exact (Table.length_insert_le _ _ _).trans free

theorem bind {store : ChallengeStore} {key : UDPAddr} {nonce : String} {now : Time}
    {earlier : PendingChallenge}
    (binds : ledger.store.Binds store key nonce now earlier) :
    Accountable { ledger with
      store
      returned := ⟨earlier.issue, earlier.value, nonce, now⟩ :: ledger.returned } := by
  obtain ⟨was, unexpired⟩ := ChallengeStore.lookup_of_live binds.live
  -- What is held now was held before, up to the nonce it is bound to.
  have origin : ∀ {other entry}, store.entries.lookup other = some entry →
      ∃ before, ledger.store.entries.lookup other = some before ∧ before.issue = entry.issue ∧
        before.value = entry.value ∧ before.expires = entry.expires := by
    intro other entry held
    by_cases same : other = key
    · subst same
      obtain rfl := Option.some.inj (binds.held.symm.trans held)
      exact ⟨earlier, was, rfl, rfl, rfl⟩
    · exact ⟨entry, binds.others other same ▸ held, rfl, rfl, rfl⟩
  have paidBefore : ∀ returned ∈ ledger.returned, returned.issue = earlier.issue →
      returned.nonce = nonce := by
    intro returned member same
    obtain ⟨spent, spentBy⟩ := holds.bound returned member was same.symm
    exact spentBy.symm.trans (binds.free spent)
  refine ⟨holds.counted.trans binds.issued.symm, ?_, ?_, ?_, ?_, ?_, ?_⟩
  · intro other entry held
    obtain ⟨before, found, issue, value, expires⟩ := origin held
    rw [← issue, ← value, ← expires]
    exact holds.recorded found
  · intro other another entry found held heldToo same
    obtain ⟨first, wasFirst, issueFirst, -⟩ := origin held
    obtain ⟨second, wasSecond, issueSecond, -⟩ := origin heldToo
    exact holds.apart wasFirst wasSecond (issueFirst.trans (same.trans issueSecond.symm))
  · intro returned member
    rcases mem_cons.mp member with rfl | before
    · obtain ⟨issued, found, value, expires⟩ := holds.recorded was
      exact ⟨issued, found, value, expires ▸ unexpired⟩
    · exact holds.fresh returned before
  · intro returned member other entry held same
    by_cases here : other = key
    · subst here
      obtain rfl := Option.some.inj (binds.held.symm.trans held)
      rcases mem_cons.mp member with rfl | before
      · exact ⟨rfl, rfl⟩
      · exact ⟨rfl, (paidBefore returned before same.symm).symm⟩
    · rw [binds.others other here] at held
      rcases mem_cons.mp member with rfl | before
      · exact absurd (holds.apart held was same) here
      · exact holds.bound returned before held same
  · intro first memberFirst second memberSecond same
    rcases mem_cons.mp memberFirst with rfl | first' <;>
      rcases mem_cons.mp memberSecond with rfl | second'
    · rfl
    · exact (paidBefore second second' same.symm).symm
    · exact paidBefore first first' same
    · exact holds.once first first' second second' same
  · have cap : store.cap = ledger.store.cap := by
      unfold ChallengeStore.cap
      rw [binds.capacity]
    exact cap ▸ binds.length ▸ holds.roomy

theorem perform (op : ChallengeOp) : Accountable (ledger.perform op) := by
  cases op with
  | issue drawn key cred issuerCert now =>
    obtain ⟨_, thins, -, same | ⟨value, put, room⟩⟩ :=
      ledger.store.issue_step drawn key cred issuerCert now
    · simp only [ChallengeLedger.perform, same]
      simpa using holds.thin thins
    · simp only [ChallengeLedger.perform, put]
      exact (holds.thin thins).put key value cred issuerCert now room
  | spend key nonce now =>
    rcases paid : ledger.store.spend key nonce now with ⟨store, outcome⟩
    simp only [ChallengeLedger.perform, paid]
    rcases ChallengeStore.binds_spend paid with ⟨rfl, rfl⟩ | ⟨earlier, rfl, binds⟩
    · exact holds
    · have bound := holds.bind binds
      exact bound
  | drop key => exact holds.thin (ledger.store.thins_drop key)
  | sweep now => exact holds.thin (ledger.store.thins_sweep now)

end Accountable

theorem accountable_initial {ledger : ChallengeLedger} (initial : challengeOps.initial ledger) :
    Accountable ledger := by
  obtain ⟨⟨_, _, _, _⟩, _, _⟩ := ledger
  obtain ⟨rfl, rfl, rfl, rfl⟩ := initial
  exact ⟨rfl, nofun, nofun, nofun, nofun, nofun, Nat.zero_le _⟩

/-- Whatever is done to the store and whenever: a value issued is returned for one connect nonce at
most and only before it expires, the entries are within the cap, and issuing for one key leaves
every other unexpired entry. -/
theorem challenges_single_use {ops : List ChallengeOp} {ledger : ChallengeLedger}
    (runs : challengeOps.Runs Machine.free ops ledger) :
    (∀ first ∈ ledger.returned, ∀ second ∈ ledger.returned,
      first.issue = second.issue → first.nonce = second.nonce) ∧
    (∀ returned ∈ ledger.returned, ∃ issued, ledger.issued[returned.issue]? = some issued ∧
      issued.value = returned.value ∧ returned.returnedAt < issued.issuedAt + deviceChallengeTTL) ∧
    ledger.store.entries.entries.length ≤ ledger.store.cap ∧
    ∀ drawn key cred issuerCert now other entry, other ≠ key →
      ledger.store.entries.lookup other = some entry → now < entry.expires →
        (ledger.store.issue drawn key cred issuerCert now).1.entries.lookup other = some entry := by
  have holds : Accountable ledger := by
    apply runs.invariant accountable_initial
    rintro ledger op next holds - transition
    cases transition
    exact holds.perform op
  refine ⟨holds.once, holds.fresh, holds.roomy, ?_⟩
  intro drawn key cred issuerCert now other entry different held unexpired
  obtain ⟨_, -, live, same | ⟨value, put, -⟩⟩ :=
    ledger.store.issue_step drawn key cred issuerCert now
  · rw [same]
    exact live held unexpired
  · rw [put]
    exact (AList.lookup_insert_ne different).trans (live held unexpired)

def firstClient : UDPAddr := ⟨.v4 0xCB007101, 4000⟩

def secondClient : UDPAddr := ⟨.v4 0xCB007102, 4000⟩

/-- One challenge is spent by a request and its copy, and another request gets nothing for it; the
store is then full until that challenge expires. -/
def contested : List ChallengeOp :=
  [.issue (some [7]) firstClient "" "" 0, .spend firstClient "a" 1, .spend firstClient "a" 2,
    .spend firstClient "b" 3, .issue (some [8]) secondClient "" "" (10 ^ 9),
    .spend secondClient "c" (10 ^ 9), .issue (some [9]) secondClient "" "" (200 * 10 ^ 9),
    .spend secondClient "c" (201 * 10 ^ 9)]

/-- Two challenges, one of them asked for twice. -/
theorem contested_single_use :
    ∃ ledger : ChallengeLedger, challengeOps.Runs Machine.free contested ledger ∧
      ledger.returned.map (fun returned => (returned.issue, returned.value, returned.nonce)) =
        [(1, [9], "c"), (0, [7], "a"), (0, [7], "a")] ∧
      (∀ first ∈ ledger.returned, ∀ second ∈ ledger.returned,
        first.issue = second.issue → first.nonce = second.nonce) ∧
      ledger.store.entries.entries.length ≤ ledger.store.cap := by
  have valid : challengeOps.initial { store := { capacity := 1, lastSweep := 0 } } :=
    ⟨rfl, rfl, rfl, rfl⟩
  obtain ⟨ledger, runs, returned⟩ : ∃ ledger, challengeOps.Runs Machine.free contested ledger ∧
      ledger.returned.map (fun returned => (returned.issue, returned.value, returned.nonce)) =
        [(1, [9], "c"), (0, [7], "a"), (0, [7], "a")] :=
    Machine.exists_runs valid (Machine.meets_free _ _) (by decide +kernel)
  have holds := challenges_single_use runs
  exact ⟨ledger, runs, returned, holds.1, holds.2.2.1⟩

end Bacchus.Coordinator
