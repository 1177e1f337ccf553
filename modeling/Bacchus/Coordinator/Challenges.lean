import Bacchus.Admission.Verify
import Bacchus.Coordinator.Country
import Bacchus.Semantics.Table

/-!
# The store of device challenges

`challengeStore` of `cmd/coordinator`: one outstanding challenge for each source address. A
challenge answers one request, which may arrive several times, so it is bound to the nonce that
spends it and stays.
-/

namespace Bacchus.Coordinator

open Admission (Time)

/-- How long a challenge lives. -/
def deviceChallengeTTL : Time := 2 * 60 * 10 ^ 9

/-- The shortest time between two sweeps of a full store. -/
def atCapacitySweep : Time := 10 ^ 9

def maxPendingChallenges : Nat := 65536

/-- `pendingChallenge`. The issue is no part of the code; it tells apart challenges of one value. -/
structure PendingChallenge where
  value : Bytes
  expires : Time
  cred : String
  issuerCert : String
  spent : Bool := false
  spentBy : String := ""
  issue : Nat

/-- `challengeStore`, without the latch of its log line. -/
structure ChallengeStore where
  entries : Table UDPAddr PendingChallenge := ∅
  capacity : Nat := 0
  lastSweep : Time
  /-- How many challenges have been issued, for the statements. -/
  issued : Nat := 0

namespace ChallengeStore

def cap (store : ChallengeStore) : Nat :=
  if 0 < store.capacity then store.capacity else maxPendingChallenges

/-- `sweepLocked`. -/
def sweep (store : ChallengeStore) (now : Time) : ChallengeStore :=
  { store with entries := store.entries.retain fun _ entry => now < entry.expires }

/-- The room made for a new key in a full store. -/
def makeRoom (store : ChallengeStore) (now : Time) : ChallengeStore :=
  if atCapacitySweep ≤ now - store.lastSweep then { store.sweep now with lastSweep := now }
  else store

/-- The entry of a fresh challenge replaces the one its key had. -/
def put (store : ChallengeStore) (key : UDPAddr) (value : Bytes) (cred issuerCert : String)
    (now : Time) : ChallengeStore :=
  { store with
    entries := store.entries.insert key
      { value, expires := now + deviceChallengeTTL, cred, issuerCert, issue := store.issued }
    issued := store.issued + 1 }

/-- `issue`, with the random bytes drawn, if any could be. -/
def issue (store : ChallengeStore) (drawn : Option Bytes) (key : UDPAddr)
    (cred issuerCert : String) (now : Time) : ChallengeStore × Option Bytes :=
  match drawn with
  | none => (store, none)
  | some value =>
    if (store.entries.lookup key).isNone ∧ store.cap ≤ store.entries.entries.length then
      if store.cap ≤ (store.makeRoom now).entries.entries.length then (store.makeRoom now, none)
      else ((store.makeRoom now).put key value cred issuerCert now, some value)
    else (store.put key value cred issuerCert now, some value)

/-- The live entry of a key. -/
def live (store : ChallengeStore) (key : UDPAddr) (now : Time) : Option PendingChallenge :=
  (store.entries.lookup key).filter fun entry => now < entry.expires

def stashedCred (store : ChallengeStore) (key : UDPAddr) (now : Time) : String :=
  ((store.live key now).map PendingChallenge.cred).getD ""

def stashedIssuerCert (store : ChallengeStore) (key : UDPAddr) (now : Time) : String :=
  ((store.live key now).map PendingChallenge.issuerCert).getD ""

/-- `spend`. The code returns the value of the entry returned here. -/
def spend (store : ChallengeStore) (key : UDPAddr) (nonce : String) (now : Time) :
    ChallengeStore × Option PendingChallenge :=
  match store.live key now with
  | none => (store, none)
  | some entry =>
    if entry.spent then
      if entry.spentBy = "" ∨ nonce = "" ∨ entry.spentBy ≠ nonce then (store, none)
      else (store, some entry)
    else
      let entry := { entry with spent := true, spentBy := nonce }
      ({ store with entries := store.entries.insert key entry }, some entry)

/-- Forget the challenge of a client. -/
def drop (store : ChallengeStore) (key : UDPAddr) : ChallengeStore :=
  { store with entries := store.entries.erase key }

variable {store : ChallengeStore} {key : UDPAddr} {now : Time} {entry : PendingChallenge}

/-- A live entry is stored and not yet expired. -/
theorem lookup_of_live (live : store.live key now = some entry) :
    store.entries.lookup key = some entry ∧ now < entry.expires := by
  obtain ⟨found, unexpired⟩ := Option.filter_eq_some_iff.mp live
  exact ⟨found, of_decide_eq_true unexpired⟩

/-- Entries are dropped and nothing else. -/
structure Thins (before after : ChallengeStore) : Prop where
  issued : after.issued = before.issued
  capacity : after.capacity = before.capacity
  length : after.entries.entries.length ≤ before.entries.entries.length
  held : ∀ {key entry}, after.entries.lookup key = some entry →
    before.entries.lookup key = some entry

theorem Thins.refl (store : ChallengeStore) : store.Thins store :=
  ⟨rfl, rfl, Nat.le_refl _, id⟩

/-- A sweep only removes entries. -/
theorem thins_sweep (store : ChallengeStore) (now : Time) : store.Thins (store.sweep now) :=
  ⟨rfl, rfl, Table.length_retain_le _ _, fun held => (Table.lookup_retain_eq_some.mp held).1⟩

/-- A drop only removes entries. -/
theorem thins_drop (store : ChallengeStore) (key : UDPAddr) : store.Thins (store.drop key) :=
  ⟨rfl, rfl, Table.length_erase_le _ _, fun held => (Table.lookup_erase_eq_some.mp held).2⟩

theorem thins_makeRoom (store : ChallengeStore) (now : Time) :
    store.Thins (store.makeRoom now) := by
  unfold makeRoom
  split
  · obtain ⟨issued, capacity, length, held⟩ := store.thins_sweep now
    exact ⟨issued, capacity, length, held⟩
  · exact .refl store

/-- Room is made at the cost of expired entries only. -/
theorem lookup_makeRoom (held : store.entries.lookup key = some entry)
    (unexpired : now < entry.expires) : (store.makeRoom now).entries.lookup key = some entry := by
  unfold makeRoom
  split
  · exact Table.lookup_retain_eq_some.mpr ⟨held, decide_eq_true unexpired⟩
  · exact held

/-- What one issue does: expired entries may go, and then an entry is put where there is one or
room, or nothing is issued. -/
theorem issue_step (store : ChallengeStore) (drawn : Option Bytes) (key : UDPAddr)
    (cred issuerCert : String) (now : Time) :
    ∃ kept, store.Thins kept ∧
      (∀ {other entry}, store.entries.lookup other = some entry → now < entry.expires →
        kept.entries.lookup other = some entry) ∧
      (store.issue drawn key cred issuerCert now = (kept, none) ∨
        ∃ value, store.issue drawn key cred issuerCert now =
            (kept.put key value cred issuerCert now, some value) ∧
          ((kept.entries.lookup key).isSome ∨ kept.entries.entries.length < kept.cap)) := by
  cases drawn with
  | none => exact ⟨store, .refl store, fun held _ => held, .inl rfl⟩
  | some value =>
    by_cases full : (store.entries.lookup key).isNone ∧ store.cap ≤ store.entries.entries.length
    · simp only [issue, if_pos full]
      refine ⟨store.makeRoom now, store.thins_makeRoom now, lookup_makeRoom, ?_⟩
      have cap : (store.makeRoom now).cap = store.cap := by
        unfold cap
        rw [(store.thins_makeRoom now).capacity]
      split
      · exact .inl rfl
      · next room => exact .inr ⟨value, rfl, .inr (by rw [cap]; omega)⟩
    · simp only [issue, if_neg full]
      refine ⟨store, .refl store, fun held _ => held, .inr ⟨value, rfl, ?_⟩⟩
      rcases not_and_or.mp full with held | room
      · exact .inl (by simpa [Option.isSome_iff_ne_none] using held)
      · exact .inr (Nat.lt_of_not_le room)

/-- Entries are dropped or spent, and none is added. -/
structure Narrows (before after : ChallengeStore) : Prop where
  issued : after.issued = before.issued
  held : ∀ {key entry}, after.entries.lookup key = some entry →
    ∃ earlier, before.entries.lookup key = some earlier ∧ earlier.issue = entry.issue ∧
      (earlier.spent → entry.spent)

variable {before after : ChallengeStore}

theorem Thins.narrows (thins : before.Thins after) : before.Narrows after :=
  ⟨thins.issued, fun held => ⟨_, thins.held held, rfl, id⟩⟩

/-- An unchanged store narrows. -/
theorem Narrows.refl (store : ChallengeStore) : store.Narrows store :=
  (Thins.refl store).narrows

/-- Narrowing composes. -/
theorem Narrows.trans {first second third : ChallengeStore} (before : first.Narrows second)
    (after : second.Narrows third) : first.Narrows third := by
  refine ⟨after.issued.trans before.issued, fun held => ?_⟩
  obtain ⟨_, found, sameIssue, stillSpent⟩ := after.held held
  obtain ⟨earlier, was, issue, spent⟩ := before.held found
  exact ⟨earlier, was, issue.trans sameIssue, stillSpent ∘ spent⟩

/-- A sweep narrows the store. -/
theorem narrows_sweep (store : ChallengeStore) (now : Time) : store.Narrows (store.sweep now) :=
  (store.thins_sweep now).narrows

/-- A drop narrows the store. -/
theorem narrows_drop (store : ChallengeStore) (key : UDPAddr) : store.Narrows (store.drop key) :=
  (store.thins_drop key).narrows

/-- An issue narrows the store, and may put one entry under the next number. -/
theorem issue_cases (store : ChallengeStore) (drawn : Option Bytes) (key : UDPAddr)
    (cred issuerCert : String) (now : Time) :
    ∃ kept, store.Narrows kept ∧ ((store.issue drawn key cred issuerCert now).1 = kept ∨
        ∃ value, (store.issue drawn key cred issuerCert now).1 =
          kept.put key value cred issuerCert now) := by
  obtain ⟨kept, thins, -, same | ⟨value, put, -⟩⟩ :=
    store.issue_step drawn key cred issuerCert now
  · exact ⟨kept, thins.narrows, .inl (by rw [same])⟩
  · exact ⟨kept, thins.narrows, .inr ⟨value, by rw [put]⟩⟩

/-- What a successful `spend` says of the entry it returns. -/
structure Spent (before after : ChallengeStore) (key : UDPAddr) (nonce : String) (now : Time)
    (entry : PendingChallenge) : Prop where
  /-- The entry was there, unspent or spent by the same nonce. -/
  was : ∃ earlier, before.entries.lookup key = some earlier ∧ now < earlier.expires ∧
    earlier.issue = entry.issue ∧ (earlier.spent → earlier.spentBy = nonce)
  bound : entry.spent ∧ entry.spentBy = nonce
  held : after.entries.lookup key = some entry
  others : ∀ other, other ≠ key → after.entries.lookup other = before.entries.lookup other
  issued : after.issued = before.issued

variable {nonce : String}

/-- Spending an entry narrows the store. -/
theorem Spent.narrows (spent : Spent before after key nonce now entry) : before.Narrows after := by
  refine ⟨spent.issued, fun {other found} held => ?_⟩
  by_cases same : other = key
  · subst same
    obtain ⟨earlier, was, -, issue, -⟩ := spent.was
    obtain rfl : entry = found := Option.some.inj (spent.held.symm.trans held)
    exact ⟨earlier, was, issue, fun _ => spent.bound.1⟩
  · exact ⟨found, spent.others other same ▸ held, rfl, id⟩

/-- A live entry, free or bound to this nonce, is bound to it and nothing else changes. -/
structure Binds (before after : ChallengeStore) (key : UDPAddr) (nonce : String) (now : Time)
    (earlier : PendingChallenge) : Prop where
  live : before.live key now = some earlier
  free : earlier.spent → earlier.spentBy = nonce
  held : after.entries.lookup key = some { earlier with spent := true, spentBy := nonce }
  others : ∀ other, other ≠ key → after.entries.lookup other = before.entries.lookup other
  issued : after.issued = before.issued
  capacity : after.capacity = before.capacity
  length : after.entries.entries.length = before.entries.entries.length

variable {outcome : Option PendingChallenge}

/-- A spend fails, or binds the entry to its nonce. -/
theorem binds_spend (result : store.spend key nonce now = (after, outcome)) :
    (outcome = none ∧ after = store) ∨
      ∃ earlier, outcome = some { earlier with spent := true, spentBy := nonce } ∧
        Binds store after key nonce now earlier := by
  unfold spend at result
  split at result
  · next missing => cases result; exact .inl ⟨rfl, rfl⟩
  · next entry live =>
    have found := (lookup_of_live live).1
    split at result
    · next spent =>
      split at result
      · cases result; exact .inl ⟨rfl, rfl⟩
      · next same =>
        cases result
        push Not at same
        have already : { entry with spent := true, spentBy := nonce } = entry := by
          rw [← same.2.2, ← spent]
        refine .inr ⟨entry, by rw [already], live, fun _ => same.2.2, ?_, fun _ _ => rfl,
          rfl, rfl, rfl⟩
        rw [already]
        exact found
    · next unspent =>
      cases result
      refine .inr ⟨entry, rfl, live, fun spent => absurd spent unspent,
        AList.lookup_insert _, fun _ different => AList.lookup_insert_ne different, rfl, rfl, ?_⟩
      exact Table.length_insert_of_isSome _ (by rw [found]; rfl)

/-- A spend fails and changes nothing, or spends a live entry. -/
theorem spend_cases (result : store.spend key nonce now = (after, outcome)) :
    (outcome = none ∧ after = store) ∨
      ∃ entry, outcome = some entry ∧ Spent store after key nonce now entry := by
  rcases binds_spend result with unpaid | ⟨earlier, paid, binds⟩
  · exact .inl unpaid
  · obtain ⟨found, unexpired⟩ := lookup_of_live binds.live
    exact .inr ⟨_, paid, ⟨earlier, found, unexpired, rfl, binds.free⟩, ⟨rfl, rfl⟩, binds.held,
      binds.others, binds.issued⟩

end ChallengeStore

end Bacchus.Coordinator
