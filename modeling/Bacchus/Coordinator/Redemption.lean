import Bacchus.Coordinator.Connect

/-!
# How often a challenge pays for a session

A spent challenge stays in the store for the copies of its request. Those are answered from the
table of minted connects; the challenge lives longer than the answer there.
-/

namespace Bacchus.Coordinator

open Admission (Time)

/-- How many sessions a challenge has paid for. -/
def Matchmaker.redeemed (state : Matchmaker) (issue : Nat) : Nat :=
  state.mints.countP fun mint => mint.challenge = some issue

/-- What is known of the challenges held and of those that have paid. -/
structure Redeemable (state : Matchmaker) : Prop where
  numbered : ∀ {key entry}, state.challenges.entries.lookup key = some entry →
    entry.issue < state.challenges.issued
  apart : ∀ {key other entry found}, state.challenges.entries.lookup key = some entry →
    state.challenges.entries.lookup other = some found → entry.issue = found.issue → key = other
  past : ∀ {mint issue}, mint ∈ state.mints → mint.challenge = some issue →
    issue < state.challenges.issued
  /-- A challenge that has paid is spent. -/
  spent : ∀ {key entry mint}, state.challenges.entries.lookup key = some entry →
    mint ∈ state.mints → mint.challenge = some entry.issue → entry.spent
  once : ∀ issue, state.redeemed issue ≤ 1

namespace Redeemable

variable {state : Matchmaker}

theorem congr {other : Matchmaker} (holds : Redeemable state)
    (sameChallenges : other.challenges = state.challenges) (sameMints : other.mints = state.mints) :
    Redeemable other := by
  obtain ⟨_, challenges, _, _, mints⟩ := other
  cases sameChallenges
  cases sameMints
  exact ⟨holds.numbered, holds.apart, holds.past, holds.spent, holds.once⟩

variable {store : ChallengeStore} (holds : Redeemable state)
include holds

theorem narrow (narrows : state.challenges.Narrows store) :
    Redeemable { state with challenges := store } where
  numbered held := by
    obtain ⟨earlier, was, issue, -⟩ := narrows.held held
    rw [narrows.issued, ← issue]
    exact holds.numbered was
  apart held found same := by
    obtain ⟨_, wasFirst, issueFirst, -⟩ := narrows.held held
    obtain ⟨_, wasSecond, issueSecond, -⟩ := narrows.held found
    exact holds.apart wasFirst wasSecond (issueFirst.trans (same.trans issueSecond.symm))
  past member paid := narrows.issued ▸ holds.past member paid
  spent held member paid := by
    obtain ⟨earlier, was, issue, stillSpent⟩ := narrows.held held
    exact stillSpent (holds.spent was member (issue ▸ paid))
  once := holds.once

theorem put (key : UDPAddr) (value : Bytes) (cred issuerCert : String)
    (now : Time) :
    Redeemable { state with challenges := state.challenges.put key value cred issuerCert now } where
  numbered held := by
    rcases Table.lookup_insert_eq_some.mp held with ⟨-, rfl⟩ | ⟨-, was⟩
    · exact Nat.lt_succ_self _
    · exact Nat.lt_succ_of_lt (holds.numbered was)
  apart held found same := by
    rcases Table.lookup_insert_eq_some.mp held with ⟨rfl, rfl⟩ | ⟨-, was⟩ <;>
      rcases Table.lookup_insert_eq_some.mp found with ⟨rfl, rfl⟩ | ⟨-, other⟩
    · rfl
    · exact absurd same.symm (Nat.ne_of_lt (holds.numbered other))
    · exact absurd same (Nat.ne_of_lt (holds.numbered was))
    · exact holds.apart was other same
  past member paid := Nat.lt_succ_of_lt (holds.past member paid)
  spent held member paid := by
    rcases Table.lookup_insert_eq_some.mp held with ⟨-, rfl⟩ | ⟨-, was⟩
    · exact absurd (holds.past member paid) (Nat.lt_irrefl _)
    · exact holds.spent was member paid
  once := holds.once

theorem issue (drawn : Option Bytes) (key : UDPAddr)
    (cred issuerCert : String) (now : Time) :
    Redeemable { state with
      challenges := (state.challenges.issue drawn key cred issuerCert now).1 } := by
  obtain ⟨_, narrows, same | ⟨value, put⟩⟩ :=
    state.challenges.issue_cases drawn key cred issuerCert now
  · rw [same]
    exact holds.narrow narrows
  · rw [put]
    exact (holds.narrow narrows).put key value cred issuerCert now

theorem mint {src : UDPAddr} {nonce : String} {read now : Time} {entry : PendingChallenge}
    (paid : state.challenges.Spent store src nonce read entry)
    (unpaid : ∀ mint ∈ state.mints, mint.challenge ≠ some entry.issue) (pairing : Pairing) :
    Redeemable (Matchmaker.mint { state with challenges := store } src nonce now pairing
      (some entry.issue)) := by
  have narrowed := holds.narrow paid.narrows
  refine ⟨narrowed.numbered, narrowed.apart, ?_, ?_, ?_⟩
  · intro mint issue member pays
    rcases List.mem_cons.mp member with rfl | earlier
    · cases pays
      exact narrowed.numbered paid.held
    · exact narrowed.past earlier pays
  · intro key found mint held member pays
    rcases List.mem_cons.mp member with rfl | earlier
    · obtain rfl := narrowed.apart paid.held held (Option.some.inj pays)
      obtain rfl := Option.some.inj (paid.held.symm.trans held)
      exact paid.bound.1
    · exact narrowed.spent held earlier pays
  · intro issue
    change List.countP _ (_ :: state.mints) ≤ 1
    rw [List.countP_cons]
    by_cases same : entry.issue = issue
    · have none : state.mints.countP (fun mint => mint.challenge = some issue) = 0 := by
        apply List.countP_eq_zero.mpr
        intro mint member
        rw [← same]
        exact mt of_decide_eq_true (unpaid mint member)
      split <;> omega
    · have before := holds.once issue
      have skipped : ¬ (some entry.issue = some issue) := fun equal => same (Option.some.inj equal)
      simp only [decide_eq_true_eq, if_neg skipped]
      exact before

theorem mintOpen {src : UDPAddr} {nonce : String} {now : Time}
    (narrows : state.challenges.Narrows store) (pairing : Pairing) :
    Redeemable (Matchmaker.mint { state with challenges := store } src nonce now pairing none) := by
  have narrowed := holds.narrow narrows
  have foreign : ∀ {mint : Mint} {issue : Nat},
      mint ∈ ⟨src, nonce, pairing.reply.session, none⟩ :: state.mints →
        mint.challenge = some issue → mint ∈ state.mints := by
    intro mint issue member pays
    rcases List.mem_cons.mp member with rfl | earlier
    · cases pays
    · exact earlier
  refine ⟨narrowed.numbered, narrowed.apart,
    fun member pays => narrowed.past (foreign member pays) pays,
    fun held member pays => narrowed.spent held (foreign member pays) pays, fun issue => ?_⟩
  exact holds.once issue

theorem pruned (now : Time) : Redeemable (state.prune now) :=
  holds.congr rfl rfl

omit holds

end Redeemable

/-- A connect with a live challenge that has paid for its request finds the answer still kept. -/
def AnswerKept (state : Matchmaker) : Event → Prop
  | .connect moment src req =>
    ∀ entry, state.challenges.entries.lookup src = some entry →
      moment.spendRead < entry.expires → entry.spentBy = req.nonce →
      (∃ mint ∈ state.mints, mint.challenge = some entry.issue) →
      ∃ answer, state.minted.lookup (src, req.nonce) = some answer ∧
        answer.unexpired moment.now
  | _ => True

variable {cfg : MatchConfig} {state : Matchmaker}

theorem redeemable_connect {moment : ConnectMoment} {src : UDPAddr} {req : ConnectRequest}
    (holds : Redeemable state) (kept : AnswerKept state (.connect moment src req)) :
    Redeemable (((state.prune moment.now).connect cfg moment src req).1) := by
  have pruned := holds.pruned moment.now
  rcases connect_cases cfg (state.prune moment.now) moment src req with
    ⟨store, narrows, result⟩ | ⟨store, spent, pairing, minted⟩
  · rw [result]
    exact pruned.narrow narrows
  · rw [minted.result]
    cases spent with
    | none => exact pruned.mintOpen minted.narrows pairing
    | some entry =>
      have paid := minted.paid entry rfl
      refine pruned.mint paid ?_ pairing
      intro mint member pays
      -- A challenge that has paid is bound to this nonce, so the answer would be given.
      obtain ⟨earlier, was, unexpired, issue, bound⟩ := paid.was
      rw [← issue] at pays
      have same : earlier.spentBy = req.nonce := bound (pruned.spent was member pays)
      obtain ⟨answer, found, fresh⟩ := kept earlier was unexpired same ⟨mint, member, pays⟩
      have answered : (state.prune moment.now).replay src req.nonce moment.now =
          some answer := by
        apply Option.filter_eq_some_iff.mpr
        exact ⟨Table.lookup_retain_eq_some.mpr ⟨found, fresh⟩, fresh⟩
      rw [minted.unanswered] at answered
      cases answered

theorem redeemable_step {next : Matchmaker} {event : Event} (holds : Redeemable state)
    (kept : AnswerKept state event) (moves : (matchmaker cfg).step state event = some next) :
    Redeemable next := by
  cases moves
  cases event with
  | registry | sweepTick => exact holds.congr rfl rfl
  | challenge moment =>
    simp only [Matchmaker.react, Matchmaker.challenge]
    split
    · exact holds.pruned moment.now
    · split
      · exact holds.pruned moment.now
      · exact (holds.pruned moment.now).issue ..
  | connect => exact redeemable_connect holds kept
  | signal now =>
    simp only [Matchmaker.react, Matchmaker.signal]
    split
    · exact holds.pruned now
    · exact holds.congr rfl rfl
  | snapshot now => exact holds.pruned now
  | sweepChallenges now => exact holds.narrow (state.challenges.narrows_sweep now)

theorem redeemable_initial (valid : (matchmaker cfg).initial state) : Redeemable state := by
  obtain ⟨-, noEntries, -, -, -, noMints⟩ := valid
  refine ⟨?_, ?_, ?_, ?_, ?_⟩
  all_goals simp [noEntries, noMints, Matchmaker.redeemed]

/-- While an answer outlives every live challenge its request has spent, a challenge pays for one
session at most. -/
theorem challenge_redeemed_once {cfg : MatchConfig} {events : List Event} {state : Matchmaker}
    (runs : (matchmaker cfg).Runs AnswerKept events state) (issue : Nat) :
    state.redeemed issue ≤ 1 :=
  (runs.invariant redeemable_initial redeemable_step).once issue

/-- A copy that arrives after the answer is gone is paid for by the same challenge. -/
theorem late_copy_redeems_again :
    ∃ events state, (matchmaker (openTo true)).Runs Machine.free events state ∧
      state.redeemed 0 = 2 := by
  let events : List Event := [exitRegisters 0, challengeAsked 1000000000,
    connectArrives 2000000000 "direct" "s1", connectArrives 33000000000 "direct" "s2"]
  exact ⟨events, Machine.exists_runs (initial_emptyTables _) (Machine.meets_free _ _) (by decide)⟩

/-- A copy that arrives at once is given the answer. -/
theorem prompt_copy_redeems_once :
    ∃ events state, (matchmaker (openTo true)).Runs AnswerKept events state ∧
      state.redeemed 0 = 1 ∧ ∀ issue, state.redeemed issue ≤ 1 := by
  let events : List Event := [exitRegisters 0, challengeAsked 1000000000,
    connectArrives 2000000000 "direct" "s1", connectArrives 3000000000 "direct" "s2"]
  have kept : (matchmaker (openTo true)).Meets AnswerKept emptyTables events := by
    refine ⟨trivial, trivial, ?_, ?_, trivial⟩
    · rintro entry - - - ⟨mint, none, -⟩
      cases none
    · rintro entry - - - -
      exact ⟨_, rfl, by decide⟩
  obtain ⟨state, runs, once⟩ : ∃ state, (matchmaker (openTo true)).Runs AnswerKept events state ∧
      state.redeemed 0 = 1 := Machine.exists_runs (initial_emptyTables _) kept (by decide)
  exact ⟨events, state, runs, once, challenge_redeemed_once runs⟩

end Bacchus.Coordinator
