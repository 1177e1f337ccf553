import Bacchus.Coordinator.Connect

/-!
# Answers kept for the copies of a connect

Answers and sessions expire by themselves: an answer after half a minute, a session after two
minutes of silence, and one over a relay once a sweep finds the relay gone, silent or moved.
-/

namespace Bacchus.Coordinator

open Table

open Admission (Time)

/-- Every answer still given at a time names a session still held. -/
def AnswersHold (state : Matchmaker) (now : Time) : Prop :=
  ∀ key answer, state.minted.lookup key = some answer → answer.unexpired now →
    (state.sessions.lookup answer.reply.session).isSome

/-- Every answer names a session heard of no earlier than it was minted. -/
def Grounded (state : Matchmaker) : Prop :=
  ∀ key answer, state.minted.lookup key = some answer →
    ∃ sess, state.sessions.lookup answer.reply.session = some sess ∧
      answer.mintedAt ≤ sess.lastSeen

variable {state : Matchmaker}

theorem Grounded.answersHold (grounded : Grounded state) (now : Time) : AnswersHold state now := by
  intro key answer held _
  obtain ⟨_, found, -⟩ := grounded key answer held
  rw [found]
  rfl

variable {sess : Session} {now : Time}

/-- A session heard of within the lifetime of an answer is not idle. -/
theorem kept_of_unexpired {answer : MintedConnect} (unexpired : answer.unexpired now)
    (heard : answer.mintedAt ≤ sess.lastSeen) : sess.kept now := by
  have recent : now - answer.mintedAt ≤ connectDedupeTTL := of_decide_eq_true unexpired
  have shorter : connectDedupeTTL ≤ sessionTTL := by decide
  have idle : now - sess.lastSeen ≤ now - answer.mintedAt := Int.sub_le_sub_left heard now
  apply decide_eq_true
  exact .inr (idle.trans (recent.trans shorter))

/-- `prune` alone never drops the session of an answer that it leaves. -/
theorem Grounded.pruned (grounded : Grounded state) (now : Time) : Grounded (state.prune now) := by
  intro key answer held
  obtain ⟨was, unexpired⟩ := lookup_retain_eq_some.mp held
  obtain ⟨sess, found, heard⟩ := grounded key answer was
  refine ⟨sess, lookup_retain_eq_some.mpr ⟨found, ?_⟩, heard⟩
  exact kept_of_unexpired unexpired heard

variable {other : Matchmaker}

theorem Grounded.congr (grounded : Grounded state) (sameSessions : other.sessions = state.sessions)
    (sameMinted : other.minted = state.minted) : Grounded other := by
  intro key answer held
  rw [sameMinted] at held
  rw [sameSessions]
  exact grounded key answer held

theorem Grounded.store {id : String} (grounded : Grounded state)
    (sameMinted : other.minted = state.minted)
    (stored : other.sessions = state.sessions.insert id sess)
    (later : ∀ earlier, state.sessions.lookup id = some earlier →
      earlier.lastSeen ≤ sess.lastSeen) : Grounded other := by
  intro key answer held
  rw [sameMinted] at held
  obtain ⟨found, was, heard⟩ := grounded key answer held
  rw [stored]
  by_cases same : answer.reply.session = id
  · subst same
    exact ⟨sess, AList.lookup_insert _, heard.trans (later found was)⟩
  · exact ⟨found, (AList.lookup_insert_ne same).trans was, heard⟩

variable {next : Matchmaker}

theorem Grounded.mint {moment : ConnectMoment} {src : UDPAddr} {nonce : String}
    {store : ChallengeStore} {spent : Option PendingChallenge} {pairing : Pairing}
    (grounded : Grounded state) (minted : Minted state next moment src nonce store spent pairing)
    (later : ∀ earlier, state.sessions.lookup moment.drawn = some earlier →
      earlier.lastSeen ≤ moment.now) : Grounded next := by
  have stored : Grounded { next with minted := state.minted } := by
    rw [minted.result]
    refine grounded.store rfl rfl fun earlier found => ?_
    rw [minted.seen]
    exact later earlier (minted.drawn ▸ found)
  intro key answer held
  rw [minted.result] at held
  rcases lookup_insert_eq_some.mp held with ⟨-, rfl⟩ | ⟨-, was⟩
  · refine ⟨pairing.session, ?_, minted.seen.ge⟩
    rw [minted.result]
    exact AList.lookup_insert _
  · exact stored key answer was

/-- No clock reading goes behind the last word of the session it is written to, and no sweep finds
the relay lost of a session in an answer still given. -/
def Undisturbed (state : Matchmaker) : Event → Prop
  | .signal now _ id => ∀ sess, state.sessions.lookup id = some sess → sess.lastSeen ≤ now
  | .connect moment _ _ =>
    ∀ sess, state.sessions.lookup moment.drawn = some sess →
      sess.lastSeen ≤ moment.now
  | .sweepTick now =>
    ∀ key answer sess, state.minted.lookup key = some answer →
      answer.unexpired now →
      state.sessions.lookup answer.reply.session = some sess →
      sess.relayId ≠ "" →
      ∃ relay, state.registry.relays sess.relayId = some relay ∧
        now - relay.lastSeen ≤ ttl / 2 ∧ relay.addr = sess.peer
  | _ => True

/-- A relay heard of within half its lifetime is not pruned. -/
theorem carried_pruned {registry : Registry} {relay : RelayNode}
    (found : registry.relays sess.relayId = some relay) (heard : now - relay.lastSeen ≤ ttl / 2)
    (same : relay.addr = sess.peer) : sess.carried (registry.prune now) now := by
  have half : ttl / 2 ≤ ttl := by decide
  have stays : (registry.prune now).relays sess.relayId = some relay := by
    apply Option.filter_eq_some_iff.mpr
    exact ⟨found, decide_eq_true (heard.trans half)⟩
  simp only [Session.carried, stays, Bool.or_eq_true]
  exact .inr (decide_eq_true ⟨heard, same⟩)

theorem grounded_sweepTick (grounded : Grounded state)
    (undisturbed : Undisturbed state (.sweepTick now)) : Grounded (state.sweepTick now).1 := by
  intro key answer held
  obtain ⟨sess, found, heard⟩ := grounded.pruned now key answer held
  refine ⟨sess, lookup_retain_eq_some.mpr ⟨found, ?_⟩, heard⟩
  obtain ⟨was, unexpired⟩ := lookup_retain_eq_some.mp held
  by_cases direct : sess.relayId = ""
  · simp only [Session.carried, direct, decide_true, Bool.true_or]
  · obtain ⟨_, registered, recent, same⟩ :=
      undisturbed key answer sess was unexpired (lookup_retain_eq_some.mp found).1 direct
    exact carried_pruned registered recent same

variable {cfg : MatchConfig}

theorem grounded_step {event : Event} (grounded : Grounded state)
    (undisturbed : Undisturbed state event)
    (moves : (matchmaker cfg).step state event = some next) : Grounded next := by
  cases moves
  cases event with
  | registry datagram => exact (grounded.pruned datagram.moment.now).congr rfl rfl
  | challenge moment =>
    simp only [Matchmaker.react, Matchmaker.challenge]
    split
    · exact grounded.pruned moment.now
    · split
      · exact grounded.pruned moment.now
      · exact (grounded.pruned moment.now).congr rfl rfl
  | connect moment src req =>
    rcases connect_cases cfg (state.prune moment.now) moment src req with
      ⟨store, -, result⟩ | ⟨store, spent, pairing, minted⟩
    · simp only [Matchmaker.react, result]
      exact (grounded.pruned moment.now).congr rfl rfl
    · refine (grounded.pruned moment.now).mint minted fun earlier found => ?_
      exact undisturbed earlier (lookup_retain_eq_some.mp found).1
  | signal now =>
    simp only [Matchmaker.react, Matchmaker.signal]
    split
    · exact grounded.pruned now
    · refine (grounded.pruned now).store rfl rfl fun earlier found => ?_
      exact undisturbed earlier (lookup_retain_eq_some.mp found).1
  | snapshot now => exact grounded.pruned now
  | sweepTick => exact grounded_sweepTick grounded undisturbed
  | sweepChallenges => exact grounded.congr rfl rfl

theorem grounded_initial (valid : (matchmaker cfg).initial state) : Grounded state := by
  obtain ⟨-, -, -, -, noAnswers, -⟩ := valid
  intro key answer held
  rw [noAnswers, AList.lookup_empty] at held
  cases held

/-- While no sweep finds the relay of an answer's session lost, every answer still given names a
session still held, and so does every answer to a copy. -/
theorem answers_hold {cfg : MatchConfig} {events : List Event} {state : Matchmaker}
    (runs : (matchmaker cfg).Runs Undisturbed events state) (now : Time) :
    AnswersHold state now ∧
      ∀ src nonce answer, (state.prune now).replay src nonce now = some answer →
        ((state.prune now).sessions.lookup answer.reply.session).isSome := by
  have grounded : Grounded state := runs.invariant grounded_initial grounded_step
  refine ⟨grounded.answersHold now, fun src nonce answer given => ?_⟩
  obtain ⟨held, unexpired⟩ := Option.filter_eq_some_iff.mp given
  exact (grounded.pruned now).answersHold now (src, nonce) answer held unexpired

/-- A sweep after which the relay has its address leaves the session of the answer. -/
theorem steady_relay_keeps_answer :
    ∃ events state, (matchmaker (openTo false)).Runs Undisturbed events state ∧
      (state.minted.lookup (⟨.v4 0xCB007105, 5000⟩, "n1")).isSome ∧
      AnswersHold state 4000000000 := by
  let events : List Event := [exitRegisters 0, relayRegisters 0 ⟨.v4 0xC0000202, 4000⟩,
    connectArrives 1000000000 "relay" "s1", .sweepTick 3000000000]
  have undisturbed : (matchmaker (openTo false)).Meets Undisturbed emptyTables events := by
    refine ⟨trivial, trivial, ?_, ?_, trivial⟩
    · intro sess found
      cases found
    · intro key answer sess held _ found _
      rcases lookup_insert_eq_some.mp held with ⟨-, rfl⟩ | ⟨-, earlier⟩
      · cases found
        exact ⟨_, rfl, by decide, rfl⟩
      · cases earlier
  obtain ⟨state, runs, kept⟩ : ∃ state, (matchmaker (openTo false)).Runs Undisturbed events state ∧
      (state.minted.lookup (⟨.v4 0xCB007105, 5000⟩, "n1")).isSome :=
    Machine.exists_runs (initial_emptyTables _) undisturbed (by decide)
  exact ⟨events, state, runs, kept, (answers_hold runs 4000000000).1⟩

/-- A relay comes back from another address, a sweep drops the session over it, and a copy of the
connect is still answered with that session. -/
theorem copy_answered_with_lost_session :
    ∃ events state, (matchmaker (openTo false)).Runs Machine.free events state ∧
      ¬ AnswersHold state 4000000000 ∧
      ∃ answer, (state.prune 4000000000).replay ⟨.v4 0xCB007105, 5000⟩ "n1" 4000000000 =
          some answer ∧
        (state.prune 4000000000).sessions.lookup answer.reply.session = none := by
  let events : List Event := [exitRegisters 0, relayRegisters 0 ⟨.v4 0xC0000202, 4000⟩,
    connectArrives 1000000000 "relay" "s1", relayRegisters 2000000000 ⟨.v4 0xC0000203, 4000⟩,
    .sweepTick 3000000000]
  have computed : (((matchmaker (openTo false)).follow emptyTables events).map fun state =>
      (((state.prune 4000000000).replay ⟨.v4 0xCB007105, 5000⟩ "n1" 4000000000).map
        (·.reply.session), state.sessions.lookup "s1")) = some (some "s1", none) := by decide
  obtain ⟨state, followed, result⟩ := Option.map_eq_some_iff.mp computed
  obtain ⟨given, lost⟩ := Prod.mk.inj result
  obtain ⟨answer, given, named⟩ := Option.map_eq_some_iff.mp given
  have runs : (matchmaker (openTo false)).Runs Machine.free events state :=
    .ofFollow (initial_emptyTables _) followed (Machine.meets_free _ _)
  refine ⟨events, state, runs, ?_, answer, given, ?_⟩
  · intro hold
    obtain ⟨held, unexpired⟩ := Option.filter_eq_some_iff.mp given
    have found := hold _ answer (lookup_retain_eq_some.mp held).1 unexpired
    rw [named, lost] at found
    cases found
  · rw [named, Matchmaker.prune, lookup_retain, lost]
    rfl

end Bacchus.Coordinator
