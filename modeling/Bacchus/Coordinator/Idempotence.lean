import Bacchus.Coordinator.Connect

/-!
# One session for the copies of a connect

A log of the sessions minted and the answers given, beside the tables. Every datagram is handled
and the clock read under one lock, so readings never go back. Within the lifetime of an answer
its source and nonce have one session, which every copy is answered with.
-/

namespace Bacchus.Coordinator

open Admission (Time)
open List Option

/-- The session a connect was answered with. -/
structure GivenAnswer where
  src : UDPAddr
  nonce : String
  given : Time
  reply : SessionReply
deriving DecidableEq

/-- A coordinator with what it has answered so far, the latest first. -/
structure MatchLog where
  state : Matchmaker
  /-- The last reading of the clock. -/
  clock : Time
  mints : List GivenAnswer := []
  answers : List GivenAnswer := []

/-- The reading of the clock that an event begins with. -/
def Event.now : Event → Time
  | .registry datagram => datagram.moment.now
  | .challenge moment _ _ _ => moment.now
  | .connect moment _ _ => moment.now
  | .signal now _ _ | .snapshot now | .sweepTick now | .sweepChallenges now => now

/-- The session an event answers a connect with. -/
def Event.answer (event : Event) (sent : List (UDPAddr × Sent)) : Option GivenAnswer :=
  match event with
  | .connect moment src req =>
    (sessionReply sent).map fun reply => ⟨src, req.nonce, moment.now, reply⟩
  | _ => none

/-- One event, and what it adds to the log. -/
def MatchLog.record (cfg : MatchConfig) (log : MatchLog) (event : Event) : MatchLog :=
  let (next, sent) := log.state.react cfg event
  let given := (event.answer sent).toList
  { state := next
    clock := event.now
    mints := if next.mints.length = log.state.mints.length then log.mints else given ++ log.mints
    answers := given ++ log.answers }

/-- A coordinator that logs, from empty tables. -/
def matchLog (cfg : MatchConfig) : Machine MatchLog Event where
  initial log := (matchmaker cfg).initial log.state ∧ log.mints = [] ∧ log.answers = []
  step log event := some (log.record cfg event)

/-- The clock does not go back. -/
def Ticks (log : MatchLog) (event : Event) : Prop := log.clock ≤ event.now

/-- The answer kept is the one logged. -/
def GivenAnswer.Kept (mint : GivenAnswer) (state : Matchmaker) : Prop :=
  ∃ answer, state.minted.lookup (mint.src, mint.nonce) = some answer ∧
    answer.mintedAt = mint.given ∧ answer.reply = mint.reply

/-- Two answers to copies of one request. -/
def GivenAnswer.Same (one other : GivenAnswer) : Prop :=
  one.src = other.src ∧ one.nonce = other.nonce

theorem GivenAnswer.Same.symm {one other : GivenAnswer} (same : one.Same other) : other.Same one :=
  ⟨same.1.symm, same.2.symm⟩

/-- Answers to one request that are more than a lifetime apart. -/
def GivenAnswer.Apart (one other : GivenAnswer) : Prop :=
  one.Same other →
    connectDedupeTTL < one.given - other.given ∨ connectDedupeTTL < other.given - one.given

instance : Std.Symm GivenAnswer.Apart where
  symm _ _ apart same := (apart same.symm).symm

/-- What is kept was minted, what was minted within the lifetime is kept, mints of one request are a
lifetime apart, and every answer repeats a mint of its request within the lifetime. -/
structure Deduped (log : MatchLog) : Prop where
  held : ∀ src nonce answer, log.state.minted.lookup (src, nonce) = some answer →
    ⟨src, nonce, answer.mintedAt, answer.reply⟩ ∈ log.mints
  kept : ∀ mint ∈ log.mints, log.clock - mint.given ≤ connectDedupeTTL → mint.Kept log.state
  past : ∀ mint ∈ log.mints, mint.given ≤ log.clock
  spaced : log.mints.Pairwise GivenAnswer.Apart
  answered : ∀ answer ∈ log.answers, ∃ mint ∈ log.mints, mint.Same answer ∧
    mint.reply = answer.reply ∧ mint.given ≤ answer.given ∧
    answer.given - mint.given ≤ connectDedupeTTL

section

variable {cfg : MatchConfig} {log next : MatchLog} {event : Event} {now : Time}
  (deduped : Deduped log)
include deduped

theorem Deduped.congr {state : Matchmaker}
    (same : state.minted = log.state.minted) : Deduped { log with state } := by
  refine ⟨?_, ?_, deduped.past, deduped.spaced, deduped.answered⟩
  · intro src nonce answer found
    exact deduped.held src nonce answer (same ▸ found)
  · intro mint member fresh
    obtain ⟨answer, found, rest⟩ := deduped.kept mint member fresh
    exact ⟨answer, same.symm ▸ found, rest⟩

theorem Deduped.tick (later : log.clock ≤ now) : Deduped { log with clock := now } := by
  refine ⟨deduped.held, ?_, ?_, deduped.spaced, deduped.answered⟩
  · intro mint member fresh
    exact deduped.kept mint member ((Int.sub_le_sub_right later mint.given).trans fresh)
  · intro mint member
    exact (deduped.past mint member).trans later

theorem Deduped.prune : Deduped { log with state := log.state.prune log.clock } := by
  refine ⟨?_, ?_, deduped.past, deduped.spaced, deduped.answered⟩
  · intro src nonce answer found
    exact deduped.held src nonce answer (Table.lookup_retain_eq_some.mp found).1
  · intro mint member fresh
    obtain ⟨answer, found, minted, reply⟩ := deduped.kept mint member fresh
    refine ⟨answer, Table.lookup_retain_eq_some.mpr ⟨found, ?_⟩, minted, reply⟩
    rw [MintedConnect.unexpired, minted]
    exact decide_eq_true fresh

theorem Deduped.replayed {src : UDPAddr} {nonce : String}
    {answer : MintedConnect} (replayed : log.state.replay src nonce log.clock = some answer) :
    Deduped { log with answers := ⟨src, nonce, log.clock, answer.reply⟩ :: log.answers } := by
  obtain ⟨found, unexpired⟩ := filter_eq_some_iff.mp replayed
  have minted := deduped.held src nonce answer found
  refine ⟨deduped.held, deduped.kept, deduped.past, deduped.spaced, ?_⟩
  intro given member
  rcases mem_cons.mp member with rfl | earlier
  · exact ⟨_, minted, ⟨rfl, rfl⟩, rfl, deduped.past _ minted, of_decide_eq_true unexpired⟩
  · exact deduped.answered given earlier

/-- An unanswered request has no mint within the lifetime. -/
theorem Deduped.expired {mint : GivenAnswer} (member : mint ∈ log.mints)
    (unanswered : log.state.replay mint.src mint.nonce log.clock = none) :
    connectDedupeTTL < log.clock - mint.given := by
  apply Int.not_le.mp
  intro fresh
  obtain ⟨answer, found, minted, _⟩ := deduped.kept mint member fresh
  have given : log.state.replay mint.src mint.nonce log.clock = some answer := by
    apply filter_eq_some_iff.mpr
    refine ⟨found, ?_⟩
    rw [MintedConnect.unexpired, minted]
    exact decide_eq_true fresh
  rw [unanswered] at given
  cases given

theorem Deduped.minted {src : UDPAddr} {nonce : String}
    (unanswered : log.state.replay src nonce log.clock = none) {answer : MintedConnect}
    (dated : answer.mintedAt = log.clock) {state : Matchmaker}
    (stored : state.minted = log.state.minted.insert (src, nonce) answer) :
    Deduped
      { state
        clock := log.clock
        mints := ⟨src, nonce, log.clock, answer.reply⟩ :: log.mints
        answers := ⟨src, nonce, log.clock, answer.reply⟩ :: log.answers } := by
  constructor
  · intro source key found held
    simp only [stored] at held
    rcases Table.lookup_insert_eq_some.mp held with ⟨same, rfl⟩ | ⟨_, earlier⟩
    · cases same
      rw [dated]
      exact mem_cons_self
    · exact mem_cons_of_mem _ (deduped.held source key found earlier)
  · intro mint member fresh
    rcases mem_cons.mp member with rfl | earlier
    · refine ⟨answer, ?_, dated, rfl⟩
      rw [stored]
      exact AList.lookup_insert _
    · obtain ⟨found, held, rest⟩ := deduped.kept mint earlier fresh
      refine ⟨found, ?_, rest⟩
      rw [stored]
      apply Table.lookup_insert_eq_some.mpr
      refine .inr ⟨?_, held⟩
      rintro ⟨⟩
      exact absurd fresh (Int.not_le.mpr (deduped.expired earlier unanswered))
  · intro mint member
    rcases mem_cons.mp member with rfl | earlier
    · exact le_rfl
    · exact deduped.past mint earlier
  · refine List.Pairwise.cons ?_ deduped.spaced
    rintro mint member ⟨rfl, rfl⟩
    exact .inl (deduped.expired member unanswered)
  · intro given member
    rcases mem_cons.mp member with rfl | earlier
    · refine ⟨_, mem_cons_self, ⟨rfl, rfl⟩, rfl, le_rfl, ?_⟩
      simp only [Int.sub_self]
      decide
    · obtain ⟨mint, minted, rest⟩ := deduped.answered given earlier
      exact ⟨mint, mem_cons_of_mem _ minted, rest⟩

omit deduped

/-- Everything but a connect leaves the answers to the sweep. -/
theorem minted_react (quiet : ∀ moment src req, event ≠ .connect moment src req) :
    ((log.state.react cfg event).1.minted = log.state.minted ∨
        (log.state.react cfg event).1.minted = (log.state.prune event.now).minted) ∧
      (log.state.react cfg event).1.mints = log.state.mints := by
  cases event with
  | registry | snapshot | sweepTick => exact ⟨.inr rfl, rfl⟩
  | challenge =>
    simp only [Matchmaker.react, Matchmaker.challenge]
    split
    · exact ⟨.inr rfl, rfl⟩
    · split <;> exact ⟨.inr rfl, rfl⟩
  | connect moment src req => exact absurd rfl (quiet moment src req)
  | signal =>
    simp only [Matchmaker.react, Matchmaker.signal]
    split <;> exact ⟨.inr rfl, rfl⟩
  | sweepChallenges => exact ⟨.inl rfl, rfl⟩

theorem record_unminted {state : Matchmaker} {given : Option GivenAnswer}
    (reached : (log.state.react cfg event).1 = state)
    (told : event.answer (log.state.react cfg event).2 = given)
    (unminted : state.mints = log.state.mints) :
    log.record cfg event =
      { log with state, clock := event.now, answers := given.toList ++ log.answers } := by
  subst reached told
  simp only [MatchLog.record, unminted, if_true]

theorem record_minted {state : Matchmaker} {given : GivenAnswer} {mint : Mint}
    (reached : (log.state.react cfg event).1 = state)
    (told : event.answer (log.state.react cfg event).2 = some given)
    (minted : state.mints = mint :: log.state.mints) :
    log.record cfg event =
      { state
        clock := event.now
        mints := given :: log.mints
        answers := given :: log.answers } := by
  subst reached
  have longer : (log.state.react cfg event).1.mints.length ≠ log.state.mints.length := by
    rw [minted]
    exact Nat.succ_ne_self _
  simp only [MatchLog.record, told, if_neg longer, toList_some, cons_append,
    nil_append]

theorem Deduped.connect (deduped : Deduped log) {moment : ConnectMoment} {src : UDPAddr}
    {req : ConnectRequest} (ticks : log.clock ≤ moment.now) :
    Deduped (log.record cfg (.connect moment src req)) := by
  have swept : Deduped { log with state := log.state.prune moment.now, clock := moment.now } :=
    (deduped.tick ticks).prune
  rcases connect_outcomes cfg (log.state.prune moment.now) moment src req with
    ⟨store, -, refused, silent⟩ | ⟨answer, replayed, unchanged, told⟩ |
      ⟨store, spent, pairing, minted, told⟩
  · rw [@record_unminted cfg log (.connect moment src req) _ _ refused
      (congrArg (Option.map _) silent) rfl]
    exact swept.congr rfl
  · rw [@record_unminted cfg log (.connect moment src req) _ _ unchanged
      (congrArg (Option.map _) told) rfl]
    exact swept.replayed replayed
  · rw [@record_minted cfg log (.connect moment src req) _ _ _ minted.result
      (congrArg (Option.map _) told) rfl]
    exact @Deduped.minted _ swept src req.nonce minted.unanswered
      ⟨pairing.session.peer, pairing.assign, pairing.reply, moment.now⟩ rfl _ rfl

/-- Every event keeps the answers apart. -/
theorem Deduped.step (deduped : Deduped log) (ticks : Ticks log event)
    (moves : (matchLog cfg).step log event = some next) : Deduped next := by
  cases moves
  by_cases connects : ∃ moment src req, event = .connect moment src req
  · obtain ⟨moment, src, req, rfl⟩ := connects
    exact deduped.connect ticks
  · have quiet : ∀ moment src req, event ≠ .connect moment src req := by
      intro moment src req same
      exact connects ⟨moment, src, req, same⟩
    have told : event.answer (log.state.react cfg event).2 = none := by
      cases event with
      | connect moment src req => exact absurd rfl (quiet moment src req)
      | _ => rfl
    obtain ⟨tables, mints⟩ := @minted_react cfg log event quiet
    rw [record_unminted rfl told mints]
    rcases tables with same | swept
    · exact (deduped.tick ticks).congr same
    · exact (deduped.tick ticks).prune.congr swept

theorem deduped_of_runs {events : List Event} (runs : (matchLog cfg).Runs Ticks events log) :
    Deduped log := by
  refine runs.invariant ?_ fun deduped ticks moves => deduped.step ticks moves
  rintro start ⟨⟨-, -, -, -, noAnswers, -⟩, noMints, silent⟩
  constructor
  · intro src nonce answer found
    rw [noAnswers, AList.lookup_empty] at found
    cases found
  · rw [noMints]
    exact nofun
  · rw [noMints]
    exact nofun
  · rw [noMints]
    exact .nil
  · rw [silent]
    exact nofun

/-- The mint an answer repeats is the only one of its request around that time. -/
theorem Deduped.reply_eq (deduped : Deduped log) {mint answer : GivenAnswer}
    (minted : mint ∈ log.mints) (answered : answer ∈ log.answers) (same : mint.Same answer)
    (after : mint.given ≤ answer.given)
    (within : answer.given - mint.given ≤ connectDedupeTTL) : answer.reply = mint.reply := by
  obtain ⟨origin, member, sameOrigin, reply, before, recent⟩ := deduped.answered answer answered
  by_cases equal : origin = mint
  · rw [← reply, equal]
  · have one : origin.Same mint :=
      ⟨sameOrigin.1.trans same.1.symm, sameOrigin.2.trans same.2.symm⟩
    have arithmetic : ∀ first second given lifetime : Int, second ≤ given →
        given - first ≤ lifetime → ¬ lifetime < second - first := by omega
    rcases deduped.spaced.forall member minted equal one with later | earlier
    · exact absurd later (arithmetic _ _ _ _ before within)
    · exact absurd earlier (arithmetic _ _ _ _ after recent)

/-- In every interleaving: two sessions minted for one source and nonce are more than the dedupe
lifetime apart; every copy answered within the lifetime of a mint of its request is given the reply
minted; and every answer repeats one minted for its own source and nonce, so that two sources are
never given one session id, unless it was drawn twice. -/
theorem one_session_per_request {events : List Event}
    (runs : (matchLog cfg).Runs Ticks events log) :
    log.mints.Pairwise GivenAnswer.Apart ∧
      (∀ mint ∈ log.mints, ∀ answer ∈ log.answers, mint.Same answer → mint.given ≤ answer.given →
        answer.given - mint.given ≤ connectDedupeTTL → answer.reply = mint.reply) ∧
      (∀ answer ∈ log.answers, ∃ mint ∈ log.mints, mint.Same answer ∧ mint.reply = answer.reply) ∧
      ((log.mints.Pairwise fun one other => one.reply.session ≠ other.reply.session) →
        ∀ one ∈ log.answers, ∀ other ∈ log.answers, one.src ≠ other.src →
          one.reply.session ≠ other.reply.session) := by
  have deduped := deduped_of_runs runs
  refine ⟨deduped.spaced, ?_, ?_, ?_⟩
  · intro mint minted answer answered same after within
    exact deduped.reply_eq minted answered same after within
  · intro answer answered
    obtain ⟨mint, minted, same, reply, _⟩ := deduped.answered answer answered
    exact ⟨mint, minted, same, reply⟩
  · intro distinct one first other second strangers collide
    obtain ⟨mint, minted, same, reply, _⟩ := deduped.answered one first
    obtain ⟨rival, rivalMinted, rivalSame, rivalReply, _⟩ := deduped.answered other second
    have unequal : mint ≠ rival := by
      rintro rfl
      exact strangers (same.1.symm.trans rivalSame.1)
    have apart : Std.Symm fun one other : GivenAnswer => one.reply.session ≠ other.reply.session :=
      ⟨fun _ _ different => different.symm⟩
    refine distinct.forall minted rivalMinted unequal ?_
    rw [reply, rivalReply]
    exact collide

end

/-- Three copies of one request, with a sweep between them, after a registration. -/
def threeCopies : List Event :=
  [exitRegisters 0, connectArrives 1000000000 "direct" "s1",
    connectArrives 1060000000 "direct" "s2",
    .sweepTick 1100000000, connectArrives 1120000000 "direct" "s3"]

/-- They are answered with the one session that the first of them minted. -/
theorem three_copies_one_session :
    ∃ log, (matchLog (openTo false)).Runs Ticks threeCopies log ∧ log.answers.length = 3 ∧
      ∃ mint, log.mints = [mint] ∧ ∀ answer ∈ log.answers, answer.reply = mint.reply := by
  let start : MatchLog := { state := emptyTables, clock := 0 }
  let client : UDPAddr := ⟨.v4 0xCB007105, 5000⟩
  let view : GivenAnswer → UDPAddr × String × Time :=
    fun given => (given.src, given.nonce, given.given)
  have computed : (((matchLog (openTo false)).follow start threeCopies).map fun log =>
      (log.mints.map view, log.answers.map view)) =
        some ([(client, "n1", 1000000000)],
          [(client, "n1", 1120000000), (client, "n1", 1060000000),
            (client, "n1", 1000000000)]) := by
    decide
  obtain ⟨log, followed, viewed⟩ := map_eq_some_iff.mp computed
  obtain ⟨mints, answers⟩ := Prod.mk.inj viewed
  obtain ⟨mint, single, minted⟩ := map_eq_singleton_iff.mp mints
  have runs : (matchLog (openTo false)).Runs Ticks threeCopies log := by
    refine .ofFollow ⟨initial_emptyTables _, rfl, rfl⟩ followed ?_
    simp only [threeCopies, Machine.Meets, matchLog, Ticks]
    decide
  refine ⟨log, runs, ?_, mint, single, fun answer answered => ?_⟩
  · simpa using congrArg length answers
  · have member : view answer ∈ log.answers.map view := mem_map_of_mem answered
    rw [answers] at member
    obtain ⟨source, nonce, given⟩ :
        mint.src = client ∧ mint.nonce = "n1" ∧ mint.given = 1000000000 := by
      simpa [view] using minted
    have seen : answer.src = client ∧ answer.nonce = "n1" ∧ mint.given ≤ answer.given ∧
        answer.given - mint.given ≤ connectDedupeTTL := by
      simp only [mem_cons, not_mem_nil, or_false, view, Prod.mk.injEq] at member
      rw [given]
      rcases member with ⟨src, key, time⟩ | ⟨src, key, time⟩ | ⟨src, key, time⟩ <;> rw [time] <;>
        exact ⟨src, key, by decide, by decide⟩
    apply (one_session_per_request runs).2.1 mint (single ▸ mem_cons_self) answer answered
    · exact ⟨source.trans seen.1.symm, nonce.trans seen.2.1.symm⟩
    · exact seen.2.2.1
    · exact seen.2.2.2

end Bacchus.Coordinator
