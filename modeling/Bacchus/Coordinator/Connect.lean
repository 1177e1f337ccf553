import Bacchus.Coordinator.Assign
import Bacchus.Coordinator.Challenges

/-!
# Matching a client with an exit

`handle` of `cmd/coordinator` for a `challenge`, a `connect` and the frames of a handshake, with
`prune` and `sweepTick`, which drop sessions. Each connect is sent several times, so its answer
is kept for its copies.
-/

namespace Bacchus.Coordinator

open Admission (Time Credential roleClient roleExit roleRelay)

/-- How long the answer to a connect is kept for its copies. -/
def connectDedupeTTL : Time := 30 * 10 ^ 9

def maxNonceLen : Nat := 64

def maxStashedIssuerCert : Nat := 1024

/-- What is fixed when a coordinator that matches clients starts. -/
structure MatchConfig extends Config where
  /-- Whether a connect has to present a device credential. -/
  deviceGate : Bool
  digest : Digest

/-- Why a connect does not pass the device gate. -/
inductive DeviceRefusal where
  | noChallenge
  | wrongAnswer
  | malformed
  | chain (reason : String)
deriving DecidableEq

def DeviceRefusal.text : DeviceRefusal → String
  | .noChallenge =>
    "no outstanding device-credential challenge for this address — request one with a " ++
      "\"challenge\" message immediately before connecting"
  | .wrongAnswer => "device assertion does not answer the challenge this coordinator issued"
  | .malformed => "devicecred: malformed object"
  | .chain reason => reason

/-- The `assign` sent to the node of a session. -/
structure Assign where
  session : String
  exitAddr : String := ""
  sessionCapBps : Nat
deriving DecidableEq

/-- The `session` sent to the client. -/
structure SessionReply where
  session : String
  exitId : String
  relay : String := ""
  relayTag : String := ""
deriving DecidableEq

/-- The messages sent while clients are matched. -/
inductive Sent where
  | challenge (value : String)
  | reject (refusal : Refusal)
  | rejectDevice (refusal : DeviceRefusal)
  | error (reason : AssignRefusal) (country : String)
  | assign (assign : Assign)
  | session (reply : SessionReply)
  | reselect (sess : String)
  | frame (sess : String)
deriving DecidableEq

/-- An answer kept for copies of its request. -/
structure MintedConnect where
  peer : UDPAddr
  assign : Assign
  reply : SessionReply
  mintedAt : Time

/-- A session minted: for whom, and on which challenge. -/
structure Mint where
  src : UDPAddr
  nonce : String
  session : String
  challenge : Option Nat

/-- What a coordinator holds while it matches clients. -/
structure Matchmaker where
  registry : Registry := {}
  challenges : ChallengeStore
  sessions : Table String Session := ∅
  /-- `mintedConnects`, under the source and the nonce of the request. -/
  minted : Table (UDPAddr × String) MintedConnect := ∅
  /-- Every session minted so far, for the statements. -/
  mints : List Mint := []

/-- Whether `prune` leaves a session. -/
def Session.kept (sess : Session) (now : Time) : Bool :=
  sess.relayId ≠ "" ∧ sess.signaled ∨ now - sess.lastSeen ≤ sessionTTL

/-- Whether the answer to a connect is still given to its copies. -/
def MintedConnect.unexpired (answer : MintedConnect) (now : Time) : Bool :=
  now - answer.mintedAt ≤ connectDedupeTTL

/-- Forget what is stale. -/
def Matchmaker.prune (state : Matchmaker) (now : Time) : Matchmaker :=
  { state with
    registry := state.registry.prune now
    sessions := state.sessions.retain fun _ sess => sess.kept now
    minted := state.minted.retain fun _ answer => answer.unexpired now }

/-- Whether the relay a session was built on still carries it. -/
def Session.carried (sess : Session) (registry : Registry) (now : Time) : Bool :=
  sess.relayId = "" ||
    match registry.relays sess.relayId with
    | none => false
    | some relay => now - relay.lastSeen ≤ ttl / 2 ∧ relay.addr = sess.peer

def Matchmaker.reselectDeadRelays (state : Matchmaker) (now : Time) :
    Matchmaker × List (UDPAddr × Sent) :=
  ({ state with
      sessions := state.sessions.retain fun _ sess => sess.carried state.registry now },
    (state.sessions.entries.filter fun entry =>
      !entry.2.carried state.registry now).map fun entry =>
      (entry.2.client, .reselect entry.1))

/-- `sweepTick`, without its report of silent nodes. -/
def Matchmaker.sweepTick (state : Matchmaker) (now : Time) : Matchmaker × List (UDPAddr × Sent) :=
  (state.prune now).reselectDeadRelays now

section

variable (state : Matchmaker) (now : Time)

/-- A session is dropped for silence, unless it is over a peer relay and was brought up. -/
theorem lookup_sessions_prune {id : String} {sess : Session}
    (held : state.sessions.lookup id = some sess) :
    (sess.relayId ≠ "" ∧ sess.signaled →
      (state.prune now).sessions.lookup id = some sess) ∧
    (¬(sess.relayId ≠ "" ∧ sess.signaled) →
      ((state.prune now).sessions.lookup id = none ↔ sessionTTL < now - sess.lastSeen)) := by
  have kept : sess.kept now ↔
      sess.relayId ≠ "" ∧ sess.signaled ∨ now - sess.lastSeen ≤ sessionTTL :=
    decide_eq_true_iff
  simp only [Matchmaker.prune, Table.lookup_retain, held]
  constructor
  · intro raised
    rw [Option.filter_some, if_pos (kept.mpr (.inl raised))]
  · intro unraised
    rw [Option.filter_some]
    split
    · next stays =>
      have recent := (kept.mp stays).resolve_left unraised
      exact iff_of_false (Option.some_ne_none _) (Int.not_lt.mpr recent)
    · next dropped =>
      refine iff_of_true rfl ?_
      by_contra recent
      exact dropped (kept.mpr (.inr (Int.not_lt.mp recent)))

/-- What is sent about a session: one nudge if it is dropped, else nothing. -/
theorem nudges_reselectDeadRelays (id : String) :
    ((state.reselectDeadRelays now).2.filter fun sent => sent.2 = .reselect id) =
      match state.sessions.lookup id, (state.reselectDeadRelays now).1.sessions.lookup id with
      | some sess, none => [(sess.client, .reselect id)]
      | _, _ => [] := by
  have here : ((fun sent : UDPAddr × Sent => decide (sent.2 = .reselect id)) ∘
      fun entry : Sigma fun _ : String => Session => (entry.2.client, Sent.reselect entry.1)) =
      fun entry => decide (entry.1 = id) := by
    funext entry
    simp
  simp only [Matchmaker.reselectDeadRelays, Table.lookup_retain]
  rw [List.filter_map, here, List.filter_filter]
  simp only [Bool.and_comm (decide _)]
  rw [← List.filter_filter, Table.filter_key]
  cases state.sessions.lookup id with
  | none => rfl
  | some sess =>
    cases carried : sess.carried state.registry now <;> simp [carried, Option.filter_some]

/-- After a sweep every session over a peer relay is over one that is registered, was heard of
within half its lifetime and is where it was. A session dropped for that is announced to its client
once, and nothing else is sent. -/
theorem sweepTick_settles :
    (∀ id sess, (state.sweepTick now).1.sessions.lookup id = some sess →
      sess.relayId ≠ "" →
        ∃ relay, (state.sweepTick now).1.registry.relays sess.relayId = some relay ∧
          now - relay.lastSeen ≤ ttl / 2 ∧ relay.addr = sess.peer) ∧
    (∀ id, ((state.sweepTick now).2.filter fun sent => sent.2 = .reselect id) =
      match (state.prune now).sessions.lookup id, (state.sweepTick now).1.sessions.lookup id with
      | some sess, none => [(sess.client, .reselect id)]
      | _, _ => []) ∧
    (∀ sent ∈ (state.sweepTick now).2, ∃ id, sent.2 = .reselect id) ∧
    ∀ id sess, state.sessions.lookup id = some sess →
      (sess.relayId ≠ "" ∧ sess.signaled = true →
        (state.prune now).sessions.lookup id = some sess) ∧
      (¬(sess.relayId ≠ "" ∧ sess.signaled = true) →
        ((state.prune now).sessions.lookup id = none ↔ sessionTTL < now - sess.lastSeen)) := by
  refine ⟨?_, nudges_reselectDeadRelays (state.prune now) now, ?_,
    fun id sess held => lookup_sessions_prune state now held⟩
  · intro id sess held relayed
    have carried := (Table.lookup_retain_eq_some.mp held).2
    unfold Session.carried at carried
    rw [decide_eq_false relayed, Bool.false_or] at carried
    split at carried
    · cases carried
    · next relay registered => exact ⟨relay, registered, of_decide_eq_true carried⟩
  · intro sent member
    obtain ⟨entry, -, rfl⟩ := List.mem_map.mp member
    exact ⟨entry.1, rfl⟩

end

/-- What a `challenge` finds when it is handled. -/
structure ChallengeMoment extends Moment where
  issueRead : Time
  /-- Whether an issuer's certificate verifies under the root. -/
  certVerifies : String → Bool
  drawn : Option Bytes

/-- `admit` for a client: the credential, if admission is on. -/
def clientCredential (cfg : Config) (moment : Moment) (cred : String) :
    Except Refusal (Option Credential) :=
  match cfg.verifier with
  | none => .ok none
  | some verifier =>
    match verifier.verify moment.revoked cred moment.checked roleClient "" with
    | .ok credential => .ok (some credential)
    | .error failure => .error (.admission failure)

def stashCred (cfg : Config) (cred : String) : String :=
  if cfg.verifier.isNone then "" else cred

def stashIssuerCert (cfg : MatchConfig) (moment : ChallengeMoment) (issuerCert : String) :
    String :=
  if cfg.deviceGate = false ∨ issuerCert = "" ∨ maxStashedIssuerCert < issuerCert.utf8ByteSize ∨
      moment.certVerifies issuerCert = false then ""
  else issuerCert

/-- `handle` for a `challenge`, after `prune`. -/
def Matchmaker.challenge (cfg : MatchConfig) (state : Matchmaker) (moment : ChallengeMoment)
    (src : UDPAddr) (cred issuerCert : String) : Matchmaker × List (UDPAddr × Sent) :=
  match clientCredential cfg.toConfig moment.toMoment cred with
  | .error refusal => (state, [(src, .reject refusal)])
  | .ok _ =>
    if cfg.deviceGate = false then (state, [(src, .challenge "")])
    else
      let outcome := state.challenges.issue moment.drawn src (stashCred cfg.toConfig cred)
        (stashIssuerCert cfg moment issuerCert) moment.issueRead
      ({ state with challenges := outcome.1 },
        [(src, .challenge ((outcome.2.map Text.base64StdEncode).getD ""))])

/-- The fields of a `connect`. -/
structure ConnectRequest where
  nonce : String
  country : String := ""
  mode : String := ""
  firstHop : String := ""
  excludeSessions : List String := []
  cred : String := ""
  issuerCert : String := ""
  challenge : String := ""
  deviceCred : String := ""
  deviceAssert : String := ""

/-- What a `connect` finds when it is handled. The clock is read at several places, the maps are
walked in some order, and the session id is drawn. -/
structure ConnectMoment extends Moment where
  credRead : Time
  certRead : Time
  spendRead : Time
  relayRead : Time
  /-- Why `devicecred` refuses a credential, a certificate and an assertion on a challenge. -/
  presents : (deviceCred issuerCert : String) → (assertion challenge : Bytes) → Option String
  tiers : List TierLimit := []
  ranking : Ranking := {}
  exitWalk : List String
  relayWalk : List String
  drawn : String

/-- `admissionCredFor` and `issuerCertFor`: the store fills in what the request leaves off. -/
def ConnectRequest.resolved (req : ConnectRequest) (store : ChallengeStore)
    (moment : ConnectMoment) (src : UDPAddr) : ConnectRequest :=
  { req with
    cred := if req.cred ≠ "" then req.cred else store.stashedCred src moment.credRead
    issuerCert :=
      if req.issuerCert ≠ "" then req.issuerCert
      else store.stashedIssuerCert src moment.certRead }

/-- The gates before the copies of a request are told apart. -/
def clientGates (cfg : MatchConfig) (moment : ConnectMoment) (req : ConnectRequest) :
    Except Sent (Option Credential) :=
  match clientCredential cfg.toConfig moment.toMoment req.cred with
  | .error refusal => .error (.reject refusal)
  | .ok credential =>
    if moment.policy.allowsAssignment = false then .error (.reject .noPolicy)
    else if req.nonce = "" ∨ maxNonceLen < req.nonce.utf8ByteSize then
      .error (.error .noNonce (Geoip.canonical req.country))
    else .ok credential

/-- `replayMintedConnect`: the answer this request already has. -/
def Matchmaker.replay (state : Matchmaker) (src : UDPAddr) (nonce : String) (now : Time) :
    Option MintedConnect :=
  (state.minted.lookup (src, nonce)).filter fun answer => answer.unexpired now

/-- Why a presentation does not answer the challenge issued. -/
def deviceRefusal (moment : ConnectMoment) (req : ConnectRequest) (issued : Bytes) :
    Option DeviceRefusal :=
  if Text.base64StdDecode req.challenge ≠ some issued then some .wrongAnswer
  else
    match Text.base64StdDecode req.deviceAssert with
    | none => some .malformed
    | some assertion =>
      (moment.presents req.deviceCred req.issuerCert assertion issued).map .chain

/-- `admitDevice`, with the challenge that was spent. A refusal drops the challenge. -/
def admitDevice (cfg : MatchConfig) (store : ChallengeStore) (moment : ConnectMoment)
    (src : UDPAddr) (req : ConnectRequest) :
    ChallengeStore × Except DeviceRefusal (Option PendingChallenge) :=
  if cfg.deviceGate = false then (store, .ok none)
  else
    match store.spend src req.nonce moment.spendRead with
    | (after, none) => (after.drop src, .error .noChallenge)
    | (after, some entry) =>
      match deviceRefusal moment req entry.value with
      | some refusal => (after.drop src, .error refusal)
      | none => (after, .ok (some entry))

/-- The exit of a session, or the first hop of a chain the client assembles itself. -/
def Matchmaker.choose (state : Matchmaker) (moment : ConnectMoment) (src : UDPAddr)
    (req : ConnectRequest) (limits : TierLimit) : Except AssignRefusal ExitNode :=
  if req.firstHop ≠ "" then
    if req.mode ≠ "relay" then .error .hopNotRelayMode
    else resolveFirstHop state.registry req.firstHop
  else
    chooseExit moment.ranking (moment.exitWalk.filterMap state.registry.exits)
      (exitSessions state.sessions moment.now) req.country
      (excludedExits state.sessions src req.excludeSessions) limits

/-- A session with the two messages that announce it. -/
structure Pairing where
  session : Session
  assign : Assign
  reply : SessionReply

/-- The three dispositions of a session: direct, over a peer relay, and the fallback. -/
def Matchmaker.pairing (cfg : MatchConfig) (state : Matchmaker) (moment : ConnectMoment)
    (src : UDPAddr) (req : ConnectRequest) (limits : TierLimit) (exit : ExitNode) : Pairing :=
  let exitId := if req.firstHop ≠ "" then "" else exit.id
  let straight : Pairing :=
    { session := { client := src, peer := exit.udp, exitId, lastSeen := moment.now }
      assign := { session := moment.drawn, sessionCapBps := limits.speedCapBps }
      reply := { session := moment.drawn, exitId } }
  if req.mode = "direct" then straight
  else
    match pickRelay moment.ranking.toRatings (moment.relayWalk.filterMap state.registry.relays)
      exit.id moment.relayRead with
    | some relay =>
      { session :=
          { client := src, peer := relay.addr, relayId := relay.id, exitId,
            lastSeen := moment.now }
        assign :=
          { session := moment.drawn, exitAddr := exit.tcpAddr,
            sessionCapBps := limits.speedCapBps }
        reply :=
          { session := moment.drawn, exitId, relay := "peer",
            relayTag := relayTag cfg.digest relay.id } }
    | none => { straight with reply := { straight.reply with relay := "turn" } }

/-- The session is stored, and its answer kept for the copies of the request. -/
def Matchmaker.mint (state : Matchmaker) (src : UDPAddr) (nonce : String) (now : Time)
    (pairing : Pairing) (challenge : Option Nat) : Matchmaker :=
  { state with
    sessions := state.sessions.insert pairing.reply.session pairing.session
    minted := state.minted.insert (src, nonce)
      { peer := pairing.session.peer, assign := pairing.assign, reply := pairing.reply,
        mintedAt := now }
    mints :=
      { src, nonce, session := pairing.reply.session, challenge } :: state.mints }

/-- What assigns a connect that has passed the device gate. -/
def Matchmaker.assignment (cfg : MatchConfig) (state : Matchmaker) (moment : ConnectMoment)
    (src : UDPAddr) (req : ConnectRequest) (credential : Option Credential) :
    Except AssignRefusal Pairing :=
  match resolveTier cfg.toConfig moment.policy moment.tiers credential with
  | .error refusal => .error refusal
  | .ok limits =>
    match state.choose moment src req limits with
    | .error refusal => .error refusal
    | .ok exit => .ok (state.pairing cfg moment src req limits exit)

/-- `handle` for a `connect`, after `prune`. -/
def Matchmaker.connect (cfg : MatchConfig) (state : Matchmaker) (moment : ConnectMoment)
    (src : UDPAddr) (sent : ConnectRequest) : Matchmaker × List (UDPAddr × Sent) :=
  let req := sent.resolved state.challenges moment src
  match clientGates cfg moment req with
  | .error answer => (state, [(src, answer)])
  | .ok credential =>
    match state.replay src req.nonce moment.now with
    | some answer => (state, [(answer.peer, .assign answer.assign), (src, .session answer.reply)])
    | none =>
      match admitDevice cfg state.challenges moment src req with
      | (store, .error refusal) =>
        ({ state with challenges := store }, [(src, .rejectDevice refusal)])
      | (store, .ok spent) =>
        match state.assignment cfg moment src req credential with
        | .error refusal =>
          ({ state with challenges := store },
            [(src, .error refusal (Geoip.canonical req.country))])
        | .ok pairing =>
          (Matchmaker.mint { state with challenges := store } src req.nonce moment.now
              pairing (spent.map PendingChallenge.issue),
            [(pairing.session.peer, .assign pairing.assign),
              (src, .session pairing.reply)])

variable {cfg : MatchConfig} {moment : ConnectMoment} {req : ConnectRequest}

/-- The device gate narrows the store, and a connect passes on a challenge it spends. -/
theorem admitDevice_cases {store after : ChallengeStore} {src : UDPAddr}
    {outcome : Except DeviceRefusal (Option PendingChallenge)}
    (result : admitDevice cfg store moment src req = (after, outcome)) :
    store.Narrows after ∧ ∀ entry, outcome = .ok (some entry) →
      store.Spent after src req.nonce moment.spendRead entry := by
  unfold admitDevice at result
  split at result
  · cases result
    exact ⟨.refl store, nofun⟩
  · split at result
    · next spentStore spent =>
      cases result
      obtain ⟨-, rfl⟩ | ⟨_, impossible, -⟩ := ChallengeStore.spend_cases spent
      · exact ⟨spentStore.narrows_drop src, nofun⟩
      · cases impossible
    · next spentStore entry spent =>
      obtain ⟨impossible, -⟩ | ⟨_, same, paid⟩ := ChallengeStore.spend_cases spent
      · cases impossible
      · cases same
        split at result
        · cases result
          exact ⟨paid.narrows.trans (spentStore.narrows_drop src), nofun⟩
        · cases result
          refine ⟨paid.narrows, ?_⟩
          rintro _ ⟨⟩
          exact paid

theorem session_pairing (cfg : MatchConfig) (state : Matchmaker) (moment : ConnectMoment)
    (src : UDPAddr) (req : ConnectRequest) (limits : TierLimit) (exit : ExitNode) :
    (state.pairing cfg moment src req limits exit).reply.session = moment.drawn ∧
      (state.pairing cfg moment src req limits exit).session.lastSeen = moment.now := by
  simp only [Matchmaker.pairing]
  split
  · exact ⟨rfl, rfl⟩
  · split <;> exact ⟨rfl, rfl⟩

theorem session_assignment {state : Matchmaker} {src : UDPAddr} {credential : Option Credential}
    {pairing : Pairing}
    (assigned : state.assignment cfg moment src req credential = .ok pairing) :
    pairing.reply.session = moment.drawn ∧ pairing.session.lastSeen = moment.now := by
  unfold Matchmaker.assignment at assigned
  split at assigned
  · cases assigned
  · split at assigned
    · cases assigned
    · cases assigned
      exact session_pairing ..

/-- A connect that mints: not answered before, and paid for by the challenge it spent. -/
structure Minted (state next : Matchmaker) (moment : ConnectMoment) (src : UDPAddr)
    (nonce : String) (store : ChallengeStore) (spent : Option PendingChallenge)
    (pairing : Pairing) : Prop where
  unanswered : state.replay src nonce moment.now = none
  narrows : state.challenges.Narrows store
  paid : ∀ entry, spent = some entry →
    state.challenges.Spent store src nonce moment.spendRead entry
  drawn : pairing.reply.session = moment.drawn
  seen : pairing.session.lastSeen = moment.now
  result : next = Matchmaker.mint { state with challenges := store } src nonce moment.now pairing
    (spent.map PendingChallenge.issue)

/-- The session a client is told of. -/
def sessionReply (sent : List (UDPAddr × Sent)) : Option SessionReply :=
  sent.findSome? fun msg =>
    match msg.2 with
    | .session reply => some reply
    | _ => none

/-- What a connect comes to: a refusal, the answer it already has, or a session. -/
theorem connect_outcomes (cfg : MatchConfig) (state : Matchmaker) (moment : ConnectMoment)
    (src : UDPAddr) (req : ConnectRequest) :
    (∃ store, state.challenges.Narrows store ∧
        (state.connect cfg moment src req).1 = { state with challenges := store } ∧
        sessionReply (state.connect cfg moment src req).2 = none) ∨
      (∃ answer, state.replay src req.nonce moment.now = some answer ∧
        (state.connect cfg moment src req).1 = state ∧
        sessionReply (state.connect cfg moment src req).2 = some answer.reply) ∨
      ∃ store spent pairing,
        Minted state (state.connect cfg moment src req).1 moment src req.nonce store spent
          pairing ∧
        sessionReply (state.connect cfg moment src req).2 = some pairing.reply := by
  simp only [Matchmaker.connect]
  split
  · next answer refused =>
    refine .inl ⟨_, .refl _, rfl, ?_⟩
    unfold clientGates at refused
    split at refused
    · cases refused
      rfl
    · split_ifs at refused <;> (cases refused; rfl)
  · split
    · next answer given => exact .inr (.inl ⟨answer, given, rfl, rfl⟩)
    · next unanswered =>
      split
      · next store refusal gate => exact .inl ⟨store, (admitDevice_cases gate).1, rfl, rfl⟩
      · next store spent gate =>
        obtain ⟨narrows, paid⟩ := admitDevice_cases gate
        split
        · exact .inl ⟨store, narrows, rfl, rfl⟩
        · next pairing assigned =>
          obtain ⟨drawn, seen⟩ := session_assignment assigned
          refine .inr (.inr ⟨store, spent, pairing,
            ⟨unanswered, narrows, ?_, drawn, seen, rfl⟩, rfl⟩)
          rintro entry rfl
          exact paid entry rfl

/-- A connect mints a session, or touches the store of challenges at most. -/
theorem connect_cases (cfg : MatchConfig) (state : Matchmaker) (moment : ConnectMoment)
    (src : UDPAddr) (req : ConnectRequest) :
    (∃ store, state.challenges.Narrows store ∧
        (state.connect cfg moment src req).1 = { state with challenges := store }) ∨
      ∃ store spent pairing, Minted state (state.connect cfg moment src req).1 moment src
        req.nonce store spent pairing := by
  rcases connect_outcomes cfg state moment src req with
    ⟨store, narrows, refused, -⟩ | ⟨answer, -, unchanged, -⟩ | ⟨store, spent, pairing, minted, -⟩
  · exact .inl ⟨store, narrows, refused⟩
  · exact .inl ⟨state.challenges, .refl _, unchanged⟩
  · exact .inr ⟨store, spent, pairing, minted⟩

/-- `handle` for an `offer`, an `answer` and a `candidate`, after `prune`. -/
def Matchmaker.signal (state : Matchmaker) (now : Time) (src : UDPAddr) (id : String) :
    Matchmaker × List (UDPAddr × Sent) :=
  match state.sessions.lookup id with
  | none => (state, [])
  | some sess =>
    ({ state with
        sessions := state.sessions.insert id
          { sess with
            lastSeen := now
            signaled := true
            answered := sess.answered || decide (src = sess.peer) } },
      [(if src = sess.peer then sess.client else sess.peer, .frame id)])

/-- What moves a coordinator that matches clients. -/
inductive Event where
  /-- A message of a node, or one that leaves the tables alone. -/
  | registry (datagram : Datagram)
  | challenge (moment : ChallengeMoment) (src : UDPAddr) (cred issuerCert : String)
  | connect (moment : ConnectMoment) (src : UDPAddr) (req : ConnectRequest)
  | signal (now : Time) (src : UDPAddr) (sess : String)
  /-- A snapshot for a cold start. -/
  | snapshot (now : Time)
  | sweepTick (now : Time)
  | sweepChallenges (now : Time)

/-- One event, with what is sent. -/
def Matchmaker.react (cfg : MatchConfig) (state : Matchmaker) :
    Event → Matchmaker × List (UDPAddr × Sent)
  | .registry datagram =>
    ({ state.prune datagram.moment.now with
        registry := (handle cfg.toConfig state.registry datagram.moment datagram.message
          datagram.src).1 }, [])
  | .challenge moment src cred issuerCert =>
    (state.prune moment.now).challenge cfg moment src cred issuerCert
  | .connect moment src req => (state.prune moment.now).connect cfg moment src req
  | .signal now src sess => (state.prune now).signal now src sess
  | .snapshot now => (state.prune now, [])
  | .sweepTick now => state.sweepTick now
  | .sweepChallenges now => ({ state with challenges := state.challenges.sweep now }, [])

/-- A coordinator that matches clients, from empty tables. -/
def matchmaker (cfg : MatchConfig) : Machine Matchmaker Event where
  initial state :=
    state.registry = {} ∧ state.challenges.entries = ∅ ∧ state.challenges.issued = 0 ∧
      state.sessions = ∅ ∧ state.minted = ∅ ∧ state.mints = []
  step state event := some (state.react cfg event).1

/-- An exit that names its country. -/
def exitRegisters (now : Time) : Event :=
  .registry
    { moment := quietAt now
      message := { kind := .register, id := "e1", role := roleExit, country := "DE" }
      src := ⟨.v4 0xC0000201, 4000⟩ }

/-- A relay, and later the same relay from any address. -/
def relayRegisters (now : Time) (addr : UDPAddr) : Event :=
  .registry
    { moment := quietAt now
      message := { kind := .register, id := "r1", role := roleRelay }
      src := addr }

/-- A challenge of 32 bytes for one client. -/
def challengeAsked (now : Time) : Event :=
  .challenge
    { quietAt now with
      issueRead := now
      certVerifies := fun _ => true
      drawn := some (List.replicate 32 7) }
    ⟨.v4 0xCB007105, 5000⟩ "" ""

/-- One request of that client, as each of its copies arrives. -/
def connectArrives (now : Time) (mode drawn : String) : Event :=
  .connect
    { quietAt now with
      credRead := now
      certRead := now
      spendRead := now
      relayRead := now
      presents := fun _ _ _ _ => none
      exitWalk := ["e1"]
      relayWalk := ["r1"]
      drawn }
    ⟨.v4 0xCB007105, 5000⟩
    { nonce := "n1", country := "DE", mode, deviceAssert := "AAAA",
      challenge := Text.base64StdEncode (List.replicate 32 7) }

/-- Admission is open. -/
def openTo (deviceGate : Bool) : MatchConfig where
  verifier := none
  deviceGate := deviceGate
  digest := ⟨fun _ => List.replicate 32 0, fun _ => rfl⟩

def emptyTables : Matchmaker where
  challenges := { lastSweep := 0 }

/-- A coordinator starts with empty tables. -/
theorem initial_emptyTables (cfg : MatchConfig) : (matchmaker cfg).initial emptyTables :=
  ⟨rfl, rfl, rfl, rfl, rfl, rfl⟩

end Bacchus.Coordinator
