import Bacchus.Chain.Plan
import Bacchus.Coordinator.Registry

/-!
# Pairing a chained session

`attemptWith` on the client: the request names the head of the chain, the coordinator assigns
the relay in front of it, and the reply is checked against the plan.
-/

namespace Bacchus.Chain

open List

/-- How the coordinator says a session is carried. -/
inductive Disposition where
  | peer
  | turn
  | other
deriving DecidableEq

/-- The session reply of a coordinator. -/
structure Reply where
  sid : String
  exitId : String
  relay : Disposition
  tag : String

/-- What an attempt gets back before a session reply is examined. -/
inductive Pairing where
  | noNonce
  | handshakeFailed
  | tooLarge
  | unroutable
  | silent
  | refused
  | session (reply : Reply)

inductive ConnectOutcome where
  | connectOk
  | coordinatorSilent
  | requestTooLarge
  | coordinatorUnroutable
  | coordinatorRefused
  | transportFailed

/-- `attemptResult`. A session is present once the transport is up; it carries its plan, if any. -/
structure AttemptResult where
  session : Option (Option ChainPlan) := none
  sid : String := ""
  exitId : String := ""
  exitPub : Bytes := []
  relay : Disposition := .other
  outcome : ConnectOutcome

/-- `relayDedup`: the tags of relays that failed a dial. The pool keeps none. -/
abbrev RelayDedup := Option (List String)

def RelayDedup.seen (dedup : RelayDedup) (tag : String) : Bool :=
  tag ≠ "" ∧ dedup.any fun failed => tag ∈ failed

def RelayDedup.fail (dedup : RelayDedup) (tag : String) : RelayDedup :=
  if tag = "" then dedup else dedup.map fun failed => tag :: failed

def relayTagFor (digest : Digest) (id : String) : String :=
  Text.hexEncode ((digest.hash ("bacchus-relay-tag\x00" ++ id).toUTF8.toList).take 8)

/-- The assigned relay is no hop of the chain. -/
def verifyChainDisjoint (digest : Digest) (plan : Option ChainPlan) (tag : String) :
    Except ChainError Unit :=
  match plan with
  | none => .ok ()
  | some plan =>
    if tag = "" then .ok ()
    else
      match plan.hops.findIdx? fun hop => relayTagFor digest hop.id = tag with
      | some index => .error (.relayIsHop (index + 1) plan.hops.length)
      | none => .ok ()

/-- The exit an attempt terminates at, and its key. A plan names its own. -/
def terminator (plan : Option ChainPlan) (reply : Reply) : Option (String × Bytes) :=
  match plan with
  | some plan => some (plan.exitId, plan.exitPub)
  | none =>
    match Text.hexDecode reply.exitId with
    | some pub => if pub.length = 32 then some (reply.exitId, pub) else none
    | none => none

/-- `attemptWith` on a session reply; `dialed`: the transport comes up. -/
def acceptReply (digest : Digest) (plan : Option ChainPlan) (reply : Reply) (dedup : RelayDedup)
    (dialed : Bool) : AttemptResult × RelayDedup :=
  match terminator plan reply with
  | none => ({ outcome := .coordinatorRefused }, dedup)
  | some (exitId, exitPub) =>
    if plan.isSome ∧ reply.relay ≠ .peer then
      ({ sid := reply.sid, outcome := .transportFailed }, dedup)
    else
      match verifyChainDisjoint digest plan reply.tag with
      | .error _ => ({ sid := reply.sid, outcome := .transportFailed }, dedup)
      | .ok _ =>
        if reply.relay = .peer ∧ dedup.seen reply.tag = true then
          ({ sid := reply.sid, exitId := reply.exitId, outcome := .transportFailed }, dedup)
        else if dialed then
          ({ session := some plan, sid := reply.sid, exitId, exitPub, relay := reply.relay,
             outcome := .connectOk }, dedup)
        else
          ({ sid := reply.sid, exitId, outcome := .transportFailed },
            if reply.relay = .peer then dedup.fail reply.tag else dedup)

/-- One attempt, by what the coordinator answers. -/
def attemptWith (digest : Digest) (plan : Option ChainPlan) (pairing : Pairing) (dedup : RelayDedup)
    (dialed : Bool) : AttemptResult × RelayDedup :=
  match pairing with
  | .noNonce => ({ outcome := .transportFailed }, dedup)
  | .handshakeFailed => ({ outcome := .coordinatorSilent }, dedup)
  | .tooLarge => ({ outcome := .requestTooLarge }, dedup)
  | .unroutable => ({ outcome := .coordinatorUnroutable }, dedup)
  | .silent => ({ outcome := .coordinatorSilent }, dedup)
  | .refused => ({ outcome := .coordinatorRefused }, dedup)
  | .session reply => acceptReply digest plan reply dedup dialed

variable {digest : Digest} {plan : ChainPlan} {relay : String}

theorem relayTagFor_ne_empty (digest : Digest) (id : String) : relayTagFor digest id ≠ "" := by
  apply Text.hexEncode_ne_empty
  intro empty
  have length := digest.length_hash ("bacchus-relay-tag\x00" ++ id).toUTF8.toList
  have taken := congrArg List.length empty
  rw [length_take, length] at taken
  cases taken

/-- The check passes exactly when no hop has the tag of the relay. -/
theorem verifyChainDisjoint_eq_ok_iff :
    verifyChainDisjoint digest (some plan) (relayTagFor digest relay) = .ok () ↔
      ∀ hop ∈ plan.hops, relayTagFor digest hop.id ≠ relayTagFor digest relay := by
  have tagged := relayTagFor_ne_empty digest relay
  rw [verifyChainDisjoint, if_neg tagged]
  constructor
  · intro passed hop member same
    split at passed
    · cases passed
    · next none =>
      have differs := findIdx?_eq_none_iff.mp none hop member
      simp [same] at differs
  · intro differ
    have none : (plan.hops.findIdx? fun hop =>
        decide (relayTagFor digest hop.id = relayTagFor digest relay)) = none := by
      rw [findIdx?_eq_none_iff]
      intro hop member
      exact decide_eq_false (differ hop member)
    rw [none]

/-- A chained pairing is accepted only from a peer relay whose tag is no hop's. -/
theorem verified_of_connectOk {pairing : Pairing} {dedup : RelayDedup} {dialed : Bool}
    (accepted : (attemptWith digest (some plan) pairing dedup dialed).1.outcome = .connectOk) :
    ∃ reply, pairing = .session reply ∧ reply.relay = .peer ∧
      verifyChainDisjoint digest (some plan) reply.tag = .ok () := by
  cases pairing with
  | session reply =>
    simp only [attemptWith, acceptReply, terminator] at accepted
    split at accepted
    · cases accepted
    · next carried =>
      have peer : reply.relay = .peer := by
        by_contra other
        exact carried ⟨rfl, other⟩
      split at accepted
      · cases accepted
      · next passed => exact ⟨reply, rfl, peer, passed⟩
  | _ => cases accepted

/-- A first dial to a peer relay whose tag is no hop's is accepted. -/
theorem connectOk_of_verified {reply : Reply} (peer : reply.relay = .peer)
    (passed : verifyChainDisjoint digest (some plan) reply.tag = .ok ()) :
    (attemptWith digest (some plan) (.session reply) none true).1.outcome = .connectOk := by
  simp [attemptWith, acceptReply, terminator, peer, passed, RelayDedup.seen]

/-- No hop of an accepted pairing is the relay, if the coordinator names it truly. -/
theorem relay_notMem_hops {reply : Reply} {dedup : RelayDedup} {dialed : Bool}
    (truthful : reply.tag = relayTagFor digest relay)
    (accepted : (attemptWith digest (some plan) (.session reply) dedup dialed).1.outcome =
      .connectOk) : relay ∉ plan.hopIds := by
  obtain ⟨_, same, _, passed⟩ := verified_of_connectOk accepted
  cases same
  rw [truthful, verifyChainDisjoint_eq_ok_iff] at passed
  intro inside
  obtain ⟨hop, member, rfl⟩ := mem_map.mp inside
  exact passed hop member rfl

/-- The relay in front, the hops and the exit. -/
def ChainPlan.nodes (plan : ChainPlan) (relay : String) : List String :=
  relay :: plan.hopIds ++ [plan.exitId]

/-- The checks leave one way in which two nodes of a pairing may coincide. -/
theorem nodup_nodes_iff {dir : RelayDirectory} {depth : Nat} {country pinHead : String}
    (planned : Planned dir depth country pinHead plan) (outside : relay ∉ plan.hopIds) :
    (plan.nodes relay).Nodup ↔ relay ≠ plan.exitId := by
  have inner : (plan.hopIds ++ [plan.exitId]).Nodup := by
    apply nodup_append_comm.mpr
    exact nodup_cons.mpr ⟨planned.apart, planned.distinct⟩
  rw [ChainPlan.nodes, cons_append, nodup_cons]
  constructor
  · rintro ⟨fresh, _⟩ same
    exact fresh (mem_append_right _ (mem_singleton.mpr same))
  · intro different
    refine ⟨?_, inner⟩
    intro member
    rcases mem_append.mp member with hop | exit
    · exact outside hop
    · exact different (mem_singleton.mp exit)

/-- Every accepted pairing with a registered relay has different nodes throughout, unless the exit
of the plan is itself a relay under a tag that passes the check. -/
theorem chained_pairing_distinct {atlas : Atlas} {input : BuildInput}
    {held : Option RelayDirectory} {relayHops : Int} {mode : Mode} {country : String}
    (planned : chainFor atlas input held relayHops mode country = .ok (some plan))
    (digest : Digest) (registry : Coordinator.Registry) :
    (∀ relay reply dedup dialed, (registry.relays relay).isSome = true →
      reply.tag = relayTagFor digest relay →
      (attemptWith digest (some plan) (.session reply) dedup dialed).1.outcome = .connectOk →
      (plan.nodes relay).Nodup) ↔
    ((registry.relays plan.exitId).isSome = true →
      verifyChainDisjoint digest (some plan) (relayTagFor digest plan.exitId) ≠ .ok ()) := by
  obtain ⟨_, _, _, planned⟩ := planned_of_chainFor planned
  constructor
  · intro distinct registered passed
    let reply : Reply := ⟨"", "", .peer, relayTagFor digest plan.exitId⟩
    have accepted := @connectOk_of_verified digest plan reply rfl passed
    have apart := distinct plan.exitId reply none true registered rfl accepted
    exact (nodup_nodes_iff planned planned.apart).mp apart rfl
  · intro unregistered relay reply dedup dialed registered truthful accepted
    apply (nodup_nodes_iff planned (relay_notMem_hops truthful accepted)).mpr
    rintro rfl
    obtain ⟨_, same, _, passed⟩ := verified_of_connectOk accepted
    cases same
    rw [truthful] at passed
    exact unregistered registered passed

/-- A node id of 64 equal digits. -/
def nodeId (digit : Char) : String := .ofList (replicate 64 digit)

/-- An exit in the Netherlands, as a snapshot lists it. -/
def exitEntry (digit : Char) (addr : String) : Entry :=
  { role := "exit", id := nodeId digit, country := "NL", addr }

/-- A client whose key accepts one snapshot, without an AS table. -/
def atlasFor (entries : List Entry) : Atlas where
  key := replicate 32 0
  verifySigned _ _ := some ⟨1000, entries⟩
  lookupAs _ := none

/-- Every draw picks the first candidate, and no node is cooling. -/
def firstDraws : BuildInput where
  strict := ⟨some 0, fun _ => some 0⟩
  relaxed := ⟨some 0, fun _ => some 0⟩
  cooling _ := false

/-- The directory the client holds. -/
def heldDirectory (entries : List Entry) : Option RelayDirectory :=
  (loadRelayDirectory (atlasFor entries) [] 0).toOption

/-- Two exits: a chain of depth two ends at one and is headed by the other. -/
def twoExits : List Entry := [exitEntry 'a' "192.0.2.1:443", exitEntry 'b' "192.0.2.2:443"]

/-- The chain for a relay-mode attempt over the two exits. -/
def twoExitsChain : Except ChainError (Option ChainPlan) :=
  chainFor (atlasFor twoExits) firstDraws (heldDirectory twoExits) 2 .relay "NL"

/-- A registered relay. -/
def relayEntry (digit : Char) : Coordinator.RelayNode where
  id := nodeId digit
  addr := ⟨.v4 0xC0000201, 40000⟩
  ingressPort := 0
  speedCap := 0
  declaredQuota := 0
  exhausted := false
  lastSeen := 0
  claims := {}

/-- A test that a computed chain passes. -/
theorem chain_of_any {result : Except ChainError (Option ChainPlan)} {test : ChainPlan → Bool}
    (computed : (result.toOption.bind id).any test) :
    ∃ plan, result = .ok (some plan) ∧ test plan := by
  obtain ⟨plan, found, passes⟩ := (Option.any_eq_true _ _).mp computed
  refine ⟨plan, ?_, passes⟩
  cases result with
  | error => cases found
  | ok => exact congrArg Except.ok found

theorem twoExitsChain_eq : ∃ plan, twoExitsChain = .ok (some plan) ∧
    plan.hopIds = [nodeId 'b'] ∧ plan.exitId = nodeId 'a' := by
  have computed : (twoExitsChain.toOption.bind id).any (fun plan =>
      decide (plan.hopIds = [nodeId 'b'] ∧ plan.exitId = nodeId 'a')) := by decide +kernel
  obtain ⟨plan, chain, shape⟩ := chain_of_any computed
  exact ⟨plan, chain, of_decide_eq_true shape⟩

/-- The exit of a chain is handed out as the relay before it, and accepted. -/
theorem relay_terminates_chain : ∃ plan, twoExitsChain = .ok (some plan) ∧
    ∀ digest, relayTagFor digest (nodeId 'b') ≠ relayTagFor digest (nodeId 'a') → ∃ node reply,
      Coordinator.pickRelay {} [node] plan.firstHopId 0 = some node ∧
      reply.tag = Coordinator.relayTag digest node.id ∧
      (attemptWith digest (some plan) (.session reply) none true).1.outcome = .connectOk ∧
      ¬ (plan.nodes node.id).Nodup := by
  obtain ⟨plan, planned, hops, exit⟩ := twoExitsChain_eq
  obtain ⟨hop, only, named⟩ : ∃ hop, plan.hops = [hop] ∧ hop.id = nodeId 'b' := by
    obtain ⟨hop, _, shape, named, none⟩ := map_eq_cons_iff.mp hops
    rw [map_eq_nil_iff.mp none] at shape
    exact ⟨hop, shape, named⟩
  refine ⟨plan, planned, fun digest different => ?_⟩
  let reply : Reply := ⟨"s1", "", .peer, relayTagFor digest (nodeId 'a')⟩
  refine ⟨relayEntry 'a', reply, ?_, rfl, ?_, ?_⟩
  · rw [ChainPlan.firstHopId, only]
    simp only [head?_cons, Option.map_some, Option.getD_some, named]
    decide +kernel
  · apply connectOk_of_verified rfl
    apply verifyChainDisjoint_eq_ok_iff.mpr
    intro other member
    rw [only, mem_singleton] at member
    rwa [member, named]
  · intro distinct
    have repeated : (plan.nodes plan.exitId).Nodup := exit ▸ distinct
    simp [ChainPlan.nodes] at repeated

/-- With the relay under one role only, accepted pairings are over different nodes. -/
theorem third_node_relays : ∃ plan, twoExitsChain = .ok (some plan) ∧
    ∀ digest relay reply dedup dialed, relay = nodeId 'c' → reply.tag = relayTagFor digest relay →
      (attemptWith digest (some plan) (.session reply) dedup dialed).1.outcome = .connectOk →
      (plan.nodes relay).Nodup := by
  obtain ⟨plan, planned, _, exit⟩ := twoExitsChain_eq
  refine ⟨plan, planned, ?_⟩
  let registry : Coordinator.Registry :=
    { relays := Function.update (fun _ => none) (nodeId 'c') (some (relayEntry 'c')) }
  have unregistered : (registry.relays plan.exitId).isSome = false := by
    rw [exit]
    decide +kernel
  intro digest relay reply dedup dialed named truthful accepted
  apply (chained_pairing_distinct planned digest registry).mpr _ relay reply dedup dialed _
    truthful accepted
  · intro registered
    rw [unregistered] at registered
    cases registered
  · rw [named]
    decide +kernel

end Bacchus.Chain
