import Bacchus.Admission.Verify
import Bacchus.Coordinator.Country
import Bacchus.Semantics.Machine
import Bacchus.Version

/-!
# The registry of relays and exits

The part of `cmd/coordinator` that writes the registry: `handle` for a `register` and a
`heartbeat`, and `prune`, which every datagram and a timer run.
-/

namespace Bacchus.Coordinator

open Admission (Time Role Verifier AdmissionError roleRelay roleExit)

/-- How long an entry outlives the last word from its node. -/
def ttl : Time := 35 * 10 ^ 9

/-- `relayNode`, without its health record. -/
structure RelayNode where
  id : String
  addr : UDPAddr
  ingressPort : Int
  speedCap : Nat
  declaredQuota : Nat
  exhausted : Bool
  lastSeen : Time
  claims : CountryClaims
deriving DecidableEq

/-- `exitNode`, without its health record. -/
structure ExitNode where
  id : String
  tcpAddr : String
  udp : UDPAddr
  speedCap : Nat
  declaredQuota : Nat
  exhausted : Bool
  lastSeen : Time
  claims : CountryClaims
deriving DecidableEq

/-- The two maps, keyed by node id. A node serving both roles is in both. -/
structure Registry where
  relays : String → Option RelayNode := fun _ => none
  exits : String → Option ExitNode := fun _ => none

/-- `prune`, as far as it concerns the registry. -/
def Registry.prune (registry : Registry) (now : Time) : Registry where
  relays id := (registry.relays id).filter fun node => now - node.lastSeen ≤ ttl
  exits id := (registry.exits id).filter fun node => now - node.lastSeen ≤ ttl

/-- The serve floor of a signed policy. -/
structure ServeFloor where
  minServingVersion : String
  minMeasuredBps : Nat
  minDeclaredQuotaBytes : Nat
deriving DecidableEq

/-- The policy in force: whether one is configured, and the one held. -/
structure PolicyState where
  configured : Bool := false
  held : Option ServeFloor := none

/-- `policyAllowsAssignment`. -/
def PolicyState.allowsAssignment (policy : PolicyState) : Bool :=
  !policy.configured || policy.held.isSome

/-- What is fixed when a coordinator starts; without a verifier admission is open. -/
structure Config where
  verifier : Option Verifier
  servingFloor : Version := {}

/-- What a datagram finds when it is handled: the clock is read for the registry and for a
credential. -/
structure Moment where
  now : Time
  checked : Time
  revoked : String → Bool
  policy : PolicyState := {}
  trustedRating : String → Option Nat := fun _ => none
  geo : Geo

/-- A moment with nothing revoked, no policy and no table of countries. -/
def quietAt (now : Time) : Moment where
  now := now
  checked := now
  revoked _ := false
  geo := ⟨fun _ => none, false, fun _ => ""⟩

/-- Why a message is refused. -/
inductive Refusal where
  | admission (failure : AdmissionError)
  | noValidRelease (release : String)
  | belowServingVersion (release floor : Version)
  | belowDeclaredQuota (declared floor : Nat)
  | belowMeasured (measured floor : Nat)
  | noPolicy
deriving DecidableEq

/-- `policyServingFloor`: a held policy decides, the flag is the default. -/
def policyServingFloor (cfg : Config) (policy : PolicyState) : Version :=
  match policy.held with
  | none => cfg.servingFloor
  | some floor =>
    match Version.parse floor.minServingVersion with
    | .ok version => version
    | .error _ => cfg.servingFloor

def versionCheck (cfg : Config) (policy : PolicyState) (release : String) : Option Refusal :=
  let floor := policyServingFloor cfg policy
  if floor = {} then none
  else
    match Version.parse release with
    | .error _ => some (.noValidRelease release)
    | .ok version =>
      if version.servingAllowed floor then none else some (.belowServingVersion version floor)

/-- `meetsDeclaredQuotaFloor`. A node that declares nothing passes. -/
def meetsDeclaredQuotaFloor (policy : PolicyState) (declared : Nat) : Option Refusal :=
  let floor := (policy.held.map ServeFloor.minDeclaredQuotaBytes).getD 0
  if floor = 0 ∨ declared = 0 ∨ floor ≤ declared then none
  else some (.belowDeclaredQuota declared floor)

/-- `meetsMeasuredFloor`. A node without a trusted rating passes. -/
def meetsMeasuredFloor (moment : Moment) (id : String) : Option Refusal :=
  let floor := (moment.policy.held.map ServeFloor.minMeasuredBps).getD 0
  match moment.trustedRating id with
  | none => none
  | some measured => if floor ≤ measured then none else some (.belowMeasured measured floor)

def servingCheck (cfg : Config) (moment : Moment) (release id : String) (declaredQuota : Nat) :
    Option Refusal :=
  versionCheck cfg moment.policy release <|>
    meetsDeclaredQuotaFloor moment.policy declaredQuota <|> meetsMeasuredFloor moment id

/-- The kinds of messages told apart here. -/
inductive Kind where
  | register
  | heartbeat
  /-- Any message that leaves the registry alone. -/
  | other
deriving DecidableEq

/-- The fields of `wire` that the registry reads. -/
structure Message where
  kind : Kind
  id : String
  role : Role := ""
  cred : String := ""
  addr : String := ""
  country : String := ""
  release : String := ""
  ingressPort : Int := 0
  speedCap : Nat := 0
  declaredQuotaBytes : Nat := 0
  quotaState : String := ""

/-- `admit`: the refusal, if admission is on and the credential fails. -/
def admission (cfg : Config) (moment : Moment) (msg : Message) (want : Role)
    (subject : String) : Option Refusal :=
  match cfg.verifier with
  | none => none
  | some verifier =>
    match verifier.verify moment.revoked msg.cred moment.checked want subject with
    | .ok _ => none
    | .error failure => some (.admission failure)

/-- The three gates of a `register`, in order. -/
def registerGates (cfg : Config) (moment : Moment) (msg : Message) : Option Refusal :=
  admission cfg moment msg msg.role msg.id <|>
    servingCheck cfg moment msg.release msg.id msg.declaredQuotaBytes <|>
    if moment.policy.allowsAssignment then none else some .noPolicy

def validIngressPort (port : Int) : Bool := 1 ≤ port ∧ port ≤ 65535

/-- The relay a `register` stores; the entry is replaced as a whole. -/
def Message.relayNode (msg : Message) (moment : Moment) (src : UDPAddr) : RelayNode where
  id := msg.id
  addr := src
  ingressPort := if validIngressPort msg.ingressPort then msg.ingressPort else 0
  speedCap := msg.speedCap
  declaredQuota := msg.declaredQuotaBytes
  exhausted := msg.quotaState = "exhausted"
  lastSeen := moment.now
  claims := moment.geo.deriveCountry msg.id src msg.country

/-- The exit a `register` stores. -/
def Message.exitNode (msg : Message) (moment : Moment) (src : UDPAddr) : ExitNode where
  id := msg.id
  tcpAddr := msg.addr
  udp := src
  speedCap := msg.speedCap
  declaredQuota := msg.declaredQuotaBytes
  exhausted := msg.quotaState = "exhausted"
  lastSeen := moment.now
  claims := moment.geo.deriveExitCountry msg.id src msg.country msg.addr

/-- A `register` that has passed the gates. Other roles store nothing. -/
def Registry.store (registry : Registry) (moment : Moment) (msg : Message) (src : UDPAddr) :
    Registry :=
  if msg.role = roleRelay then
    { registry with relays :=
        Function.update registry.relays msg.id (some (msg.relayNode moment src)) }
  else if msg.role = roleExit then
    { registry with exits :=
        Function.update registry.exits msg.id (some (msg.exitNode moment src)) }
  else registry

/-- A `heartbeat` on a relay. -/
def RelayNode.beat (node : RelayNode) (moment : Moment) (id : String) (src : UDPAddr) : RelayNode :=
  { node with
    lastSeen := moment.now
    addr := src
    claims := moment.geo.rederiveCountry id src node.claims }

/-- A `heartbeat` on an exit. -/
def ExitNode.beat (node : ExitNode) (moment : Moment) (id : String) (src : UDPAddr) : ExitNode :=
  { node with
    lastSeen := moment.now
    udp := src
    claims := moment.geo.rederiveExitCountry id src node.tcpAddr node.claims }

/-- A `heartbeat`: the entries of the id are refreshed, if any. -/
def Registry.heartbeat (registry : Registry) (moment : Moment) (id : String) (src : UDPAddr) :
    Registry where
  relays := Function.update registry.relays id
    ((registry.relays id).map fun node => node.beat moment id src)
  exits := Function.update registry.exits id
    ((registry.exits id).map fun node => node.beat moment id src)

/-- `handle`, with what it answers to a refused registration. -/
def handle (cfg : Config) (registry : Registry) (moment : Moment) (msg : Message)
    (src : UDPAddr) : Registry × Option Refusal :=
  let registry := registry.prune moment.now
  match msg.kind with
  | .register =>
    match registerGates cfg moment msg with
    | some refusal => (registry, some refusal)
    | none => (registry.store moment msg src, none)
  | .heartbeat => (registry.heartbeat moment msg.id src, none)
  | .other => (registry, none)

/-- A datagram as the coordinator handles it. -/
structure Datagram where
  moment : Moment
  message : Message
  src : UDPAddr

/-- What changes the registry. -/
inductive Label where
  | datagram (datagram : Datagram)
  /-- The timer. -/
  | sweep (now : Time)

/-- A coordinator, from an empty registry. -/
def coordinator (cfg : Config) : Machine Registry Label where
  initial registry := registry = {}
  step registry label := some <|
    match label with
    | .datagram received => (handle cfg registry received.moment received.message received.src).1
    | .sweep now => registry.prune now

/-- `relayTag`: what a client is told of the relay it was assigned. -/
def relayTag (digest : Digest) (id : String) : String :=
  Text.hexEncode ((digest.hash ("bacchus-relay-tag\x00" ++ id).toUTF8.toList).take 8)

/-- The ratings of nodes, and the floor for them, which is off as shipped. -/
structure Ratings where
  serveFloor : Nat := 0
  usable : Option (String → Nat → Nat) := none

def Ratings.measuredUsable (ratings : Ratings) (id : String) (declared : Nat) : Nat :=
  match ratings.usable with
  | none => declared
  | some usable => usable id declared

def Ratings.meetsServeFloor (ratings : Ratings) (id : String) (declared : Nat) : Bool :=
  ratings.serveFloor ≤ ratings.measuredUsable id declared

/-- The filters of `pickRelay` on one entry. -/
def RelayNode.assignable (node : RelayNode) (ratings : Ratings) (excludeId : String) (now : Time) :
    Bool :=
  node.id ≠ excludeId ∧ now - node.lastSeen ≤ ttl / 2 ∧ node.exhausted = false ∧
    ratings.meetsServeFloor node.id node.speedCap

/-- `pickRelay`: the first assignable entry in the order the map is walked. -/
def pickRelay (ratings : Ratings) (order : List RelayNode) (excludeId : String) (now : Time) :
    Option RelayNode :=
  order.find? fun node => node.assignable ratings excludeId now

end Bacchus.Coordinator
