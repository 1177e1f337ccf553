import Bacchus.Chain.Pairing
import Bacchus.Semantics.Table

/-!
# Where a node connects to for its streams

A stream names a target. An exit connects to it. Any node forwards an onion layer to an address
of the signed directory, and a relay does nothing else. The directory is looked up before a slot
is taken and the next hop dialed, and may be replaced at any time.
-/

namespace Bacchus.Forwarding

open Chain (Atlas DirectoryError Entry RelayDirectory Snapshot Time loadRelayDirectory)
open List

/-- The bytes of a text. -/
def textBytes (text : String) : Bytes := text.toUTF8.toList

def acctSentinel : Bytes := textBytes "bacchus-accounting.invalid:0"
def probeSentinel : Bytes := textBytes "bacchus-probe.invalid:0"
def udpTargetPrefix : Bytes := textBytes "udp:"
def hopTargetPrefix : Bytes := textBytes "hop:"

def maxTargetPrefixLen : Nat := udpTargetPrefix.length

inductive TargetPrefix where
  | bare
  | udp
  | hop
deriving DecidableEq

def splitTargetPrefix (target : Bytes) : TargetPrefix × Bytes :=
  if udpTargetPrefix <+: target then (.udp, target.drop udpTargetPrefix.length)
  else if hopTargetPrefix <+: target then (.hop, target.drop hopTargetPrefix.length)
  else (.bare, target)

/-- `net.SplitHostPort` of a target, which need not be a text. -/
def splitHostPort (target : Bytes) : Option (Bytes × Bytes) :=
  let colon := 0x3A
  let opening := 0x5B
  let closing := 0x5D
  let port := (target.reverse.takeWhile (· ≠ colon)).reverse
  let before := ((target.reverse.dropWhile (· ≠ colon)).drop 1).reverse
  if colon ∉ target then none
  else if target.head? = some opening then
    let host := target.tail.takeWhile (· ≠ closing)
    if before = opening :: host ++ [closing] ∧ opening ∉ target.tail ∧ closing ∉ port then
      some (host, port)
    else none
  else if colon ∈ before ∨ opening ∈ target ∨ closing ∈ target then none
  else some (before, port)

/-- What the handshake accepts for a target. -/
def validTarget (target : Bytes) : Bool :=
  target ≠ [] ∧ target.length ≤ 255 + maxTargetPrefixLen ∧
    (splitHostPort (splitTargetPrefix target).2).isSome

/-- The target asks for an onion layer to be forwarded. -/
def Onion (target : Bytes) : Prop := (splitTargetPrefix target).1 = .hop

instance (target : Bytes) : Decidable (Onion target) :=
  inferInstanceAs (Decidable ((splitTargetPrefix target).1 = .hop))

/-- An onion target is the address of the next hop behind the marker. -/
theorem eq_of_onion {target : Bytes} (onion : Onion target) :
    target = hopTargetPrefix ++ (splitTargetPrefix target).2 := by
  unfold Onion at onion
  unfold splitTargetPrefix at onion ⊢
  split_ifs at onion ⊢ with udp hop
  exact (prefix_append_drop hop)

/-- `dialable` and `own` of `relayDirectory`. -/
structure HopIndex where
  dialable : Bytes → Bool := fun _ => false
  own : Bytes → Bool := fun _ => false

/-- Put an address in a set; one that is empty is left out. -/
def mark (addresses : Bytes → Bool) (address : String) : Bytes → Bool :=
  if address = "" then addresses else Function.update addresses (textBytes address) true

/-- The loop of `loadRelayDirectory`, for the node with the id `self`. -/
def HopIndex.add (self : String) (index : HopIndex) (entry : Entry) : HopIndex where
  dialable := mark (mark index.dialable entry.addr) entry.ingress
  own :=
    if self ≠ "" ∧ entry.id = self then mark (mark index.own entry.addr) entry.ingress
    else index.own

/-- A directory that was signed, as a forwarding node holds it. -/
structure HeldDirectory (atlas : Atlas) where
  signed : Bytes
  snapshot : Snapshot
  verified : atlas.verifySigned atlas.key signed = some snapshot

def HeldDirectory.index {atlas : Atlas} (held : HeldDirectory atlas) (self : String) : HopIndex :=
  held.snapshot.entries.foldl (HopIndex.add self) {}

/-- `loadRelayDirectory`, of which a forwarding node keeps what it indexes. -/
def loadForwardDirectory (atlas : Atlas) (signed : Bytes) (now : Time) :
    Except DirectoryError (HeldDirectory atlas) :=
  if atlas.key.length ≠ 32 then .error .noKey
  else
    match verified : atlas.verifySigned atlas.key signed with
    | none => .error .unverified
    | some snapshot =>
      if snapshot.expiresAt < now then .error .expired
      else if (snapshot.entries.foldl RelayDirectory.add {}).hops = [] then .error .noHop
      else .ok ⟨signed, snapshot, verified⟩

/-- It is the same snapshot that a client chains over. -/
theorem loadForwardDirectory_map (atlas : Atlas) (signed : Bytes) (now : Time) :
    (loadForwardDirectory atlas signed now).map
        (fun held => held.snapshot.entries.foldl RelayDirectory.add {}) =
      loadRelayDirectory atlas signed now := by
  unfold loadForwardDirectory loadRelayDirectory
  split_ifs
  · rfl
  split
  case h_1 unverified =>
    rw [unverified]
    rfl
  case h_2 snapshot verified =>
    simp only [verified]
    split_ifs
    · rfl
    · rfl
    · rfl

/-- A node can be reached at the address. -/
def Entry.ReachedAt (entry : Entry) (address : Bytes) : Prop :=
  entry.addr ≠ "" ∧ address = textBytes entry.addr ∨
    entry.ingress ≠ "" ∧ address = textBytes entry.ingress

/-- The signed directory lists the address. -/
def HeldDirectory.Lists {atlas : Atlas} (held : HeldDirectory atlas) (address : Bytes) : Prop :=
  ∃ entry ∈ held.snapshot.entries, Entry.ReachedAt entry address

theorem mark_eq_true {addresses : Bytes → Bool} {text : String} {address : Bytes} :
    mark addresses text address ↔
      addresses address ∨ text ≠ "" ∧ address = textBytes text := by
  unfold mark
  split_ifs with empty
  · simp [empty]
  · by_cases same : address = textBytes text
    · simp [same, empty]
    · simp [same]

theorem dialable_foldl (self : String) (entries : List Entry) (index : HopIndex) (address : Bytes) :
    (entries.foldl (HopIndex.add self) index).dialable address ↔
      index.dialable address ∨ ∃ entry ∈ entries, Entry.ReachedAt entry address := by
  induction entries generalizing index with
  | nil => simp
  | cons entry entries ih =>
    rw [foldl_cons, ih, exists_mem_cons_iff, ← or_assoc]
    apply or_congr_left
    simp only [HopIndex.add, mark_eq_true, Entry.ReachedAt, or_assoc]

/-- The allow-list is what the signed directory lists. -/
theorem HeldDirectory.dialable_iff {atlas : Atlas} (held : HeldDirectory atlas) (self : String)
    (address : Bytes) : (held.index self).dialable address ↔ held.Lists address := by
  unfold HeldDirectory.index HeldDirectory.Lists
  rw [dialable_foldl]
  simp

/-- `forwardPeer`. A pacer is known by the order they were made in; without a rate there is none. -/
structure ForwardPeer where
  circuits : Int := 0
  pace : Option Nat
  saturated : Bool := false
  refused : Nat := 0
  /-- The peer is in the list of the idle ones. -/
  idle : Bool := false

structure ForwardLimits where
  maxPerPeer : Nat
  maxTotal : Nat
  peerRate : Nat
  total : Nat := 0
  saturated : Bool := false
  refused : Nat := 0
  peers : Table String ForwardPeer := ∅
  /-- The peers without a circuit, the last one to become idle first. -/
  idle : List String := []
  /-- How many pacers were made. -/
  made : Nat := 0

def defaultForwardMaxPerPeer : Int := 32
def defaultForwardMaxTotal : Int := 256

def newForwardLimits (perPeer total : Int) (peerRate : Nat) : ForwardLimits :=
  let perPeer := if perPeer ≤ 0 then defaultForwardMaxPerPeer else perPeer
  let total := if total ≤ 0 then defaultForwardMaxTotal else total
  { maxPerPeer := (min perPeer total).toNat, maxTotal := total.toNat, peerRate }

/-- The reasons a hop gives for not forwarding. -/
inductive HopRefusal where
  | nodeBusy
  | peerBusy
  | notInMesh
  | selfTarget
  | forwardingOff
deriving DecidableEq

def HopRefusal.text : HopRefusal → String
  | .nodeBusy => "node-busy"
  | .peerBusy => "peer-busy"
  | .notInMesh => "not-in-mesh"
  | .selfTarget => "self-target"
  | .forwardingOff => "forwarding-off"

namespace ForwardLimits

/-- `capacity.NewLimiter` of the rate of a peer. -/
def newPeer (limits : ForwardLimits) : ForwardPeer :=
  { pace := if limits.peerRate = 0 then none else some limits.made }

/-- The peer an acquisition is for, no longer idle, and its limits. -/
def activate (limits : ForwardLimits) (peer : String) : ForwardPeer × ForwardLimits :=
  match limits.peers.lookup peer with
  | none =>
    (limits.newPeer,
      { limits with
        peers := limits.peers.insert peer limits.newPeer
        made := if limits.peerRate = 0 then limits.made else limits.made + 1 })
  | some found =>
    if found.idle then
      ({ found with idle := false },
        { limits with
          peers := limits.peers.insert peer { found with idle := false }
          idle := limits.idle.erase peer })
    else (found, limits)

/-- The pacer of the circuit or why there is none, and whether a refusal is the first of its
kind. -/
def acquire (limits : ForwardLimits) (peer : String) :
    ForwardLimits × Except HopRefusal (Option Nat) × Bool :=
  if limits.maxTotal ≤ limits.total then
    ({ limits with saturated := true, refused := limits.refused + 1 }, .error .nodeBusy,
      !limits.saturated)
  else
    let (holder, limits) := limits.activate peer
    if limits.maxPerPeer ≤ holder.circuits then
      ({ limits with
          peers :=
            if holder.circuits = 0 then limits.peers.erase peer
            else limits.peers.insert peer
              { holder with saturated := true, refused := holder.refused + 1 } },
        .error .peerBusy, !holder.saturated)
    else
      ({ limits with
          peers := limits.peers.insert peer { holder with circuits := holder.circuits + 1 }
          total := limits.total + 1 },
        .ok holder.pace, false)

/-- The loop of `retirePeer`, which drops the peers that were idle for longest. -/
def evict : (rounds : Nat) → ForwardLimits → ForwardLimits
  | 0, limits => limits
  | rounds + 1, limits =>
    if limits.idle.length ≤ limits.maxTotal then limits
    else
      match limits.idle.getLast? with
      | none => limits
      | some back =>
        evict rounds
          { limits with idle := limits.idle.dropLast, peers := limits.peers.erase back }

def retirePeer (limits : ForwardLimits) (peer : String) (holder : ForwardPeer) : ForwardLimits :=
  evict (limits.idle.length + 1)
    { limits with
      peers := limits.peers.insert peer { holder with idle := true }
      idle := peer :: limits.idle }

/-- How many refusals the episodes that end here had, if one ends. -/
def release (limits : ForwardLimits) (peer : String) : ForwardLimits × Option Nat :=
  let ended := if limits.saturated then some limits.refused else none
  let freed :=
    { limits with
      total := limits.total - 1
      saturated := false
      refused := if limits.saturated then 0 else limits.refused }
  match limits.peers.lookup peer with
  | none => (freed, ended)
  | some holder =>
    let left : ForwardPeer :=
      { holder with
        circuits := holder.circuits - 1
        saturated := false
        refused := if holder.saturated then 0 else holder.refused }
    let total := if holder.saturated then some (ended.getD 0 + holder.refused) else ended
    if left.circuits ≤ 0 then (freed.retirePeer peer left, total)
    else ({ freed with peers := freed.peers.insert peer left }, total)

end ForwardLimits

structure NodeConfig where
  id : String
  client : Bool := false
  relay : Bool := false
  exit : Bool := false
  advertise : String := ""
  relayIngress : String := ""
  exitKeyHex : String := ""
  relayHops : Int := 0
  /-- The signed directory a node is built with; empty if there is none. -/
  relayDirectory : Bytes := []
  relayDirectoryPath : String := ""
  relayForwardMaxPerPeer : Int := 0
  relayForwardMaxTotal : Int := 0
  relayForwardPeerRate : Nat := 0

def relayHopsMax : Int := 4

inductive SetupError where
  | tooManyHops
  | needsRelayRole
  | needsExitKey
  | ingressNeedsDirectory
  | chainNeedsDirectory
  | directory (cause : DirectoryError)

def setupRelayChaining (atlas : Atlas) (cfg : NodeConfig) (now : Time) :
    Except SetupError (Option (HeldDirectory atlas)) :=
  let wantsForward := cfg.relayIngress ≠ ""
  let wantsChain := cfg.client ∧ 2 ≤ cfg.relayHops
  if relayHopsMax < cfg.relayHops then .error .tooManyHops
  else if wantsForward ∧ cfg.relay = false then .error .needsRelayRole
  else if wantsForward ∧ Netip.trimSpace cfg.exitKeyHex = "" then .error .needsExitKey
  else if wantsForward ∧ cfg.relayDirectory = [] then .error .ingressNeedsDirectory
  else if wantsChain ∧ cfg.relayDirectory = [] then .error .chainNeedsDirectory
  else if cfg.relayDirectory = [] then .ok none
  else
    match loadForwardDirectory atlas cfg.relayDirectory now with
    | .error cause => .error (.directory cause)
    | .ok held => .ok (some held)

/-- How a stream ended. -/
inductive Ending where
  | accounting
  | probe
  | egressRefused
  | refused (reason : HopRefusal)
  | unresolved
  | undialed
  | closed

/-- What a stream does next. `exitTerminate` is cut at every load of the directory and every way
out. -/
inductive Stage where
  | dispatching
  /-- Whether the node forwards at all. -/
  | admitting (next : Bytes)
  /-- Whether the next hop is the node itself. -/
  | comparing (next : Bytes)
  | lookingUp (next : Bytes)
  /-- The directory had the next hop. -/
  | acquiring (next : Bytes)
  | dialing (next : Bytes)
  | splicing
  | releasing (ending : Ending)
  | resolvingUDP (addr : Bytes)
  | dialingUDP (addr : Bytes)
  | dialingTCP
  | copying
  | ended (ending : Ending)

structure Stream where
  target : Bytes
  /-- `forwardPeerKey` of the stream. -/
  peer : String
  stage : Stage := .dispatching

/-- The host at the other end, or nothing if it has no address. -/
def forwardPeerKey (remote : Option String) : String := (remote.map Netip.hostOf).getD ""

inductive Network where
  | tcp
  | udp

/-- A connection or a socket that was opened, or tried to be, for a stream. -/
structure Opened (atlas : Atlas) where
  network : Network
  /-- The target of the stream. -/
  target : Bytes
  address : Bytes
  /-- The directory the node held then. -/
  held : Option (HeldDirectory atlas)

structure Node (atlas : Atlas) where
  directory : Option (HeldDirectory atlas)
  limits : ForwardLimits
  streams : List Stream := []
  opened : List (Opened atlas) := []

section

variable {atlas : Atlas} (cfg : NodeConfig)

namespace Node

def forwardOn (node : Node atlas) : Bool :=
  cfg.relayIngress ≠ "" ∧ node.directory.isSome

def isSelfAddr (node : Node atlas) (address : Bytes) : Bool :=
  if address = [] then false
  else
    node.directory.any (fun held => (held.index cfg.id).own address) ∨
      address = textBytes cfg.relayIngress ∨
      cfg.advertise ≠ "" ∧ address = textBytes cfg.advertise

/-- The allow-list of the directory held now; a stream gets here after `forwardOn`, and none is
taken away. -/
def lists (node : Node atlas) (next : Bytes) : Bool :=
  node.directory.any fun held => (held.index cfg.id).dialable next

/-- Open something for a stream. -/
def connect (node : Node atlas) (network : Network) (stream : Stream) (address : Bytes) :
    Node atlas :=
  { node with opened := node.opened ++ [⟨network, stream.target, address, node.directory⟩] }

/-- The branches of `exitTerminate`. What egresses asks for the exit role. -/
def dispatch (target : Bytes) : Stage :=
  if target = acctSentinel then .ended .accounting
  else if target = probeSentinel then .ended .probe
  else
    match splitTargetPrefix target with
    | (.hop, next) => .admitting next
    | (.udp, addr) => if cfg.exit = false then .ended .egressRefused else .resolvingUDP addr
    | (.bare, _) => if cfg.exit = false then .ended .egressRefused else .dialingTCP

/-- The next action of a stream and where it leaves it; `succeeds` is what came of a dial or a
resolution. -/
def act (node : Node atlas) (stream : Stream) (succeeds : Bool) : Node atlas × Stage :=
  match stream.stage with
  | .dispatching => (node, dispatch cfg stream.target)
  | .admitting next =>
    if node.forwardOn cfg then (node, .comparing next)
    else (node, .ended (.refused .forwardingOff))
  | .comparing next =>
    if node.isSelfAddr cfg next then (node, .ended (.refused .selfTarget))
    else (node, .lookingUp next)
  | .lookingUp next =>
    if node.lists cfg next then (node, .acquiring next)
    else (node, .ended (.refused .notInMesh))
  | .acquiring next =>
    match node.limits.acquire stream.peer with
    | (limits, .error reason, _) => ({ node with limits }, .ended (.refused reason))
    | (limits, .ok _, _) => ({ node with limits }, .dialing next)
  | .dialing next =>
    (node.connect .tcp stream next, if succeeds then .splicing else .releasing .undialed)
  | .splicing => (node, .releasing .closed)
  | .releasing ending =>
    ({ node with limits := (node.limits.release stream.peer).1 }, .ended ending)
  | .resolvingUDP addr => (node, if succeeds then .dialingUDP addr else .ended .unresolved)
  | .dialingUDP addr =>
    (node.connect .udp stream addr, if succeeds then .copying else .ended .undialed)
  | .dialingTCP =>
    (node.connect .tcp stream stream.target, if succeeds then .copying else .ended .undialed)
  | .copying => (node, .ended .closed)
  | .ended ending => (node, .ended ending)

/-- `reloadRelayDir`; what does not load leaves the directory. -/
def reload (node : Node atlas) (file : Option Bytes) (now : Time) : Node atlas :=
  match file with
  | none => node
  | some signed =>
    match loadForwardDirectory atlas signed now with
    | .error _ => node
    | .ok fresh => { node with directory := some fresh }

end Node

inductive Label where
  /-- A stream arrives, with the target its handshake gave, if it gave one. -/
  | accept (remote : Option String) (target : Option Bytes)
  /-- A stream takes its next action. -/
  | advance (stream : Nat) (succeeds : Bool)
  /-- The loop reads the directory file. -/
  | reload (file : Option Bytes) (now : Time)

/-- A node serving streams while its directory is reloaded. -/
def forwarding (atlas : Atlas) (cfg : NodeConfig) : Machine (Node atlas) Label where
  initial node := ∃ now, setupRelayChaining atlas cfg now = .ok node.directory ∧
    node.limits = newForwardLimits cfg.relayForwardMaxPerPeer cfg.relayForwardMaxTotal
      cfg.relayForwardPeerRate ∧
    node.streams = [] ∧ node.opened = []
  step node label :=
    match label with
    | .accept _ none => some node
    | .accept remote (some target) =>
      if validTarget target then
        some { node with streams := node.streams ++ [{ target, peer := forwardPeerKey remote }] }
      else some node
    | .advance pos succeeds =>
      match node.streams[pos]? with
      | none => none
      | some stream =>
        let (after, stage) := node.act cfg stream succeeds
        some { after with streams := node.streams.set pos { stream with stage } }
    | .reload file now =>
      if node.directory.isNone ∨ cfg.relayDirectoryPath = "" then none
      else some (node.reload file now)

/-- The directory held when it was opened lists the address. -/
def Opened.Listed (opened : Opened atlas) : Prop :=
  ∃ held, opened.held = some held ∧ held.Lists opened.address

/-- An onion forward: the target's next hop, over TCP, and listed. -/
structure Opened.Forward (opened : Opened atlas) : Prop where
  tcp : opened.network = .tcp
  marked : opened.target = hopTargetPrefix ++ opened.address
  listed : opened.Listed

/-- The address a stream has looked up and not yet dialed. -/
def Stage.pending : Stage → Option Bytes
  | .acquiring next => some next
  | .dialing next => some next
  | _ => none

/-- What a stage says about the target of its stream. -/
def Stage.Fits (target : Bytes) : Stage → Prop
  | .admitting next | .comparing next | .lookingUp next | .acquiring next | .dialing next =>
    target = hopTargetPrefix ++ next
  | .resolvingUDP _ | .dialingUDP _ | .dialingTCP => cfg.exit ∧ ¬ Onion target
  | .dispatching | .splicing | .releasing _ | .copying | .ended _ => True

/-- A reload keeps every address looked up and not yet dialed. -/
def Steady (node : Node atlas) : Label → Prop
  | .reload (some signed) now => ∀ fresh, loadForwardDirectory atlas signed now = .ok fresh →
      ∀ stream ∈ node.streams, ∀ next, stream.stage.pending = some next → fresh.Lists next
  | _ => True

/-- What holds of a node in every state. -/
structure Confined (node : Node atlas) : Prop where
  fits : ∀ stream ∈ node.streams, stream.stage.Fits cfg stream.target
  looked : ∀ stream ∈ node.streams, ∀ next, stream.stage.pending = some next →
    ∃ held, node.directory = some held ∧ held.Lists next
  forwards : ∀ opened ∈ node.opened, cfg.exit = false ∨ Onion opened.target → opened.Forward

variable {cfg} {node : Node atlas}

/-- A target is served without a dial, forwarded, or egresses from an exit. -/
theorem dispatch_cases (target : Bytes) :
    (∃ ending, Node.dispatch cfg target = .ended ending) ∨
      (∃ next, Node.dispatch cfg target = .admitting next ∧ target = hopTargetPrefix ++ next) ∨
      cfg.exit ∧ ¬ Onion target ∧ (Node.dispatch cfg target = .dialingTCP ∨
          ∃ addr, Node.dispatch cfg target = .resolvingUDP addr) := by
  unfold Node.dispatch
  by_cases accounting : target = acctSentinel
  · exact .inl ⟨.accounting, if_pos accounting⟩
  by_cases probe : target = probeSentinel
  · exact .inl ⟨.probe, by rw [if_neg accounting, if_pos probe]⟩
  rw [if_neg accounting, if_neg probe]
  cases parts : splitTargetPrefix target with
  | mk marker rest =>
    cases marker with
    | hop =>
      have marked := eq_of_onion (congrArg Prod.fst parts : Onion target)
      rw [parts] at marked
      exact .inr (.inl ⟨rest, rfl, marked⟩)
    | bare | udp =>
      have other : ¬ Onion target := by simp [Onion, parts]
      cases cfg.exit with
      | false => exact .inl ⟨.egressRefused, rfl⟩
      | true => exact .inr (.inr ⟨rfl, other, by simp⟩)

theorem lists_iff {next : Bytes} :
    node.lists cfg next ↔ ∃ held, node.directory = some held ∧ held.Lists next := by
  unfold Node.lists
  rw [Option.any_eq_true]
  simp only [HeldDirectory.dialable_iff]

/-- What one action of a stream can do. -/
structure Acts (cfg : NodeConfig) (node : Node atlas) (stream : Stream) (after : Node atlas)
    (stage : Stage) : Prop where
  directory : after.directory = node.directory
  fits : stage.Fits cfg stream.target
  looked : ∀ next, stage.pending = some next →
    stream.stage.pending = some next ∨ node.lists cfg next
  opened : after.opened = node.opened ∨
    ∃ opened : Opened atlas, after.opened = node.opened ++ [opened] ∧
      opened.target = stream.target ∧ opened.held = node.directory ∧
      (cfg.exit ∧ ¬ Onion stream.target ∨
        stream.stage = .dialing opened.address ∧ opened.network = .tcp)

/-- An action that moves the stream to a stage where nothing is looked up. -/
theorem Acts.move {stream : Stream} {after : Node atlas} {stage : Stage}
    (dir : after.directory = node.directory) (opened : after.opened = node.opened)
    (fits : stage.Fits cfg stream.target) (none : stage.pending = none) :
    Acts cfg node stream after stage := by
  refine ⟨dir, fits, ?_, .inl opened⟩
  intro next looked
  rw [none] at looked
  cases looked

theorem Acts.opening {stream : Stream} {network : Network} {address : Bytes} {stage : Stage}
    (cause : cfg.exit ∧ ¬ Onion stream.target ∨
      stream.stage = .dialing address ∧ network = .tcp)
    (fits : stage.Fits cfg stream.target) (none : stage.pending = none) :
    Acts cfg node stream (node.connect network stream address) stage := by
  refine ⟨rfl, fits, ?_, .inr ⟨_, rfl, rfl, rfl, cause⟩⟩
  intro next looked
  rw [none] at looked
  cases looked

theorem Acts.dispatch (stream : Stream) :
    Acts cfg node stream node (Node.dispatch cfg stream.target) := by
  rcases @dispatch_cases cfg stream.target with
    ⟨ending, sent⟩ | ⟨next, sent, marked⟩ | ⟨role, other, sent | ⟨addr, sent⟩⟩ <;>
    rw [sent]
  · exact .move rfl rfl trivial rfl
  · exact .move rfl rfl marked rfl
  · exact .move rfl rfl ⟨role, other⟩ rfl
  · exact .move rfl rfl ⟨role, other⟩ rfl

theorem act_acts {stream : Stream} (succeeds : Bool)
    (fits : stream.stage.Fits cfg stream.target) :
    Acts cfg node stream (node.act cfg stream succeeds).1
      (node.act cfg stream succeeds).2 := by
  unfold Node.act
  generalize stage : stream.stage = point at fits ⊢
  cases point with
  | dispatching => exact .dispatch stream
  | admitting =>
    dsimp only
    split_ifs
    · exact .move rfl rfl fits rfl
    · exact .move rfl rfl trivial rfl
  | comparing =>
    dsimp only
    split_ifs
    · exact .move rfl rfl trivial rfl
    · exact .move rfl rfl fits rfl
  | lookingUp =>
    dsimp only
    split_ifs with listed
    · refine ⟨rfl, fits, ?_, .inl rfl⟩
      rintro other ⟨⟩
      exact .inr listed
    · exact .move rfl rfl trivial rfl
  | acquiring =>
    dsimp only
    split
    · exact .move rfl rfl trivial rfl
    · refine ⟨rfl, fits, ?_, .inl rfl⟩
      rintro other ⟨⟩
      rw [stage]
      exact .inl rfl
  | dialing => cases succeeds <;> exact .opening (.inr ⟨stage, rfl⟩) trivial rfl
  | resolvingUDP =>
    cases succeeds with
    | false => exact .move rfl rfl trivial rfl
    | true => exact .move rfl rfl fits rfl
  | dialingUDP | dialingTCP => cases succeeds <;> exact .opening (.inl fits) trivial rfl
  | splicing | releasing | copying | ended => exact .move rfl rfl trivial rfl

/-- What a stream opens is a listed forward if the node is no exit or the target asks for one. -/
theorem Acts.forwards {stream : Stream} {after : Node atlas} {stage : Stage}
    (acts : Acts cfg node stream after stage) (confined : Confined cfg node)
    (member : stream ∈ node.streams) :
    ∀ opened ∈ after.opened, cfg.exit = false ∨ Onion opened.target → opened.Forward := by
  intro opened present asked
  rcases acts.opened with same | ⟨last, appended, target, held, cause⟩
  · rw [same] at present
    exact confined.forwards opened present asked
  rw [appended, mem_append, mem_singleton] at present
  rcases present with old | rfl
  · exact confined.forwards opened old asked
  rw [target] at asked
  rcases cause with ⟨role, other⟩ | ⟨dialing, tcp⟩
  · rcases asked with relay | onion
    · rw [role] at relay
      cases relay
    · exact absurd onion other
  · have fits := confined.fits stream member
    rw [dialing] at fits
    obtain ⟨dir, here, listed⟩ :=
      confined.looked stream member opened.address (by rw [dialing]; rfl)
    exact ⟨tcp, target.trans fits, dir, held.trans here, listed⟩

theorem Confined.advance {pos : Nat} {succeeds : Bool} {next : Node atlas}
    (confined : Confined cfg node)
    (moves : (forwarding atlas cfg).step node (.advance pos succeeds) = some next) :
    Confined cfg next := by
  change (match node.streams[pos]? with
    | none => none
    | some stream => some { (node.act cfg stream succeeds).1 with
        streams := node.streams.set pos
          { stream with stage := (node.act cfg stream succeeds).2 } }) = some next at moves
  split at moves
  case h_1 => cases moves
  case h_2 stream found =>
    cases moves
    have member : stream ∈ node.streams := mem_of_getElem? found
    have acts := @act_acts _ cfg node stream succeeds (confined.fits stream member)
    refine ⟨?_, ?_, acts.forwards confined member⟩
    · intro other present
      rcases mem_or_eq_of_mem_set present with old | rfl
      · exact confined.fits other old
      · exact acts.fits
    · intro other present address looked
      rw [acts.directory]
      rcases mem_or_eq_of_mem_set present with old | rfl
      · exact confined.looked other old address looked
      · rcases acts.looked address looked with before | listed
        · exact confined.looked stream member address before
        · exact lists_iff.mp listed

theorem Confined.reload {file : Option Bytes} {now : Time} (confined : Confined cfg node)
    (steady : Steady node (.reload file now)) : Confined cfg (node.reload file now) := by
  unfold Node.reload
  split
  case h_1 => exact confined
  case h_2 signed =>
    split
    case h_1 => exact confined
    case h_2 fresh loaded =>
      refine ⟨confined.fits, ?_, confined.forwards⟩
      intro stream member address looked
      exact ⟨fresh, rfl, steady fresh loaded stream member address looked⟩

/-- Every step keeps a node confined if no reload drops an address before its dial. -/
theorem Confined.step {label : Label} {next : Node atlas} (confined : Confined cfg node)
    (steady : Steady node label)
    (moves : (forwarding atlas cfg).step node label = some next) : Confined cfg next := by
  cases label with
  | accept remote target =>
    cases target with
    | none =>
      cases moves
      exact confined
    | some target =>
      change (if validTarget target then some _ else some node) = some next at moves
      split_ifs at moves
      · cases moves
        refine ⟨?_, ?_, confined.forwards⟩
        · intro stream present
          rcases mem_append.mp present with old | new
          · exact confined.fits stream old
          · rw [mem_singleton.mp new]
            trivial
        · intro stream present address looked
          rcases mem_append.mp present with old | new
          · exact confined.looked stream old address looked
          · rw [mem_singleton.mp new] at looked
            cases looked
      · cases moves
        exact confined
  | advance => exact confined.advance moves
  | reload file now =>
    change (if _ then none else some (node.reload file now)) = some next at moves
    split_ifs at moves
    cases moves
    exact confined.reload steady

/-- In a run whose reloads keep every address between its lookup and its dial, a node without the
exit role opens only TCP connections to the next hops of onion targets, at addresses that the
directory it holds then lists; and so does any node for an onion target. -/
theorem opens_listed_forwards_only {labels : List Label}
    (runs : (forwarding atlas cfg).Runs Steady labels node) :
    ∀ opened ∈ node.opened, cfg.exit = false ∨ Onion opened.target → opened.Forward := by
  have confined : Confined cfg node := by
    apply runs.invariant
    · rintro node ⟨_, _, _, streams, opened⟩
      refine ⟨?_, ?_, ?_⟩
      · rw [streams]
        rintro _ ⟨⟩
      · rw [streams]
        rintro _ ⟨⟩
      · rw [opened]
        rintro _ ⟨⟩
    · intro node label next confined steady transition
      exact confined.step steady transition
  exact confined.forwards

end

def Entry.decidableReachedAt (entry : Entry) (address : Bytes) :
    Decidable (Entry.ReachedAt entry address) :=
  inferInstanceAs (Decidable (_ ∨ _))

instance {atlas : Atlas} (held : HeldDirectory atlas) (address : Bytes) :
    Decidable (held.Lists address) :=
  have := fun entry => Entry.decidableReachedAt entry address
  inferInstanceAs (Decidable (∃ entry ∈ held.snapshot.entries, Entry.ReachedAt entry address))

instance decidableSteady {atlas : Atlas} (node : Node atlas) :
    (label : Label) → Decidable (Steady node label)
  | .accept _ _ => isTrue trivial
  | .advance _ _ => isTrue trivial
  | .reload none _ => isTrue trivial
  | .reload (some signed) now =>
      match loaded : loadForwardDirectory atlas signed now with
      | .error _ => isTrue (by
          intro fresh again
          rw [loaded] at again
          cases again)
      | .ok held =>
          decidable_of_iff (∀ stream ∈ node.streams, ∀ next ∈ stream.stage.pending, held.Lists next)
            (by simp [Steady, loaded, Option.mem_def])

/-- A directory of relays with a listener for layers. -/
def relaySnapshot (nodes : List (Char × String)) : Snapshot where
  expiresAt := 100
  entries := nodes.map fun node => { role := "relay", id := Chain.nodeId node.1, ingress := node.2 }

/-- The first snapshot names two next hops, the second one, the third both. -/
def threeSnapshots : Atlas where
  key := List.replicate 32 0
  verifySigned _ signed :=
    if signed = [1] then some (relaySnapshot [('b', "192.0.2.2:9000"), ('c', "192.0.2.3:9000")])
    else if signed = [2] then some (relaySnapshot [('c', "192.0.2.3:9000")])
    else if signed = [3] then
      some (relaySnapshot [('c', "192.0.2.3:9000"), ('b', "192.0.2.2:9000")])
    else none
  lookupAs _ := none

/-- A relay that forwards, and is no exit. -/
def plainRelay : NodeConfig where
  id := Chain.nodeId 'a'
  relay := true
  relayIngress := "0.0.0.0:9000"
  exitKeyHex := Chain.nodeId 'a'
  relayDirectory := [1]
  relayDirectoryPath := "directory.bin"

def plainRelayNode : Node threeSnapshots where
  directory := some ⟨[1], relaySnapshot [('b', "192.0.2.2:9000"), ('c', "192.0.2.3:9000")], rfl⟩
  limits := newForwardLimits 0 0 0

theorem plainRelayNode_initial : (forwarding threeSnapshots plainRelay).initial plainRelayNode :=
  ⟨10, rfl, rfl, rfl, rfl⟩

/-- A forward to the second relay during which another directory is loaded. -/
def reloadedForward (signed : Bytes) : List Label :=
  [.accept (some "198.51.100.7:4000") (some (hopTargetPrefix ++ textBytes "192.0.2.2:9000")),
    .advance 0 true, .advance 0 true, .advance 0 true, .advance 0 true, .reload (some signed) 10,
    .advance 0 true, .advance 0 true]

/-- A directory with both relays again leaves the forward where it was listed. -/
theorem kept_hop_is_listed :
    ∃ node, (forwarding threeSnapshots plainRelay).Runs Steady (reloadedForward [3]) node ∧
      ∃ opened ∈ node.opened, opened.Forward := by
  obtain ⟨node, runs, filled⟩ : ∃ node, (forwarding threeSnapshots plainRelay).Runs Steady
      (reloadedForward [3]) node ∧ node.opened ≠ [] := by
    refine Machine.exists_runs plainRelayNode_initial ?_ ?_ <;> decide +kernel
  obtain ⟨opened, member⟩ := exists_mem_of_ne_nil _ filled
  exact ⟨node, runs, opened, member, opens_listed_forwards_only runs opened member (.inl rfl)⟩

/-- The relay dials a hop that the directory it holds by then does not list. -/
theorem dropped_hop_is_dialed :
    ∃ node, (forwarding threeSnapshots plainRelay).Runs Machine.free (reloadedForward [2]) node ∧
      plainRelay.exit = false ∧
      ∃ opened ∈ node.opened, Onion opened.target ∧ ¬ opened.Listed := by
  have computed : ((forwarding threeSnapshots plainRelay).follow plainRelayNode
      (reloadedForward [2])).any (fun node => node.opened.any fun opened =>
        decide (Onion opened.target) &&
          opened.held.all fun held => decide (¬ held.Lists opened.address)) := by
    decide +kernel
  obtain ⟨node, followed, among⟩ := (Option.any_eq_true _ _).mp computed
  obtain ⟨opened, member, found⟩ := any_eq_true.mp among
  rw [Bool.and_eq_true, decide_eq_true_eq] at found
  refine ⟨node, .ofFollow plainRelayNode_initial followed (Machine.meets_free _ _), rfl, opened,
    member, found.1, ?_⟩
  rintro ⟨held, there, listed⟩
  have unlisted := found.2
  rw [there] at unlisted
  exact of_decide_eq_true unlisted listed

end Bacchus.Forwarding
