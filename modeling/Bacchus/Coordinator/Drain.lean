import Bacchus.Chain.Directory
import Bacchus.Coordinator.Assign
import Bacchus.Coordinator.Provenance

/-!
# Draining nodes that may no longer register

With a signed policy configured and none enforceable, or a release below the serving floor, a
`register` is refused and an entry is meant to age out. What reads the registry is modelled here
as well. A `heartbeat` passes no gate and keeps an entry alive.
-/

namespace Bacchus.Coordinator

open Admission (Time roleRelay roleExit)
open List Function

/-- `countryInfo`, without the latency, which is never known. -/
structure CountryInfo where
  country : String
  exits : Nat
  available : Nat
  busy : Bool

/-- `countrySnapshot`, with the exits in the order the map is walked. -/
def countrySnapshot (ranking : Ranking) (walk : List ExitNode) (load : String → Nat)
    (limits : TierLimit) : List CountryInfo :=
  let known := walk.filter fun exit => exit.claims.derived ≠ ""
  let countries := (known.map fun exit => exit.claims.derived).dedup
  (countries.mergeSort fun left right => left ≤ right).map fun country =>
    let inside := known.filter fun exit => exit.claims.derived = country
    let available :=
      (inside.filter fun exit => ranking.exitAssignable exit (load exit.id) limits).length
    { country, exits := inside.length, available, busy := available = 0 }

/-- What the wire calls the source of a country. -/
def CountrySource.text : CountrySource → String
  | .unknown => ""
  | .observed => "observed"
  | .hinted => "hint"
  | .split => "observed-signaling-only"
  | .noEndpoint => "unverifiable-no-endpoint"
  | .override => "admin-override"

def joinHostPort (host port : String) : String :=
  if ':' ∈ host.toList then "[" ++ host ++ "]:" ++ port else host ++ ":" ++ port

/-- `UDPAddr.String`. -/
def UDPAddr.text (addr : UDPAddr) : String :=
  joinHostPort (String.ofList addr.ip.text) (toString addr.port)

/-- The entry of an exit in the snapshot, without the country it declares. -/
def ExitNode.entry (exit : ExitNode) (operators : String → String) : Chain.Entry where
  role := "exit"
  id := exit.id
  country := exit.claims.derived
  countrySource := exit.claims.source.text
  addr := exit.tcpAddr
  operator := operators exit.id

/-- The entry of a relay, which is dialed at the address observed. -/
def RelayNode.entry (relay : RelayNode) (operators : String → String) : Chain.Entry where
  role := "relay"
  id := relay.id
  country := relay.claims.derived
  countrySource := relay.claims.source.text
  addr := relay.addr.text
  operator := operators relay.id
  ingress :=
    if relay.ingressPort = 0 then ""
    else joinHostPort (String.ofList relay.addr.ip.text) (toString relay.ingressPort)

/-- How long a signed snapshot is good for. -/
def snapshotTTL : Time := 5 * 60 * 10 ^ 9

/-- `accountServiceEntries`, from the host and the address of each base. -/
def accountServiceEntries (accountServices : List (String × String)) : List Chain.Entry :=
  accountServices.map fun service => { role := "account", id := service.1, addr := service.2 }

/-- `buildSnapshot`, after `prune`. -/
def buildSnapshot (registry : Registry) (now : Time) (advertise : String)
    (accountServices : List (String × String)) (operators : String → String)
    (exitWalk relayWalk : List String) : Chain.Snapshot where
  expiresAt := now + snapshotTTL
  entries :=
    { role := "coordinator", id := "coordinator", addr := advertise } ::
      accountServiceEntries accountServices ++
      ((exitWalk.filterMap registry.exits).filter fun exit => !exit.exhausted).map
        (fun exit => exit.entry operators) ++
      ((relayWalk.filterMap registry.relays).filter fun relay => !relay.exhausted).map
        (fun relay => relay.entry operators)

/-- A node that nothing assigns, counts or publishes. -/
structure Registry.Withdrawn (registry : Registry) (id : String) : Prop where
  unpaired : resolveFirstHop registry id = .error .noHop
  unassigned : ∀ ranking (walk : List String) load country exclude limits exit,
    chooseExit ranking (walk.filterMap registry.exits) load country exclude limits = .ok exit →
      exit.id ≠ id
  unrelayed : ∀ ratings (walk : List String) exclude now relay,
    pickRelay ratings (walk.filterMap registry.relays) exclude now = some relay → relay.id ≠ id
  uncounted : ∀ ranking (walk : List String) load limits,
    countrySnapshot ranking (walk.filterMap registry.exits) load limits =
      countrySnapshot ranking ((walk.filter fun other => other ≠ id).filterMap registry.exits) load
        limits
  unpublished : ∀ now advertise accountServices operators exitWalk relayWalk, ∀ entry ∈
    (buildSnapshot registry now advertise accountServices operators exitWalk relayWalk).entries,
      entry.role = "exit" ∨ entry.role = "relay" → entry.id ≠ id

/-- Entries are kept under the id they carry. -/
structure Registry.Keyed (registry : Registry) : Prop where
  relays : ∀ key node, registry.relays key = some node → node.id = key
  exits : ∀ key node, registry.exits key = some node → node.id = key

theorem keyed_empty : Registry.Keyed {} where
  relays _ _ found := by cases found
  exits _ _ found := by cases found

section

variable {registry : Registry} {id : String} {exit : ExitNode}

theorem mem_of_chooseExit {ranking : Ranking} {walk : List ExitNode} {load : String → Nat}
    {country : String} {exclude : List String} {limits : TierLimit}
    (chosen : chooseExit ranking walk load country exclude limits = .ok exit) : exit ∈ walk := by
  unfold chooseExit at chosen
  simp only at chosen
  split_ifs at chosen
  split at chosen
  · next found picked =>
    cases chosen
    have candidate := mem_of_find?_eq_some picked
    unfold afterExclusion at candidate
    simp only at candidate
    split_ifs at candidate
    · exact mem_of_mem_filter (mem_of_mem_filter (mem_of_mem_filter candidate))
    · exact mem_of_mem_filter (mem_of_mem_filter candidate)
  · cases chosen

variable {walk : List String}

/-- The walk of a map meets entries of other ids only. -/
theorem exit_id_ne (keyed : registry.Keyed) (gone : registry.exits id = none)
    (member : exit ∈ walk.filterMap registry.exits) : exit.id ≠ id := by
  obtain ⟨key, _, found⟩ := mem_filterMap.mp member
  rw [keyed.exits key exit found]
  rintro rfl
  rw [gone] at found
  cases found

theorem relay_id_ne (keyed : registry.Keyed) (gone : registry.relays id = none) {relay : RelayNode}
    (member : relay ∈ walk.filterMap registry.relays) :
    relay.id ≠ id := by
  obtain ⟨key, _, found⟩ := mem_filterMap.mp member
  rw [keyed.relays key relay found]
  rintro rfl
  rw [gone] at found
  cases found

/-- An id without an entry is as good as not walked. -/
theorem filterMap_filter_ne (gone : registry.exits id = none) (walk : List String) :
    (walk.filter fun other => other ≠ id).filterMap registry.exits =
      walk.filterMap registry.exits := by
  induction walk with
  | nil => rfl
  | cons key walk ih =>
    by_cases same : key = id
    · subst same
      simpa [gone] using ih
    · cases found : registry.exits key <;> simpa [same, found] using ih

theorem withdrawn_of_gone (keyed : registry.Keyed) (noRelay : registry.relays id = none)
    (noExit : registry.exits id = none) : registry.Withdrawn id where
  unpaired := by simp only [resolveFirstHop, noExit]
  unassigned ranking walk load country exclude limits exit chosen :=
    exit_id_ne keyed noExit (mem_of_chooseExit chosen)
  unrelayed ratings walk exclude now relay chosen :=
    relay_id_ne keyed noRelay (mem_of_find?_eq_some chosen)
  uncounted ranking walk load limits := by rw [filterMap_filter_ne noExit]
  unpublished now advertise accountServices operators exitWalk relayWalk entry member role := by
    simp only [buildSnapshot, accountServiceEntries, cons_append, mem_cons,
      mem_append, mem_map] at member
    rcases member with rfl | (⟨service, _, rfl⟩ | ⟨exit, walked, rfl⟩) | ⟨relay, walked, rfl⟩
    · simp at role
    · simp at role
    · exact exit_id_ne keyed noExit (mem_of_mem_filter walked)
    · exact relay_id_ne keyed noRelay (mem_of_mem_filter walked)

end

/-- The clock reading of a step. -/
def Label.now : Label → Time
  | .datagram received => received.moment.now
  | .sweep now => now

/-- The gate is closed to a node of this release: a configured policy is not enforceable, or the
release is fenced. -/
def Barred (cfg : Config) (release : String) (moment : Moment) : Bool :=
  !moment.policy.allowsAssignment || (versionCheck cfg moment.policy release).isSome

/-- The gate is closed to the node whenever a datagram is handled; its registrations carry its
release. -/
def Closed (cfg : Config) (id release : String) (_ : Registry) : Label → Prop
  | .datagram received =>
    Barred cfg release received.moment ∧
      (received.message.kind = .register → received.message.id = id →
        received.message.release = release)
  | .sweep _ => True

/-- No heartbeat names the node. -/
def Unbeaten (id : String) (_ : Registry) : Label → Prop
  | .datagram received => received.message.kind = .heartbeat → received.message.id ≠ id
  | .sweep _ => True

/-- What is left of the entries of an id: each is as it was, or gone. -/
def Unrefreshed (id : String) (before after : Registry) : Prop :=
  (after.relays id = none ∨ after.relays id = before.relays id) ∧
    (after.exits id = none ∨ after.exits id = before.exits id)

/-- No entry of the id was heard of after a time. -/
def SeenBy (closedAt : Time) (id : String) (registry : Registry) : Prop :=
  (∀ node, registry.relays id = some node → node.lastSeen ≤ closedAt) ∧
    ∀ node, registry.exits id = some node → node.lastSeen ≤ closedAt

theorem seenBy_empty (closedAt : Time) (id : String) : SeenBy closedAt id {} := by
  constructor
  · intro node found
    cases found
  · intro node found
    cases found

section

variable {cfg : Config} {id release : String} {registry next : Registry} {label : Label}
  {closedAt now : Time}

theorem Unrefreshed.refl (registry : Registry) : Unrefreshed id registry registry :=
  ⟨.inr rfl, .inr rfl⟩

theorem Unrefreshed.trans {middle after : Registry} (first : Unrefreshed id registry middle)
    (second : Unrefreshed id middle after) : Unrefreshed id registry after := by
  constructor
  · rcases second.1 with gone | same
    · exact .inl gone
    · rw [same]
      exact first.1
  · rcases second.2 with gone | same
    · exact .inl gone
    · rw [same]
      exact first.2

theorem filter_eq_none_or_self {Entry : Type} (found : Option Entry) (keep : Entry → Bool) :
    found.filter keep = none ∨ found.filter keep = found := by
  cases found with
  | none => exact .inl rfl
  | some entry =>
    cases kept : keep entry with
    | false => exact .inl (by simp [kept])
    | true => exact .inr (by simp [kept])

theorem unrefreshed_prune (registry : Registry) (now : Time) :
    Unrefreshed id registry (registry.prune now) :=
  ⟨filter_eq_none_or_self _ _, filter_eq_none_or_self _ _⟩

variable {moment : Moment} {msg : Message}

/-- A closed gate refuses every registration of the release. -/
theorem registerGates_barred (barred : Barred cfg msg.release moment) :
    ∃ refusal, registerGates cfg moment msg = some refusal := by
  apply Option.isSome_iff_exists.mp
  simp only [Barred, Bool.or_eq_true, Bool.not_eq_true'] at barred
  unfold registerGates servingCheck
  rcases barred with drained | fenced
  · simp [drained]
  · simp [fenced]

theorem unrefreshed_store {src : UDPAddr} (other : msg.id ≠ id) :
    Unrefreshed id registry (registry.store moment msg src) := by
  unfold Registry.store
  split_ifs
  · exact ⟨.inr (update_of_ne other.symm _ _), .inr rfl⟩
  · exact ⟨.inr rfl, .inr (update_of_ne other.symm _ _)⟩
  · exact .refl _

theorem unrefreshed_heartbeat {beating : String} {src : UDPAddr} (other : beating ≠ id) :
    Unrefreshed id registry (registry.heartbeat moment beating src) :=
  ⟨.inr (update_of_ne other.symm _ _), .inr (update_of_ne other.symm _ _)⟩

/-- Behind a closed gate only a heartbeat of the node refreshes anything of it. -/
theorem unrefreshed_of_step (closed : Closed cfg id release registry label)
    (unbeaten : Unbeaten id registry label)
    (moves : (coordinator cfg).step registry label = some next) :
    Unrefreshed id registry next := by
  cases label with
  | sweep now =>
    cases moves
    exact unrefreshed_prune registry now
  | datagram received =>
    cases moves
    refine (unrefreshed_prune registry received.moment.now).trans ?_
    simp only [handle]
    cases kind : received.message.kind with
    | register =>
      cases gates : registerGates cfg received.moment received.message with
      | some => exact .refl _
      | none =>
        have other : received.message.id ≠ id := by
          intro same
          obtain ⟨barred, own⟩ := closed
          rw [← own kind same] at barred
          obtain ⟨_, refused⟩ := registerGates_barred barred
          rw [gates] at refused
          cases refused
        exact unrefreshed_store other
    | heartbeat => exact unrefreshed_heartbeat (unbeaten kind)
    | other => exact .refl _

/-- An entry after a step: it was there before the step and the sweep, or it was seen at the step,
and is new under its own id or carries on an entry. -/
def Entered (label : Label) (key : String) {Node : Type} (nodeId : Node → String)
    (lastSeen : Node → Time) (before after : Option Node) : Prop :=
  ∀ node, after = some node → before = some node ∨
    (lastSeen node = label.now ∧
      (nodeId node = key ∨ ∃ old, before = some old ∧ nodeId old = nodeId node))

section

variable {Node : Type} {nodeId : Node → String} {lastSeen : Node → Time} {key written : String}
  {before : Option Node} {nodes : String → Option Node}

theorem entered_store (kept : ∀ node, nodes key = some node → before = some node) {fresh : Node}
    (named : nodeId fresh = written) (seen : lastSeen fresh = label.now) :
    Entered label key nodeId lastSeen before (update nodes written (some fresh) key) := by
  intro node found
  by_cases same : key = written
  · subst same
    rw [update_self] at found
    cases found
    exact .inr ⟨seen, .inl named⟩
  · rw [update_of_ne same] at found
    exact .inl (kept node found)

theorem entered_beat (kept : ∀ node, nodes key = some node → before = some node)
    {beat : Node → Node} (named : ∀ node, nodeId (beat node) = nodeId node)
    (seen : ∀ node, lastSeen (beat node) = label.now) :
    Entered label key nodeId lastSeen before
      (update nodes written ((nodes written).map beat) key) := by
  intro node found
  by_cases same : key = written
  · subst same
    rw [update_self] at found
    obtain ⟨old, present, rfl⟩ := Option.map_eq_some_iff.mp found
    exact .inr ⟨seen old, .inr ⟨old, kept old present, (named old).symm⟩⟩
  · rw [update_of_ne same] at found
    exact .inl (kept node found)

end

theorem entered_of_step (key : String)
    (moves : (coordinator cfg).step registry label = some next) :
    Entered label key RelayNode.id RelayNode.lastSeen (registry.relays key) (next.relays key) ∧
      Entered label key ExitNode.id ExitNode.lastSeen (registry.exits key) (next.exits key) := by
  -- What the sweep leaves was there before.
  have relays : ∀ now node, (registry.prune now).relays key = some node →
      registry.relays key = some node := fun _ _ found => (Option.filter_eq_some_iff.mp found).1
  have exits : ∀ now node, (registry.prune now).exits key = some node →
      registry.exits key = some node := fun _ _ found => (Option.filter_eq_some_iff.mp found).1
  cases label with
  | sweep now =>
    cases moves
    exact ⟨fun node found => .inl (relays now node found),
      fun node found => .inl (exits now node found)⟩
  | datagram received =>
    cases moves
    have untouched :
        Entered (.datagram received) key RelayNode.id RelayNode.lastSeen (registry.relays key)
            ((registry.prune received.moment.now).relays key) ∧
          Entered (.datagram received) key ExitNode.id ExitNode.lastSeen (registry.exits key)
            ((registry.prune received.moment.now).exits key) :=
      ⟨fun node found => .inl (relays _ node found), fun node found => .inl (exits _ node found)⟩
    simp only [handle]
    split
    · split
      · exact untouched
      · simp only [Registry.store]
        split_ifs
        · exact ⟨entered_store (relays _) rfl rfl, untouched.2⟩
        · exact ⟨untouched.1, entered_store (exits _) rfl rfl⟩
        · exact untouched
    · exact ⟨entered_beat (relays _) (fun _ => rfl) (fun _ => rfl),
        entered_beat (exits _) (fun _ => rfl) (fun _ => rfl)⟩
    · exact untouched

theorem Registry.Keyed.step (keyed : registry.Keyed)
    (moves : (coordinator cfg).step registry label = some next) : next.Keyed := by
  constructor
  · intro key node found
    rcases (entered_of_step key moves).1 node found with
      stayed | ⟨_, own | ⟨old, present, same⟩⟩
    · exact keyed.relays key node stayed
    · exact own
    · exact same.symm.trans (keyed.relays key old present)
  · intro key node found
    rcases (entered_of_step key moves).2 node found with
      stayed | ⟨_, own | ⟨old, present, same⟩⟩
    · exact keyed.exits key node stayed
    · exact own
    · exact same.symm.trans (keyed.exits key old present)

theorem SeenBy.step (seen : SeenBy closedAt id registry) (early : label.now ≤ closedAt)
    (moves : (coordinator cfg).step registry label = some next) : SeenBy closedAt id next := by
  obtain ⟨relays, exits⟩ := entered_of_step id moves
  constructor
  · intro node found
    rcases relays node found with stayed | ⟨handled, _⟩
    · exact seen.1 node stayed
    · exact handled.trans_le early
  · intro node found
    rcases exits node found with stayed | ⟨handled, _⟩
    · exact seen.2 node stayed
    · exact handled.trans_le early

theorem SeenBy.unrefreshed (seen : SeenBy closedAt id registry)
    (unrefreshed : Unrefreshed id registry next) : SeenBy closedAt id next := by
  constructor
  · intro node found
    rcases unrefreshed.1 with gone | same
    · rw [gone] at found
      cases found
    · exact seen.1 node (same.symm.trans found)
  · intro node found
    rcases unrefreshed.2 with gone | same
    · rw [gone] at found
      cases found
    · exact seen.2 node (same.symm.trans found)

/-- Past the lifetime of entries not seen since, a sweep leaves none. -/
theorem SeenBy.gone (seen : SeenBy closedAt id registry) (passed : closedAt + ttl < now) :
    (registry.prune now).relays id = none ∧ (registry.prune now).exits id = none := by
  have expired : ∀ seenAt closed current lifetime : Int, closed + lifetime < current →
      seenAt ≤ closed → ¬ current - seenAt ≤ lifetime := by omega
  constructor
  · apply Option.filter_eq_none_iff.mpr
    intro node found
    simpa using expired _ _ _ _ passed (seen.1 node found)
  · apply Option.filter_eq_none_iff.mpr
    intro node found
    simpa using expired _ _ _ _ passed (seen.2 node found)

/-- Behind a closed gate, as long as no heartbeat names the node, no step refreshes an entry of it,
and once the lifetime of an entry has passed nothing assigns, counts or publishes the node. -/
theorem closed_node_ages_out {before after : List Label} {final : Registry}
    (runs : (coordinator cfg).Runs (fun _ label => label.now ≤ closedAt) before registry)
    (followed : (coordinator cfg).follow registry after = some final)
    (met : (coordinator cfg).Meets
      (fun state label => Closed cfg id release state label ∧ Unbeaten id state label)
      registry after) :
    Unrefreshed id registry final ∧
      ∀ now, closedAt + ttl < now → (final.prune now).Withdrawn id := by
  have named : registry.Keyed := by
    refine runs.invariant ?_ fun keyed _ transition => keyed.step transition
    rintro _ rfl
    exact keyed_empty
  have seen : SeenBy closedAt id registry := by
    refine runs.invariant ?_ fun seen early transition => seen.step early transition
    rintro _ rfl
    exact seenBy_empty closedAt id
  obtain ⟨keyed, unrefreshed⟩ := Machine.follow_related Unrefreshed.refl
    (fun first second => first.trans second)
    (fun keyed met transition =>
      ⟨Registry.Keyed.step keyed transition, unrefreshed_of_step met.1 met.2 transition⟩)
    named followed met
  refine ⟨unrefreshed, fun now passed => ?_⟩
  obtain ⟨noRelay, noExit⟩ := (seen.unrefreshed unrefreshed).gone passed
  have swept : (final.prune now).Keyed :=
    keyed.step (show (coordinator cfg).step final (.sweep now) = some _ from rfl)
  exact withdrawn_of_gone swept noRelay noExit

end

/-- A policy is configured and none is enforceable. -/
def drained : PolicyState := { configured := true }

/-- A policy that has raised the serving floor. -/
def fencing : PolicyState := { configured := true, held := some ⟨"2.0.0", 0, 0⟩ }

/-- An exit of an old release registers while the gate is open. -/
def registersOld : Label := .datagram
  { moment := quietAt 0
    message :=
      { kind := .register, id := "n1", role := roleExit, country := "DE", release := "1.0.0" }
    src := ⟨.v4 0xC0000201, 4000⟩ }

/-- A message of the node half a minute later, under another policy. -/
def later (kind : Kind) (policy : PolicyState) : Label := .datagram
  { moment := { quietAt (30 * 10 ^ 9) with policy }
    message := { kind, id := "n1", role := roleExit, country := "DE", release := "1.0.0" }
    src := ⟨.v4 0xC0000201, 4000⟩ }

def openConfig : Config := { verifier := none }

/-- What the registration leaves. -/
def oldRegistry : Registry :=
  (handle openConfig {} (quietAt 0)
    { kind := .register, id := "n1", role := roleExit, country := "DE", release := "1.0.0" }
    ⟨.v4 0xC0000201, 4000⟩).1

theorem runs_registersOld :
    (coordinator openConfig).Runs (fun _ label => label.now ≤ 0) [registersOld] oldRegistry :=
  .ofFollow rfl rfl ⟨Int.le_refl 0, trivial⟩

/-- Both policies bar the release of the node. -/
theorem barred_of_gate {policy : PolicyState} (gate : policy ∈ [drained, fencing]) :
    Barred openConfig "1.0.0" { quietAt (30 * 10 ^ 9) with policy } := by
  rcases mem_cons.mp gate with rfl | other
  · rfl
  · rw [mem_singleton.mp other]
    rfl

/-- Behind either gate the node's registration is refused, and it is withdrawn a minute after it
was last heard of. -/
theorem refused_node_withdrawn :
    (coordinator openConfig).Runs (fun _ label => label.now ≤ 0) [registersOld] oldRegistry ∧
    ∀ policy ∈ [drained, fencing], ∃ final,
      (coordinator openConfig).follow oldRegistry [later .register policy] = some final ∧
        (final.prune (60 * 10 ^ 9)).Withdrawn "n1" := by
  refine ⟨runs_registersOld, fun policy gate => ?_⟩
  refine ⟨_, rfl, (@closed_node_ages_out openConfig "n1" "1.0.0" oldRegistry 0 [registersOld]
    [later .register policy] _ runs_registersOld ?_ ⟨⟨⟨barred_of_gate gate, ?_⟩, nofun⟩,
      trivial⟩).2 (60 * 10 ^ 9) (by decide)⟩
  · rfl
  · exact fun _ _ => rfl

/-- The node as a heartbeat half a minute after its registration leaves it. -/
def beatenExit : ExitNode where
  id := "n1"
  tcpAddr := ""
  udp := ⟨.v4 0xC0000201, 4000⟩
  speedCap := 0
  declaredQuota := 0
  exhausted := false
  lastSeen := 30 * 10 ^ 9
  claims := { derived := "DE", source := .hinted, declared := "DE" }

/-- Behind either gate a heartbeat keeps the node assigned and published a minute later. -/
theorem heartbeat_keeps_node :
    (coordinator openConfig).Runs (fun _ label => label.now ≤ 0) [registersOld] oldRegistry ∧
    ∀ policy ∈ [drained, fencing], ∃ final,
      (coordinator openConfig).follow oldRegistry [later .heartbeat policy] = some final ∧
      (coordinator openConfig).Meets (Closed openConfig "n1" "1.0.0") oldRegistry
        [later .heartbeat policy] ∧
      0 + ttl < 60 * 10 ^ 9 ∧
      (chooseExit {} (["n1"].filterMap (final.prune (60 * 10 ^ 9)).exits) (fun _ => 0) "DE" []
        {}).map ExitNode.id = .ok "n1" ∧
      ∃ entry ∈ (buildSnapshot (final.prune (60 * 10 ^ 9)) (60 * 10 ^ 9) "" [] (fun _ => "") ["n1"]
        []).entries, entry.role = "exit" ∧ entry.id = "n1" := by
  refine ⟨runs_registersOld, fun policy gate => ?_⟩
  have barred := barred_of_gate gate
  have beaten : ∀ final, (coordinator openConfig).follow oldRegistry [later .heartbeat policy] =
      some final → (final.prune (60 * 10 ^ 9)).exits "n1" = some beatenExit := by
    rintro _ ⟨⟩
    rfl
  refine ⟨_, rfl, ⟨⟨barred, nofun⟩, trivial⟩, by decide, ?_, ?_⟩
  · simp only [filterMap_cons, filterMap_nil, beaten _ rfl]
    rfl
  · refine ⟨beatenExit.entry fun _ => "", ?_, rfl, rfl⟩
    exact .tail _ (.head _)

end Bacchus.Coordinator
