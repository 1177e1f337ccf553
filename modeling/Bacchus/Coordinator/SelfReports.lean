import Bacchus.Coordinator.Connect
import Bacchus.Coordinator.Drain

/-!
# What nodes say of themselves

Under `-geoip-required` nothing a node says of its country reaches a client. A view of the
coordinator leaves out what nodes say; every step can be followed in the view, so two runs that
differ in it look alike.
-/

namespace Bacchus.Coordinator

open List

def Geo.publishedDeclaration (geo : Geo) (declared : String) : String :=
  if geo.required then "" else declared

/-- An entry of the snapshot, with the country its node declares. -/
structure PublishedEntry extends Chain.Entry where
  declaredCountry : String := ""

def ExitNode.published (exit : ExitNode) (geo : Geo) (operators : String → String) :
    PublishedEntry :=
  { exit.entry operators with
    declaredCountry := geo.publishedDeclaration exit.claims.declared }

def RelayNode.published (relay : RelayNode) (geo : Geo) (operators : String → String) :
    PublishedEntry :=
  { relay.entry operators with
    declaredCountry := geo.publishedDeclaration relay.claims.declared }

/-- The entries that `buildSnapshot` has signed. -/
def publishedEntries (registry : Registry) (geo : Geo) (advertise : String)
    (accountServices : List (String × String)) (operators : String → String)
    (exitWalk relayWalk : List String) : List PublishedEntry :=
  { role := "coordinator", id := "coordinator", addr := advertise } ::
    (accountServiceEntries accountServices).map (fun entry => { toEntry := entry }) ++
    ((exitWalk.filterMap registry.exits).filter fun exit => !exit.exhausted).map
      (fun exit => exit.published geo operators) ++
    ((relayWalk.filterMap registry.relays).filter fun relay => !relay.exhausted).map
      (fun relay => relay.published geo operators)

/-- But for the declared country they are those of the snapshot. -/
theorem toEntry_publishedEntries (registry : Registry) (geo : Geo) (now : Admission.Time)
    (advertise : String) (accountServices : List (String × String)) (operators : String → String)
    (exitWalk relayWalk : List String) :
    (publishedEntries registry geo advertise accountServices operators exitWalk relayWalk).map
        PublishedEntry.toEntry =
      (buildSnapshot registry now advertise accountServices operators exitWalk
        relayWalk).entries := by
  simp only [publishedEntries, buildSnapshot, map_append, map_cons, map_map]
  congr 1
  congr 1
  congr 1
  exact map_id _

def CountryClaims.muted (claims : CountryClaims) : CountryClaims := { claims with declared := "" }

def RelayNode.muted (relay : RelayNode) : RelayNode := { relay with claims := relay.claims.muted }

def ExitNode.muted (exit : ExitNode) : ExitNode := { exit with claims := exit.claims.muted }

def Registry.muted (registry : Registry) : Registry where
  relays id := (registry.relays id).map RelayNode.muted
  exits id := (registry.exits id).map ExitNode.muted

def Matchmaker.muted (state : Matchmaker) : Matchmaker :=
  { state with registry := state.registry.muted }

/-- A registration without the country the node claims. In no other message is the country a claim
of a node: a client names the one it wants. -/
def Message.muted (msg : Message) : Message :=
  if msg.kind = .register then { msg with country := "" } else msg

def Event.muted : Event → Event
  | .registry datagram => .registry { datagram with message := datagram.message.muted }
  | event => event

/-- A node's word is not taken for its country. -/
def Event.Strict : Event → Prop
  | .registry datagram => datagram.moment.geo.required
  | _ => True

section

variable {geo : Geo} (id : String) (src : UDPAddr)

theorem derivedCountry_muted (required : geo.required) (hint : String) :
    (geo.derivedCountry src hint).muted = geo.derivedCountry src "" := by
  unfold Geo.derivedCountry
  by_cases observed : ((geo.lookupAddr src.ip).map Geoip.canonical).getD "" = ""
  · rw [if_neg (not_not_intro observed), if_neg (not_not_intro observed), if_pos (.inl required),
      if_pos (.inl required)]
    rfl
  · rw [if_pos observed, if_pos observed]
    rfl

theorem applyCountryOverride_muted (claims : CountryClaims) :
    (geo.applyCountryOverride id claims).muted = geo.applyCountryOverride id claims.muted := by
  unfold Geo.applyCountryOverride
  dsimp only
  split_ifs <;> rfl

theorem derivedExitCountry_muted (required : geo.required) (hint advertised : String) :
    (geo.derivedExitCountry src hint advertised).muted =
      geo.derivedExitCountry src "" advertised := by
  unfold Geo.derivedExitCountry
  dsimp only
  rw [← derivedCountry_muted src required hint]
  have same : (geo.derivedCountry src hint).muted.source =
    (geo.derivedCountry src hint).source := rfl
  rw [same]
  split_ifs
  · rfl
  · cases exitEndpoint advertised src <;> rfl

end

section

variable (registry : Registry) {moment : Moment} (msg : Message) (src : UDPAddr)

theorem prune_muted (now : Admission.Time) :
    (registry.prune now).muted = registry.muted.prune now := by
  unfold Registry.prune Registry.muted
  simp only [Option.filter_map]
  rfl

theorem map_update {Node : Type} (view : Node → Node) (nodes : String → Option Node)
    (written : String) (node : Option Node) :
    (fun id => (Function.update nodes written node id).map view) =
      Function.update (fun id => (nodes id).map view) written (node.map view) :=
  Function.comp_update (Option.map view) nodes written node

/-- What a registration stores is seen without the country it claims. -/
theorem store_muted (required : moment.geo.required) (register : msg.kind = .register) :
    (registry.store moment msg src).muted = registry.muted.store moment msg.muted src := by
  have muted : msg.muted = { msg with country := "" } := if_pos register
  have relay : (msg.relayNode moment src).muted =
      ({ msg with country := "" } : Message).relayNode moment src := by
    unfold RelayNode.muted Message.relayNode Geo.deriveCountry
    rw [applyCountryOverride_muted, derivedCountry_muted src required]
  have exit : (msg.exitNode moment src).muted =
      ({ msg with country := "" } : Message).exitNode moment src := by
    unfold ExitNode.muted Message.exitNode Geo.deriveExitCountry
    rw [applyCountryOverride_muted, derivedExitCountry_muted src required]
  rw [muted]
  unfold Registry.store
  split_ifs
  · unfold Registry.muted
    rw [map_update, Option.map_some, relay]
  · unfold Registry.muted
    rw [map_update, Option.map_some, exit]
  · rfl

theorem heartbeat_muted (moment : Moment) (id : String) :
    (registry.heartbeat moment id src).muted = registry.muted.heartbeat moment id src := by
  unfold Registry.heartbeat Registry.muted
  rw [map_update, map_update, Option.map_map, Option.map_map, Option.map_map, Option.map_map]
  rfl

theorem registerGates_muted (cfg : Config) (moment : Moment) :
    registerGates cfg moment msg.muted = registerGates cfg moment msg := by
  unfold Message.muted
  split_ifs
  · simp only [registerGates, admission]
  · rfl

theorem kind_muted : msg.muted.kind = msg.kind := by
  unfold Message.muted
  split_ifs <;> rfl

theorem handle_muted (cfg : Config) (required : moment.geo.required) :
    handle cfg registry.muted moment msg.muted src =
      ((handle cfg registry moment msg src).1.muted,
        (handle cfg registry moment msg src).2) := by
  unfold handle
  rw [kind_muted, registerGates_muted, ← prune_muted]
  cases kind : msg.kind with
  | register =>
    cases registerGates cfg moment msg with
    | some => rfl
    | none => rw [store_muted (registry.prune moment.now) msg src required kind]
  | heartbeat =>
    have unchanged : msg.muted = msg := if_neg (by rw [kind]; decide)
    rw [heartbeat_muted, unchanged]
  | other => rfl

end

section

variable (state : Matchmaker)

theorem exits_muted (registry : Registry) (walk : List String) :
    walk.filterMap registry.muted.exits = (walk.filterMap registry.exits).map ExitNode.muted :=
  map_filterMap.symm

theorem relays_muted (registry : Registry) (walk : List String) :
    walk.filterMap registry.muted.relays = (walk.filterMap registry.relays).map RelayNode.muted :=
  map_filterMap.symm

theorem afterExclusion_muted (candidates : List ExitNode) (exclude : List String) :
    afterExclusion (candidates.map ExitNode.muted) exclude =
      (afterExclusion candidates exclude).map ExitNode.muted := by
  unfold afterExclusion
  dsimp only
  rw [filter_map, length_map]
  change (if exclude ≠ [] ∧ minCandidatesAfterExclude ≤
    (candidates.filter fun exit => exit.id ∉ exclude).length then _ else _) = _
  split_ifs <;> rfl

theorem tierFloor_muted (ranking : Ranking) (candidates : List ExitNode) (load : String → Nat) :
    ranking.tierFloor (candidates.map ExitNode.muted) load = ranking.tierFloor candidates load := by
  unfold Ranking.tierFloor
  rw [foldl_map]
  rfl

theorem chooseExit_muted (ranking : Ranking) (walk : List ExitNode) (load : String → Nat)
    (country : String) (exclude : List String) (limits : TierLimit) :
    chooseExit ranking (walk.map ExitNode.muted) load country exclude limits =
      (chooseExit ranking walk load country exclude limits).map ExitNode.muted := by
  have known : ∀ wanted, ((walk.map ExitNode.muted).filter fun exit =>
    exit.claims.derived = wanted) =
      (walk.filter fun exit => exit.claims.derived = wanted).map ExitNode.muted :=
    fun wanted => filter_map
  have assignable : ∀ exits : List ExitNode, ((exits.map ExitNode.muted).filter fun exit =>
      ranking.exitAssignable exit (load exit.id) limits) =
      (exits.filter fun exit => ranking.exitAssignable exit (load exit.id) limits).map
        ExitNode.muted :=
    fun exits => filter_map
  have picked : ∀ (exits : List ExitNode) floor, ((exits.map ExitNode.muted).find? fun exit =>
      floor ≤ ranking.rankShare exit (load exit.id)) =
      (exits.find? fun exit => floor ≤ ranking.rankShare exit (load exit.id)).map ExitNode.muted :=
    fun exits floor => find?_map
  unfold chooseExit
  dsimp only
  rw [known, assignable, afterExclusion_muted, tierFloor_muted, picked]
  simp only [map_eq_nil_iff]
  split_ifs
  · rfl
  · rfl
  · rfl
  · cases (afterExclusion _ exclude).find? _ <;> rfl

theorem pickRelay_muted (ratings : Ratings) (order : List RelayNode) (excludeId : String)
    (now : Admission.Time) :
    pickRelay ratings (order.map RelayNode.muted) excludeId now =
      (pickRelay ratings order excludeId now).map RelayNode.muted :=
  find?_map

theorem choose_muted (moment : ConnectMoment) (src : UDPAddr) (req : ConnectRequest)
    (limits : TierLimit) :
    state.muted.choose moment src req limits =
      (state.choose moment src req limits).map ExitNode.muted := by
  unfold Matchmaker.choose
  split_ifs
  · rfl
  · unfold resolveFirstHop Matchmaker.muted Registry.muted
    dsimp only
    cases state.registry.exits req.firstHop with
    | none => rfl
    | some =>
      dsimp only [Option.map_some, ExitNode.muted]
      split_ifs <;> rfl
  · unfold Matchmaker.muted
    rw [exits_muted, chooseExit_muted]

variable (cfg : MatchConfig)

variable (moment : ConnectMoment)

theorem pairing_muted (src : UDPAddr)
    (req : ConnectRequest) (limits : TierLimit) (exit : ExitNode) :
    state.muted.pairing cfg moment src req limits exit.muted =
      state.pairing cfg moment src req limits exit := by
  have id : exit.muted.id = exit.id := rfl
  unfold Matchmaker.pairing Matchmaker.muted
  rw [relays_muted, pickRelay_muted, id]
  by_cases direct : req.mode = "direct"
  · rw [if_pos direct, if_pos direct]
    rfl
  · rw [if_neg direct, if_neg direct]
    cases pickRelay moment.ranking.toRatings (moment.relayWalk.filterMap state.registry.relays)
      exit.id moment.relayRead <;> rfl

theorem assignment_muted (src : UDPAddr)
    (req : ConnectRequest) (credential : Option Admission.Credential) :
    state.muted.assignment cfg moment src req credential =
      state.assignment cfg moment src req credential := by
  unfold Matchmaker.assignment
  cases resolveTier cfg.toConfig moment.policy moment.tiers credential with
  | error => rfl
  | ok limits =>
    dsimp only
    rw [choose_muted]
    cases state.choose moment src req limits with
    | error => rfl
    | ok exit =>
      change Except.ok (state.muted.pairing cfg moment src req limits exit.muted) = _
      rw [pairing_muted]

theorem connect_muted (src : UDPAddr) (sent : ConnectRequest) :
    state.muted.connect cfg moment src sent =
      ((state.connect cfg moment src sent).1.muted, (state.connect cfg moment src sent).2) := by
  have replay : ∀ nonce,
      state.muted.replay src nonce moment.now = state.replay src nonce moment.now :=
    fun _ => rfl
  have challenges : state.muted.challenges = state.challenges := rfl
  unfold Matchmaker.connect
  dsimp only
  rw [challenges, replay]
  simp only [assignment_muted]
  cases clientGates cfg moment (sent.resolved state.challenges moment src) with
  | error => rfl
  | ok credential =>
    cases state.replay src (sent.resolved state.challenges moment src).nonce moment.now with
    | some => rfl
    | none =>
      rcases admitDevice cfg state.challenges moment src
        (sent.resolved state.challenges moment src) with ⟨store, refusal | spent⟩
      · rfl
      · dsimp only
        cases state.assignment cfg moment src (sent.resolved state.challenges moment src)
          credential <;> rfl

theorem challenge_muted (moment : ChallengeMoment) (src : UDPAddr) (cred issuerCert : String) :
    state.muted.challenge cfg moment src cred issuerCert =
      ((state.challenge cfg moment src cred issuerCert).1.muted,
        (state.challenge cfg moment src cred issuerCert).2) := by
  unfold Matchmaker.challenge
  cases clientCredential cfg.toConfig moment.toMoment cred with
  | error => rfl
  | ok => split_ifs <;> rfl

theorem signal_muted (now : Admission.Time) (src : UDPAddr) (id : String) :
    state.muted.signal now src id =
      ((state.signal now src id).1.muted, (state.signal now src id).2) := by
  have sessions : state.muted.sessions = state.sessions := rfl
  unfold Matchmaker.signal
  rw [sessions]
  cases state.sessions.lookup id <;> rfl

theorem matchmaker_prune_muted (now : Admission.Time) :
    state.muted.prune now = (state.prune now).muted := by
  unfold Matchmaker.prune Matchmaker.muted
  rw [prune_muted]

/-- Whether a relay carries a session depends on when and where it was heard of. -/
theorem carried_muted (sess : Session) (registry : Registry) (now : Admission.Time) :
    sess.carried registry.muted now = sess.carried registry now := by
  unfold Session.carried Registry.muted
  dsimp only
  cases registry.relays sess.relayId <;> rfl

theorem sweepTick_muted (now : Admission.Time) :
    state.muted.sweepTick now = ((state.sweepTick now).1.muted, (state.sweepTick now).2) := by
  have registry : ∀ other : Matchmaker, other.muted.registry = other.registry.muted := fun _ => rfl
  unfold Matchmaker.sweepTick
  rw [matchmaker_prune_muted]
  unfold Matchmaker.reselectDeadRelays
  simp only [registry, carried_muted]
  rfl

/-- Every event can be followed in the view, and what is sent is the same. -/
theorem react_muted (cfg : MatchConfig) (event : Event) (strict : event.Strict) :
    state.muted.react cfg event.muted =
      ((state.react cfg event).1.muted, (state.react cfg event).2) := by
  cases event with
  | registry datagram =>
    have handled := handle_muted state.registry datagram.message datagram.src cfg.toConfig strict
    have seen : (handle cfg.toConfig state.muted.registry datagram.moment
        datagram.message.muted datagram.src).1 = _ := congrArg Prod.fst handled
    unfold Matchmaker.react Event.muted
    dsimp only
    rw [seen, matchmaker_prune_muted]
    rfl
  | challenge | connect | signal | snapshot =>
    simp only [Matchmaker.react, Event.muted, matchmaker_prune_muted, challenge_muted,
      connect_muted, signal_muted]
  | sweepTick now => exact sweepTick_muted state now
  | sweepChallenges => rfl

end

theorem countrySnapshot_muted (ranking : Ranking) (walk : List ExitNode) (load : String → Nat)
    (limits : TierLimit) :
    countrySnapshot ranking (walk.map ExitNode.muted) load limits =
      countrySnapshot ranking walk load limits := by
  have kept : ∀ (exits : List ExitNode) (test : ExitNode → Bool),
      (∀ exit, test exit.muted = test exit) →
      (exits.map ExitNode.muted).filter test = (exits.filter test).map ExitNode.muted := by
    intro exits test blind
    rw [filter_map]
    congr 2
    exact funext blind
  unfold countrySnapshot
  dsimp only
  rw [kept walk _ fun exit => rfl, map_map]
  congr 1
  funext country
  rw [kept _ _ fun exit => rfl, kept _ _ fun exit => rfl, length_map, length_map]

theorem publishedEntries_muted {geo : Geo} (required : geo.required) (registry : Registry)
    (advertise : String) (accountServices : List (String × String)) (operators : String → String)
    (exitWalk relayWalk : List String) :
    publishedEntries registry.muted geo advertise accountServices operators exitWalk relayWalk =
      publishedEntries registry geo advertise accountServices operators exitWalk relayWalk := by
  have silent : ∀ declared, geo.publishedDeclaration declared = "" := fun _ => if_pos required
  unfold publishedEntries ExitNode.published RelayNode.published
  simp only [exits_muted, relays_muted, filter_map, map_map, silent]
  rfl

section

variable {cfg : MatchConfig} {start final final' : Matchmaker} {events others : List Event}

/-- Runs on the same datagrams, but for the claimed countries, end alike. -/
theorem muted_of_follow (alike : events.map Event.muted = others.map Event.muted)
    (strict : ∀ event ∈ events, event.Strict) (strict' : ∀ event ∈ others, event.Strict)
    (run : (matchmaker cfg).follow start events = some final)
    (run' : (matchmaker cfg).follow start others = some final') : final.muted = final'.muted := by
  have view : ∀ state event, event.Strict →
      (matchmaker cfg).step (Matchmaker.muted state) (Event.muted event) =
        ((matchmaker cfg).step state event).map Matchmaker.muted := by
    intro state event strict
    exact congrArg some (congrArg Prod.fst (react_muted state cfg event strict))
  have seen := Machine.follow_map view strict start
  have seen' := Machine.follow_map view strict' start
  rw [run] at seen
  rw [run', ← alike, seen] at seen'
  exact Option.some.inj seen'

/-- Datagrams that differ in claimed countries only are strict together. -/
theorem strict_of_muted {event other : Event} (alike : event.muted = other.muted)
    (strict : event.Strict) : other.Strict := by
  have same : ∀ event : Event, event.muted.Strict ↔ event.Strict := by
    intro event
    cases event <;> exact Iff.rfl
  rwa [← same, ← alike, same]

/-- With a lookup required, two runs on the same datagrams, but for the countries nodes claim,
publish the same country for every node and the same lists, answer every further event alike, and
have the same entries signed. -/
theorem self_reports_unseen (strict : ∀ event ∈ events, event.Strict)
    (alike : events.map Event.muted = others.map Event.muted)
    (run : (matchmaker cfg).follow start events = some final)
    (run' : (matchmaker cfg).follow start others = some final') :
    (∀ id, (final.registry.exits id).map (fun exit => exit.claims.derived) =
      (final'.registry.exits id).map fun exit => exit.claims.derived) ∧
    (∀ id, (final.registry.relays id).map (fun relay => relay.claims.derived) =
      (final'.registry.relays id).map fun relay => relay.claims.derived) ∧
    (∀ ranking (walk : List String) limits now,
      countrySnapshot ranking (walk.filterMap final.registry.exits)
          (exitSessions final.sessions now) limits =
        countrySnapshot ranking (walk.filterMap final'.registry.exits)
          (exitSessions final'.sessions now) limits) ∧
    (∀ event other : Event, event.Strict → event.muted = other.muted →
      (final.react cfg event).2 = (final'.react cfg other).2) ∧
    ∀ (geo : Geo) advertise accountServices operators exitWalk relayWalk, geo.required = true →
      publishedEntries final.registry geo advertise accountServices operators exitWalk relayWalk =
        publishedEntries final'.registry geo advertise accountServices operators exitWalk
        relayWalk := by
  have strict' : ∀ event ∈ others, event.Strict := by
    intro other member
    have seen : other.muted ∈ events.map Event.muted := by
      rw [alike]
      exact mem_map_of_mem member
    obtain ⟨event, member, same⟩ := mem_map.mp seen
    exact strict_of_muted same (strict event member)
  have seen := muted_of_follow alike strict strict' run run'
  have registries : final.registry.muted = final'.registry.muted :=
    congrArg Matchmaker.registry seen
  have sessions : final.muted.sessions = final'.muted.sessions := congrArg Matchmaker.sessions seen
  change final.sessions = final'.sessions at sessions
  refine ⟨?_, ?_, ?_, ?_, ?_⟩
  · intro id
    have exits := congrArg (Option.map fun exit : ExitNode => exit.claims.derived)
      (congrFun (congrArg Registry.exits registries) id)
    simp only [Registry.muted, Option.map_map] at exits
    exact exits
  · intro id
    have relays := congrArg (Option.map fun relay : RelayNode => relay.claims.derived)
      (congrFun (congrArg Registry.relays registries) id)
    simp only [Registry.muted, Option.map_map] at relays
    exact relays
  · intro ranking walk limits now
    rw [← countrySnapshot_muted, ← countrySnapshot_muted ranking
      (walk.filterMap final'.registry.exits),
      ← exits_muted, ← exits_muted, registries, sessions]
  · intro event other strictly same
    have reaction := congrArg Prod.snd (react_muted final cfg event strictly)
    have reaction' := congrArg Prod.snd
      (react_muted final' cfg other (strict_of_muted same strictly))
    rw [← reaction, ← reaction', seen, same]
  · intro geo advertise accountServices operators exitWalk relayWalk required
    rw [← publishedEntries_muted required, registries, publishedEntries_muted required]

end

/-- A table that has every address in one country, and that is required. -/
def strictGeo : Geo := ⟨fun _ => some "NL", true, fun _ => ""⟩

/-- An exit registers with a country of its own choice. -/
def claimsCountry (country : String) : Event :=
  .registry
    { moment := { quietAt 0 with geo := strictGeo }
      message :=
        { kind := .register, id := "e1", role := Admission.roleExit, country,
          addr := "192.0.2.1:443" }
      src := ⟨.v4 0xC0000201, 4000⟩ }

/-- Two registrations that claim different countries. -/
theorem claims_unseen :
    ∃ final final',
      (matchmaker (openTo false)).follow emptyTables [claimsCountry "DE"] = some final ∧
      (matchmaker (openTo false)).follow emptyTables [claimsCountry "FR"] = some final' ∧
      (final.registry.exits "e1").map (fun exit => exit.claims.declared) = some "DE" ∧
      (final'.registry.exits "e1").map (fun exit => exit.claims.declared) = some "FR" ∧
      (final.registry.exits "e1").map (fun exit => exit.claims.derived) = some "NL" ∧
      (final'.registry.exits "e1").map (fun exit => exit.claims.derived) = some "NL" ∧
      publishedEntries final.registry strictGeo "" [] (fun _ => "") ["e1"] [] =
        publishedEntries final'.registry strictGeo "" [] (fun _ => "") ["e1"] [] := by
  have strict : ∀ event ∈ [claimsCountry "DE"], event.Strict := by
    intro event member
    rw [mem_singleton.mp member]
    rfl
  obtain ⟨derived, -, -, -, published⟩ :=
    @self_reports_unseen (openTo false) emptyTables _ _ [claimsCountry "DE"] [claimsCountry "FR"]
      strict rfl rfl rfl
  have resolved : (((claimsCountry "DE" |> emptyTables.react
    (openTo false)).1.registry.exits "e1").map
      fun exit => exit.claims.derived) = some "NL" := by
    decide +kernel
  exact ⟨_, _, rfl, rfl, by decide +kernel, by decide +kernel, resolved, (derived "e1") ▸ resolved,
    published strictGeo _ _ _ _ _ rfl⟩

end Bacchus.Coordinator
