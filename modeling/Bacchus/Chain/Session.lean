import Bacchus.Chain.Pairing

/-!
# A chained session and its rebuilds

Streams are dialed over a session side by side. One that fails past the head builds a fresh
chain from the directory in force and swaps it in, if the session still carries the chain it
failed over. The relay in front was compared with the hops of the first plan only.
-/

namespace Bacchus.Chain

open List Option

inductive ChainFault where
  | dead
  | stalled
  | refused
  | rejected
deriving DecidableEq

/-- How the handshake of one layer fails: whether the previous hop sealed a refusal, whether it ran
out of time, and whether the client's anchor turned the node down. -/
structure LayerFailure where
  refusal : Bool := false
  stalled : Bool := false
  rejected : Bool := false

/-- `classifyLayer`. A rejection is one even if it was late. -/
def classifyLayer (failure : LayerFailure) : ChainFault :=
  if failure.rejected then .rejected else if failure.stalled then .stalled else .dead

/-- `chainDialError`: `hop` counts from one; the exit comes last. -/
structure ChainDialError where
  hop : Nat
  of : Nat
  suspect : String
  fault : ChainFault

/-- A failed dial. One that is not a chain's blames no node. -/
inductive DialError where
  | chain (error : ChainDialError)
  | other

/-- The loop of `dialChain`; `layers` says which handshake fails. -/
def dialLayers (of : Nat) (layers : Nat → Option LayerFailure) :
    (index : Nat) → (prev : Option String) → List String → Option ChainDialError
  | _, _, [] => none
  | index, prev, node :: nodes =>
    match layers index with
    | none => dialLayers of layers (index + 1) (some node) nodes
    | some failure =>
      match prev, failure.refusal with
      | some refuser, true => some ⟨index, of, refuser, .refused⟩
      | _, _ => some ⟨index + 1, of, node, classifyLayer failure⟩

/-- `dialE2E`; `anchored`: the verifier of hops can be built. -/
def dialE2E (plan : ChainPlan) (anchored : Bool) (layers : Nat → Option LayerFailure) :
    Option DialError :=
  if plan.hops = [] then (layers 0).map fun _ => .other
  else if anchored = false then some .other
  else (dialLayers plan.hops.length layers 0 none (plan.hopIds ++ [plan.exitId])).map .chain

inductive ChainRecovery where
  | giveUp
  | rebuild
  | repath

/-- `recoveryFor`, with the node to cool. -/
def recoveryFor : DialError → ChainRecovery × String
  | .other => (.giveUp, "")
  | .chain error =>
    if error.fault = .rejected then (.giveUp, error.suspect)
    else if error.hop = 1 then (.repath, error.suspect)
    else (.rebuild, error.suspect)

def chainRebuildMax : Nat := 2

def hopCooldown : Time := 5 * 60 * 10 ^ 9

/-- Where a stream stands in `dialChainedStream`. A plan is known by its position among the plans so
far. -/
inductive Point where
  | reading
  | opening (plan : Nat)
  | dialing (plan : Nat)
  | closing
  | loading (plan : Nat)
  | building (plan : Nat) (held : Option RelayDirectory) (since : Time)
  | swapping (plan fresh : Nat)
  | finished

/-- A stream of the session and its attempts. -/
structure Stream where
  attempt : Nat := 0
  point : Point := .reading

/-- A chained session, with what its streams share of the engine. -/
structure Session where
  directory : Option RelayDirectory
  /-- When a node last failed to carry a layer. -/
  hopCool : String → Option Time := fun _ => none
  plans : List ChainPlan
  current : Nat := 0
  streams : List Stream := []
  closed : Bool := false

/-- `planOf`. -/
def Session.plan (sess : Session) : Option ChainPlan := sess.plans[sess.current]?

def Session.markHopCooling (sess : Session) (id : String) (now : Time) : Session :=
  if id = "" then sess
  else { sess with hopCool := Function.update sess.hopCool id (some now) }

def Session.hopCooling (sess : Session) (now : Time) (id : String) : Bool :=
  (sess.hopCool id).any fun failed => now - failed < hopCooldown

/-- `reloadRelayDir`: what cannot be read or loaded changes nothing. -/
def Session.reload (atlas : Atlas) (sess : Session) (file : Option Bytes) (now : Time) : Session :=
  match file.bind fun signed => (loadRelayDirectory atlas signed now).toOption with
  | some fresh => { sess with directory := some fresh }
  | none => sess

/-- What happens to a stream at its next action. -/
inductive Event where
  | read
  | opened (ok : Bool)
  | dialed (anchored : Bool) (layers : Nat → Option LayerFailure) (now : Time)
  | close
  | load (now : Time)
  /-- The draws, and the nodes that were reported to be cooling. Other streams mark nodes while
  they are asked for one by one, so some marks may be missed. -/
  | build (strict relaxed : Draws) (avoided : List String)
  | swap

/-- The point after a failed dial. -/
def Stream.recover (stream : Stream) (plan : Nat) : ChainRecovery → Point
  | .giveUp => .finished
  | .repath => .closing
  | .rebuild => if chainRebuildMax ≤ stream.attempt then .finished else .loading plan

/-- One action of a stream. -/
def Session.advance (atlas : Atlas) (sess : Session) (stream : Stream) (event : Event) :
    Option (Session × Stream) :=
  match stream.point, event with
  | .reading, .read => some (sess, { stream with point := .opening sess.current })
  | .opening plan, .opened ok =>
    let point := if ok = true ∧ sess.closed = false then .dialing plan else .finished
    some (sess, { stream with point })
  | .dialing plan, .dialed anchored layers now =>
    (sess.plans[plan]?).map fun dialed =>
      match dialE2E dialed anchored layers with
      | none => (sess, { stream with point := .finished })
      | some error =>
        (sess.markHopCooling (recoveryFor error).2 now,
          { stream with point := stream.recover plan (recoveryFor error).1 })
  | .closing, .close => some ({ sess with closed := true }, { stream with point := .finished })
  | .loading plan, .load now =>
    some (sess, { stream with point := .building plan sess.directory now })
  | .building plan held since, .build strict relaxed avoided =>
    if avoided.all (sess.hopCooling since) then
      (sess.plans[plan]?).map fun prev =>
        match rebuildChain atlas ⟨strict, relaxed, fun id => id ∈ avoided⟩ held prev with
        | .error _ => (sess, { stream with point := .finished })
        | .ok fresh =>
          ({ sess with plans := sess.plans ++ [fresh] },
            { stream with point := .swapping plan sess.plans.length })
    else none
  | .swapping plan fresh, .swap =>
    let current := if sess.current = plan then fresh else sess.current
    some ({ sess with current }, ⟨stream.attempt + 1, .reading⟩)
  | _, _ => none

/-- A step of the session or of a stream. -/
inductive Label where
  | reload (file : Option Bytes) (now : Time)
  | start
  | run (index : Nat) (event : Event)

/-- Sessions paired over `relay`, from the moment `attemptWith` accepts the reply that names it. -/
def chainedSession (atlas : Atlas) (digest : Digest) (relay : String) : Machine Session Label where
  initial sess := ∃ input held relayHops mode country plan reply dedup,
    chainFor atlas input held relayHops mode country = .ok (some plan) ∧
      reply.tag = relayTagFor digest relay ∧
      (attemptWith digest (some plan) (.session reply) dedup true).1.outcome = .connectOk ∧
      sess.plans = [plan] ∧ sess.current = 0 ∧ sess.streams = []
  step sess label :=
    match label with
    | .reload file now => some (sess.reload atlas file now)
    | .start => some { sess with streams := sess.streams ++ [{}] }
    | .run index event =>
      (sess.streams[index]?).bind fun stream =>
        (sess.advance atlas stream event).map fun (after, next) =>
          { after with streams := sess.streams.set index next }

/-- What an action does to the plans: nothing, one more rebuilt plan, or a swap. -/
inductive Advances (atlas : Atlas) (sess : Session) (stream : Stream) (event : Event)
    (after : Session) (next : Stream) : Prop where
  | keeps (plans : after.plans = sess.plans) (current : after.current = sess.current)
      (point : ∀ plan fresh, next.point ≠ .swapping plan fresh)
  | builds {plan : Nat} {held : Option RelayDirectory} {since : Time} {strict relaxed : Draws}
      {avoided : List String} {prev fresh : ChainPlan}
      (stands : stream.point = .building plan held since)
      (given : event = .build strict relaxed avoided)
      (replaced : sess.plans[plan]? = some prev)
      (rebuilt : rebuildChain atlas ⟨strict, relaxed, fun id => id ∈ avoided⟩ held prev =
        .ok fresh)
      (plans : after.plans = sess.plans ++ [fresh]) (current : after.current = sess.current)
      (point : next.point = .swapping plan sess.plans.length)
  | swaps {plan fresh : Nat} (stands : stream.point = .swapping plan fresh)
      (plans : after.plans = sess.plans)
      (current : after.current = sess.current ∨ after.current = fresh)
      (point : next.point = .reading)

variable {atlas : Atlas} {digest : Digest} {relay : String} {sess after : Session}
  {stream next : Stream} {event : Event}

/-- After a failed dial a stream ends, closes the session or looks for a chain. -/
theorem Stream.mem_of_recover {plan : Nat} {action : ChainRecovery} {point : Point}
    (stands : stream.recover plan action = point) :
    point ∈ [.finished, .closing, .loading plan] := by
  subst stands
  unfold Stream.recover
  split
  · simp
  · simp
  · split <;> simp

/-- Each step of a stream is one of the cases of `Advances`. -/
theorem advances_of_advance (advanced : sess.advance atlas stream event = some (after, next)) :
    Advances atlas sess stream event after next := by
  unfold Session.advance at advanced
  split at advanced
  · cases advanced
    exact .keeps rfl rfl (by simp)
  · cases advanced
    apply Advances.keeps rfl rfl
    simp only
    split <;> simp
  · obtain ⟨_, _, result⟩ := map_eq_some_iff.mp advanced
    split at result
    · cases result
      exact .keeps rfl rfl (by simp)
    · cases result
      refine .keeps ?_ ?_ fun plan fresh stands => ?_
      · unfold Session.markHopCooling
        split <;> rfl
      · unfold Session.markHopCooling
        split <;> rfl
      · simpa using Stream.mem_of_recover stands
  · cases advanced
    exact .keeps rfl rfl (by simp)
  · cases advanced
    exact .keeps rfl rfl (by simp)
  · next plan held since strict relaxed avoided stands =>
    split at advanced
    · obtain ⟨_, replaced, result⟩ := map_eq_some_iff.mp advanced
      split at result
      · cases result
        exact .keeps rfl rfl (by simp)
      · next fresh rebuilt =>
        cases result
        exact .builds stands rfl replaced rebuilt rfl rfl rfl
    · cases advanced
  · next plan fresh stands =>
    cases advanced
    refine .swaps stands rfl ?_ rfl
    simp only
    split
    · exact .inr rfl
    · exact .inl rfl
  · cases advanced

/-- Every plan has the property, and every address in use is of a plan. -/
structure Session.Carries (Property : ChainPlan → Prop) (sess : Session) : Prop where
  plans : ∀ plan ∈ sess.plans, Property plan
  current : sess.current < sess.plans.length
  swapping : ∀ stream ∈ sess.streams, ∀ plan fresh,
    stream.point = .swapping plan fresh → fresh < sess.plans.length

/-- The rebuild a label makes, if it makes one, keeps the property. -/
def Session.RebuildKeeps (atlas : Atlas) (Property : ChainPlan → Prop) (sess : Session)
    (label : Label) : Prop :=
  ∀ index stream plan held since strict relaxed avoided prev fresh,
    label = .run index (.build strict relaxed avoided) →
    sess.streams[index]? = some stream → stream.point = .building plan held since →
    sess.plans[plan]? = some prev →
    rebuildChain atlas ⟨strict, relaxed, fun id => id ∈ avoided⟩ held prev = .ok fresh →
    Property prev → Property fresh

section

variable {Property : ChainPlan → Prop} (carries : sess.Carries Property)

include carries

/-- The plan in force has the property. -/
theorem Session.Carries.plan :
    ∃ plan ∈ sess.plans, sess.plan = some plan ∧ Property plan := by
  have member := getElem_mem carries.current
  exact ⟨_, member, getElem?_eq_getElem carries.current, carries.plans _ member⟩

theorem Session.Carries.swapping_set {index bound : Nat} (grown : sess.plans.length ≤ bound)
    (replaced : ∀ plan fresh, next.point = .swapping plan fresh → fresh < bound) :
    ∀ stream ∈ sess.streams.set index next, ∀ plan fresh,
      stream.point = .swapping plan fresh → fresh < bound := by
  intro stream member plan fresh stands
  rcases mem_or_eq_of_mem_set member with old | rfl
  · exact Nat.lt_of_lt_of_le (carries.swapping stream old plan fresh stands) grown
  · exact replaced plan fresh stands

theorem Session.Carries.run {index : Nat}
    (kept : sess.RebuildKeeps atlas Property (.run index event))
    (found : sess.streams[index]? = some stream)
    (advances : Advances atlas sess stream event after next) :
    Session.Carries Property { after with streams := sess.streams.set index next } := by
  cases advances with
  | keeps plans current point =>
    refine ⟨?_, ?_, ?_⟩
    · simpa only [plans] using carries.plans
    · simpa only [plans, current] using carries.current
    · apply carries.swapping_set
      · exact Nat.le_of_eq (congrArg length plans.symm)
      · intro plan fresh stands
        exact absurd stands (point plan fresh)
  | @builds plan held since strict relaxed avoided prev fresh stands given replaced rebuilt plans
      current point =>
      have longer : after.plans.length = sess.plans.length + 1 := by
        rw [plans, length_append, length_singleton]
      refine ⟨?_, ?_, ?_⟩
      · intro other member
        rw [plans, mem_append, mem_singleton] at member
        rcases member with old | rfl
        · exact carries.plans other old
        · exact kept index stream plan held since strict relaxed avoided prev other
            (by rw [given]) found stands replaced rebuilt
            (carries.plans prev (mem_of_getElem? replaced))
      · have before := carries.current
        simp only [current, longer]
        omega
      · apply carries.swapping_set
        · rw [longer]
          exact Nat.le_succ _
        · intro plan fresh later
          rw [point] at later
          cases later
          rw [longer]
          exact Nat.lt_succ_self _
  | @swaps plan fresh stands plans current point =>
    refine ⟨?_, ?_, ?_⟩
    · simpa only [plans] using carries.plans
    · simp only [plans]
      rcases current with same | swapped
      · rw [same]
        exact carries.current
      · rw [swapped]
        exact carries.swapping stream (mem_of_getElem? found) plan fresh stands
    · apply carries.swapping_set
      · exact Nat.le_of_eq (congrArg length plans.symm)
      · intro plan fresh later
        rw [point] at later
        cases later

/-- Only a rebuild adds a plan, so a step keeps what its rebuild keeps. -/
theorem Session.Carries.step {label : Label} {final : Session}
    (moves : (chainedSession atlas digest relay).step sess label = some final)
    (kept : sess.RebuildKeeps atlas Property label) : final.Carries Property := by
  cases label with
  | reload =>
    cases moves
    unfold Session.reload
    split
    · exact ⟨carries.plans, carries.current, carries.swapping⟩
    · exact carries
  | start =>
    cases moves
    refine ⟨carries.plans, carries.current, ?_⟩
    intro stream member plan fresh stands
    rcases mem_append.mp member with old | new
    · exact carries.swapping stream old plan fresh stands
    · rw [mem_singleton.mp new] at stands
      cases stands
  | run =>
    obtain ⟨stream, found, rest⟩ := bind_eq_some_iff.mp moves
    obtain ⟨⟨_, _⟩, advanced, rfl⟩ := map_eq_some_iff.mp rest
    exact carries.run kept found (advances_of_advance advanced)

end

/-- The chain a rebuild replaces is a single hop, or the directory it loaded does not list the
relay. -/
def Session.spares (relay : String) (sess : Session) : Label → Bool
  | .run index (.build _ _ _) =>
    match sess.streams[index]? with
    | some ⟨_, .building plan held _⟩ =>
      ((sess.plans[plan]?).all fun prev => prev.hops.length = 1) ||
        held.all fun dir => relay ∉ dir.hops.map RelayHop.id
    | _ => true
  | _ => true

/-- A rebuild under the condition leaves the relay out. -/
theorem relay_notMem_rebuilt {input : BuildInput} {held : Option RelayDirectory}
    {prev fresh : ChainPlan} (outside : relay ∉ prev.hopIds)
    (spared : prev.hops.length = 1 ∨ ∀ dir ∈ held, relay ∉ dir.hops.map RelayHop.id)
    (rebuilt : rebuildChain atlas input held prev = .ok fresh) : relay ∉ fresh.hopIds := by
  obtain ⟨dir, loaded, head, first, planned⟩ := planned_of_rebuildChain rebuilt
  intro inside
  obtain ⟨hop, member, named⟩ := mem_map.mp inside
  rcases spared with single | unlisted
  · -- The only hop is the head, which is the one the session was paired with.
    have length : fresh.hops.length = 1 := by rw [planned.length, single]
    obtain ⟨only, shape⟩ := length_eq_one_iff.mp length
    rw [shape, mem_singleton] at member
    have pinned := planned.headed only (by rw [shape]; rfl)
    rw [RelayHop.heads, if_neg head.id_ne_empty, decide_eq_true_eq] at pinned
    apply outside
    rw [← named, member, pinned]
    exact mem_map_of_mem (mem_of_mem_head? first)
  · exact unlisted dir loaded (mem_map.mpr ⟨hop, planned.listed hop member, named⟩)

/-- A step whose rebuild meets the condition leaves the relay out of every plan. -/
theorem Session.Carries.step_avoiding {label : Label} {final : Session}
    (carries : sess.Carries fun plan => relay ∉ plan.hopIds)
    (met : sess.spares relay label)
    (moves : (chainedSession atlas digest relay).step sess label = some final) :
    final.Carries fun plan => relay ∉ plan.hopIds := by
  refine carries.step moves ?_
  rintro index stream plan held since strict relaxed avoided prev fresh rfl found stands replaced
    rebuilt outside
  have spared : prev.hops.length = 1 ∨
      ∀ dir ∈ held, relay ∉ dir.hops.map RelayHop.id := by
    obtain ⟨_, _⟩ := stream
    cases stands
    simpa [Session.spares, found, replaced, Option.all_eq_true] using met
  exact relay_notMem_rebuilt outside spared rebuilt

/-- In every run whose rebuilds meet the condition, the session carries a plan without the relay. -/
theorem carried_plan_avoids_relay {labels : List Label} {state : Session}
    (runs : (chainedSession atlas digest relay).Runs
      (fun sess label => sess.spares relay label = true) labels state) :
    ∃ plan, state.plan = some plan ∧ relay ∉ plan.hopIds := by
  have carries : state.Carries fun plan => relay ∉ plan.hopIds := by
    apply runs.invariant
    · rintro state ⟨input, held, relayHops, mode, country, plan, reply, dedup, -,
        truthful, accepted,
        plans, current, streams⟩
      refine ⟨?_, ?_, ?_⟩
      · intro carried member
        rw [plans, mem_singleton] at member
        rw [member]
        exact relay_notMem_hops truthful accepted
      · rw [plans, current]
        exact Nat.one_pos
      · rw [streams]
        nofun
    · intro state label next carries met transition
      exact carries.step_avoiding met transition
  obtain ⟨plan, -, carried, outside⟩ := carries.plan
  exact ⟨plan, carried, outside⟩

/-- Draws that keep every order and choose the first exit. -/
def steadyDraws : Draws := ⟨some 0, fun pos => some pos⟩

/-- A relay with a listener for layers, as a snapshot lists it. -/
def relayHopEntry (digit : Char) (ingress : String) : Entry :=
  { role := "relay", id := nodeId digit, ingress }

/-- Two exits and two relays that serve as hops. -/
def fourNodes : List Entry :=
  [exitEntry 'a' "192.0.2.1:443", exitEntry 'b' "192.0.2.2:443", relayHopEntry 'c' "192.0.2.3:9000",
    relayHopEntry 'd' "192.0.2.4:9000"]

/-- A chain of depth three over the four nodes. -/
def fourNodesChain : Except ChainError (Option ChainPlan) :=
  chainFor (atlasFor fourNodes) ⟨steadyDraws, steadyDraws, fun _ => false⟩ (heldDirectory fourNodes)
    3 .relay "NL"

/-- A session paired with that chain. -/
def fourNodesSession : Session where
  directory := heldDirectory fourNodes
  plans := (fourNodesChain.toOption.bind id).toList

/-- The second hop does not answer, and a stream rebuilds the chain without it. -/
def rebuildOnce : List Label :=
  [.start, .run 0 .read, .run 0 (.opened true),
    .run 0 (.dialed true (fun index => if index = 1 then some {} else none) 10), .run 0 (.load 10),
    .run 0 (.build steadyDraws steadyDraws [nodeId 'c']), .run 0 .swap]

/-- The chain of four nodes, computed. -/
theorem fourNodesChain_eq : ∃ plan, fourNodesChain = .ok (some plan) ∧
    fourNodesSession.plans = [plan] ∧ plan.hopIds = [nodeId 'b', nodeId 'c'] := by
  have computed : (fourNodesChain.toOption.bind id).any (fun plan =>
      decide (plan.hopIds = [nodeId 'b', nodeId 'c'])) := by decide +kernel
  obtain ⟨plan, chain, shape⟩ := chain_of_any computed
  refine ⟨plan, chain, ?_, of_decide_eq_true shape⟩
  rw [fourNodesSession, chain]
  rfl

/-- The coordinator assigned a relay with another tag than the hops. -/
theorem fourNodesSession_initial {digest : Digest} {digit : Char}
    (head : relayTagFor digest (nodeId 'b') ≠ relayTagFor digest (nodeId digit))
    (second : relayTagFor digest (nodeId 'c') ≠ relayTagFor digest (nodeId digit)) :
    (chainedSession (atlasFor fourNodes) digest (nodeId digit)).initial fourNodesSession := by
  obtain ⟨plan, planned, plans, hops⟩ := fourNodesChain_eq
  let reply : Reply := ⟨"s1", "", .peer, relayTagFor digest (nodeId digit)⟩
  refine ⟨_, _, _, _, _, plan, reply, none, planned, rfl, ?_, plans, rfl, rfl⟩
  apply connectOk_of_verified rfl
  apply verifyChainDisjoint_eq_ok_iff.mpr
  intro hop member
  have named : hop.id ∈ plan.hopIds := mem_map_of_mem member
  rw [hops, mem_cons, mem_singleton] at named
  rcases named with first | last
  · rwa [first]
  · rwa [last]

/-- A digest that tells the nodes apart by the end of their ids. -/
def tailDigest : Digest where
  hash content := (content.reverse ++ List.replicate 32 0).take 32
  length_hash content := by simp

/-- The rebuilt chain goes through a relay that was not in it, whatever relay was assigned. -/
theorem rebuildOnce_follow (digest : Digest) (relay : String) :
    ∃ state plan, (chainedSession (atlasFor fourNodes) digest relay).follow fourNodesSession
      rebuildOnce = some state ∧ state.current ≠ 0 ∧ state.plan = some plan ∧
        nodeId 'd' ∈ plan.hopIds := by
  have computed : ((chainedSession (atlasFor fourNodes) tailDigest "").follow
      fourNodesSession rebuildOnce).any (fun state => decide (state.current ≠ 0) &&
        state.plan.any fun plan => decide (nodeId 'd' ∈ plan.hopIds)) := by
    decide +kernel
  obtain ⟨state, followed, holds⟩ := (any_eq_true _ _).mp computed
  obtain ⟨swapped, hops⟩ := Bool.and_eq_true_iff.mp holds
  obtain ⟨plan, carried, inside⟩ := (any_eq_true _ _).mp hops
  refine ⟨state, plan, ?_, of_decide_eq_true swapped, carried, of_decide_eq_true inside⟩
  rw [← followed]
  exact Machine.follow_congr rfl _ _

/-- The relay of a session becomes a hop of the chain it carries. -/
theorem relay_becomes_hop : ∃ labels, ∀ digest,
    relayTagFor digest (nodeId 'b') ≠ relayTagFor digest (nodeId 'd') →
    relayTagFor digest (nodeId 'c') ≠ relayTagFor digest (nodeId 'd') →
    ∃ state plan,
      (chainedSession (atlasFor fourNodes) digest (nodeId 'd')).Runs Machine.free labels state ∧
        state.plan = some plan ∧ nodeId 'd' ∈ plan.hopIds := by
  refine ⟨rebuildOnce, fun digest head second => ?_⟩
  obtain ⟨state, plan, followed, _, carried, inside⟩ := rebuildOnce_follow digest (nodeId 'd')
  exact ⟨state, plan, .ofFollow (fourNodesSession_initial head second) followed
    (Machine.meets_free _ _), carried, inside⟩

/-- A relay the directory does not list stays out of the rebuilt chain. -/
theorem unlisted_relay_stays_out : ∃ labels state plan,
    (chainedSession (atlasFor fourNodes) tailDigest (nodeId 'e')).Runs
      (fun sess label => sess.spares (nodeId 'e') label = true) labels state ∧
      state.current ≠ 0 ∧ state.plan = some plan ∧ nodeId 'e' ∉ plan.hopIds := by
  obtain ⟨state, _, followed, swapped, _⟩ := rebuildOnce_follow tailDigest (nodeId 'e')
  have runs : (chainedSession (atlasFor fourNodes) tailDigest (nodeId 'e')).Runs
      (fun sess label => sess.spares (nodeId 'e') label) rebuildOnce state := by
    apply Machine.Runs.ofFollow _ followed
    · decide +kernel
    · exact fourNodesSession_initial (by decide +kernel) (by decide +kernel)
  obtain ⟨plan, carried, outside⟩ := carried_plan_avoids_relay runs
  exact ⟨rebuildOnce, state, plan, runs, swapped, carried, outside⟩

end Bacchus.Chain
