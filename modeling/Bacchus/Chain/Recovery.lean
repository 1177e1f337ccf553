import Bacchus.Chain.Session

/-!
# What a recovered chain keeps

A session is paired with one plan and may be given others while its streams fail and the
directory is reloaded. Each keeps the head, the depth and the country, and ends at an exit of a
signed directory. A country that is no code filters nothing.
-/

namespace Bacchus.Chain

open List Option

/-- The directory was read from a verified, unexpired snapshot. -/
def RelayDirectory.Loaded (atlas : Atlas) (dir : RelayDirectory) : Prop :=
  ∃ signed now, loadRelayDirectory atlas signed now = .ok dir

/-- Sessions from the moment a chained attempt is accepted, whatever tag the relay was given. -/
def pairedSession (atlas : Atlas) (digest : Digest) : Machine Session Label where
  initial sess := ∃ input held relayHops mode country plan reply dedup,
    (∀ dir ∈ held, dir.Loaded atlas) ∧
      (∀ dir ∈ sess.directory, dir.Loaded atlas) ∧
      chainFor atlas input held relayHops mode country = .ok (some plan) ∧
      (attemptWith digest (some plan) (.session reply) dedup true).1.outcome = .connectOk ∧
      sess.plans = [plan] ∧ sess.current = 0 ∧ sess.streams = []
  step := (chainedSession atlas digest "").step

/-- The exit of a plan is one of a loaded directory, taken for its country. -/
def ExitFor (atlas : Atlas) (plan : ChainPlan) : Prop :=
  ∃ dir : RelayDirectory, dir.Loaded atlas ∧ ∃ exit ∈ dir.hops,
    exit.id = plan.exitId ∧ exit.pub = plan.exitPub ∧ exit.pairable ∧
      exit.countryContradicted = false ∧ exit.inCountry plan.country

/-- A plan that may stand in for the one the session was paired with. -/
structure Replaces (atlas : Atlas) (paired plan : ChainPlan) : Prop where
  /-- The same first hop, by id and key. -/
  head : ∃ first ∈ paired.hops.head?, ∃ hop ∈ plan.hops.head?,
    hop.id = first.id ∧ hop.pub = first.pub
  length : plan.hops.length = paired.hops.length
  country : plan.country = paired.country
  distinct : plan.hopIds.Nodup
  apart : plan.exitId ∉ plan.hopIds
  exit : ExitFor atlas plan

variable {atlas : Atlas} {digest : Digest} {sess after : Session} {stream next : Stream}
  {event : Event} {paired prev plan fresh : ChainPlan}

variable {country : String}

theorem exitFor_of_planned {dir : RelayDirectory} {depth : Nat} {pinHead : String}
    (planned : Planned dir depth country pinHead plan) (loaded : dir.Loaded atlas) :
    ExitFor atlas plan := by
  obtain ⟨exit, listed, named, keyed⟩ := planned.exit
  obtain ⟨member, usable⟩ := mem_filter.mp listed
  simp only [Bool.and_eq_true, Bool.not_eq_true'] at usable
  obtain ⟨⟨pairable, uncontradicted⟩, inCountry⟩ := usable
  exact ⟨dir, loaded, exit, member, named, keyed, pairable, uncontradicted,
    planned.country ▸ inCountry⟩

variable {input : BuildInput} {held : Option RelayDirectory}

theorem replaces_of_chainFor {relayHops : Int} {mode : Mode}
    (loaded : ∀ dir ∈ held, dir.Loaded atlas)
    (built : chainFor atlas input held relayHops mode country = .ok (some plan)) :
    Replaces atlas plan plan := by
  obtain ⟨dir, src, _, planned⟩ := planned_of_chainFor built
  have some : 0 < plan.hops.length := by
    rw [planned.length]
    omega
  obtain ⟨first, _, shape⟩ := exists_cons_of_length_pos some
  refine ⟨⟨first, ?_, first, ?_, rfl, rfl⟩, rfl, rfl, planned.distinct, planned.apart,
    exitFor_of_planned planned (loaded dir src)⟩
  all_goals
    rw [shape]
    rfl

/-- A rebuild keeps the head, the depth and the country of the plan it replaces. -/
theorem Replaces.rebuilt (replaces : Replaces atlas paired prev)
    (loaded : ∀ dir ∈ held, dir.Loaded atlas)
    (rebuilt : rebuildChain atlas input held prev = .ok fresh) :
    Replaces atlas paired fresh := by
  obtain ⟨dir, src, pinned, carried, planned⟩ := planned_of_rebuildChain rebuilt
  obtain ⟨first, paired, hop, head, sameId, samePub⟩ := replaces.head
  obtain rfl : hop = pinned := some.inj (head.symm.trans carried)
  have length : fresh.hops.length = prev.hops.length := planned.length
  have some : 0 < fresh.hops.length := by
    rw [length]
    exact length_pos_of_mem (mem_of_mem_head? head)
  obtain ⟨again, _, shape⟩ := exists_cons_of_length_pos some
  have leads : again ∈ fresh.hops.head? := by
    rw [shape]
    rfl
  have same : again.id = hop.id := by
    have heads := planned.headed again leads
    rw [RelayHop.heads, if_neg hop.id_ne_empty, decide_eq_true_eq] at heads
    exact heads
  refine ⟨⟨first, paired, again, leads, same.trans sameId, ?_⟩, length.trans replaces.length,
    planned.country.trans replaces.country, planned.distinct, planned.apart,
    exitFor_of_planned planned (loaded dir src)⟩
  exact (RelayHop.pub_of_id same).trans samePub

theorem eq_ok_of_toOption {Failure Result : Type} {outcome : Except Failure Result}
    {result : Result}
    (succeeded : outcome.toOption = some result) : outcome = .ok result := by
  cases outcome with
  | error => cases succeeded
  | ok =>
    cases succeeded
    rfl

/-- The directory in force, and those streams have read, were loaded. -/
structure Session.Sourced (atlas : Atlas) (sess : Session) : Prop where
  inForce : ∀ dir ∈ sess.directory, dir.Loaded atlas
  read : ∀ stream ∈ sess.streams, ∀ plan held since, stream.point = .building plan held since →
    ∀ dir ∈ held, dir.Loaded atlas

/-- An action changes no directory; a stream reads the one in force. -/
theorem directory_of_advance (advanced : sess.advance atlas stream event = some (after, next)) :
    after.directory = sess.directory ∧
      ∀ plan held since, next.point = .building plan held since → held = sess.directory := by
  unfold Session.advance at advanced
  split at advanced
  · cases advanced
    exact ⟨rfl, by simp⟩
  · cases advanced
    refine ⟨rfl, ?_⟩
    simp only
    split <;> simp
  · obtain ⟨_, -, result⟩ := map_eq_some_iff.mp advanced
    split at result
    · cases result
      exact ⟨rfl, by simp⟩
    · cases result
      constructor
      · unfold Session.markHopCooling
        split <;> rfl
      · intro plan held since stands
        simpa using Stream.mem_of_recover stands
  · cases advanced
    exact ⟨rfl, by simp⟩
  · cases advanced
    refine ⟨rfl, fun plan held since stands => ?_⟩
    cases stands
    rfl
  · split at advanced
    · obtain ⟨_, -, result⟩ := map_eq_some_iff.mp advanced
      split at result <;> cases result <;> exact ⟨rfl, by simp⟩
    · cases advanced
  · cases advanced
    exact ⟨rfl, by simp⟩
  · cases advanced

theorem Session.Sourced.step {label : Label} {final : Session} (sourced : sess.Sourced atlas)
    (moves : (pairedSession atlas digest).step sess label = some final) :
    final.Sourced atlas := by
  cases label with
  | reload file now =>
    cases moves
    unfold Session.reload
    split
    · next fresh loaded =>
      refine ⟨?_, sourced.read⟩
      rintro dir ⟨⟩
      obtain ⟨signed, -, success⟩ := bind_eq_some_iff.mp loaded
      exact ⟨signed, now, eq_ok_of_toOption success⟩
    · exact sourced
  | start =>
    cases moves
    refine ⟨sourced.inForce, ?_⟩
    intro stream member plan held since stands
    rcases mem_append.mp member with old | new
    · exact sourced.read stream old plan held since stands
    · rw [mem_singleton.mp new] at stands
      cases stands
  | run =>
    obtain ⟨stream, -, rest⟩ := bind_eq_some_iff.mp moves
    obtain ⟨⟨_, next⟩, advanced, rfl⟩ := map_eq_some_iff.mp rest
    obtain ⟨same, reads⟩ := directory_of_advance advanced
    refine ⟨?_, ?_⟩
    · simpa only [same] using sourced.inForce
    · intro other member plan held since stands
      rcases mem_or_eq_of_mem_set member with old | rfl
      · exact sourced.read other old plan held since stands
      · rw [reads plan held since stands]
        exact sourced.inForce

/-- Every plan of the session stands in for the first. -/
structure Session.Recovers (atlas : Atlas) (sess : Session) : Prop where
  sourced : sess.Sourced atlas
  carries : ∃ paired, sess.plans.head? = some paired ∧ sess.Carries (Replaces atlas paired)

theorem recovers_initial (initial : (pairedSession atlas digest).initial sess) :
    sess.Recovers atlas := by
  obtain ⟨_, _, _, _, _, plan, _, _, loaded, inForce, built, -, plans,
    current, streams⟩ := initial
  refine ⟨⟨inForce, by simp [streams]⟩, plan, by simp [plans], ?_, ?_, by simp [streams]⟩
  · intro other member
    rw [plans, mem_singleton] at member
    rw [member]
    exact replaces_of_chainFor loaded built
  · rw [plans, current]
    exact Nat.one_pos

/-- Plans are only ever added, so the first one stays. -/
theorem head_of_step {label : Label} {final : Session}
    (moves : (pairedSession atlas digest).step sess label = some final)
    (first : sess.plans.head? = some paired) : final.plans.head? = some paired := by
  cases label with
  | reload =>
    cases moves
    unfold Session.reload
    split <;> exact first
  | start =>
    cases moves
    exact first
  | run =>
    obtain ⟨_, -, rest⟩ := bind_eq_some_iff.mp moves
    obtain ⟨⟨_, _⟩, advanced, rfl⟩ := map_eq_some_iff.mp rest
    cases advances_of_advance advanced with
    | keeps plans | swaps _ plans => simpa only [plans] using first
    | builds _ _ _ _ plans => simp only [plans, head?_append, first, some_or]

theorem Session.Recovers.step {label : Label} {final : Session} (recovers : sess.Recovers atlas)
    (moves : (pairedSession atlas digest).step sess label = some final) :
    final.Recovers atlas := by
  obtain ⟨paired, first, carries⟩ := recovers.carries
  have chained : (chainedSession atlas digest "").step sess label = some final := moves
  refine ⟨recovers.sourced.step moves, paired, head_of_step moves first,
    carries.step chained ?_⟩
  intro index stream plan held since strict relaxed avoided prev fresh _ found stands _ rebuilt
    replaces
  have loaded := recovers.sourced.read stream (mem_of_getElem? found) plan held since stands
  exact replaces.rebuilt loaded rebuilt

/-- However often the directory is reloaded and however failing dials interleave, the plan a session
carries has the head, the depth and the country of the one it was paired with, passes through
different nodes, and ends at an exit of a signed directory that is tagged with the country, if that
is a code. -/
theorem recovered_plan_keeps_path {labels : List Label} {state : Session} {paired : ChainPlan}
    (runs : (pairedSession atlas digest).Runs Machine.free labels state)
    (first : state.plans.head? = some paired) (code : Geoip.canonical paired.country ≠ "") :
    ∃ plan, state.plan = some plan ∧
      (∃ head ∈ paired.hops.head?, ∃ hop ∈ plan.hops.head?,
        hop.id = head.id ∧ hop.pub = head.pub) ∧
      plan.hops.length = paired.hops.length ∧ plan.country = paired.country ∧
      plan.hopIds.Nodup ∧ plan.exitId ∉ plan.hopIds ∧
      ∃ dir : RelayDirectory, dir.Loaded atlas ∧ ∃ exit ∈ dir.hops,
        exit.id = plan.exitId ∧ exit.pub = plan.exitPub ∧ exit.pairable = true ∧
          Geoip.canonical exit.country = Geoip.canonical paired.country ∧
          exit.countryContradicted = false := by
  have recovers : state.Recovers atlas := by
    apply runs.invariant recovers_initial
    intro sess label final recovers _ transition
    exact recovers.step transition
  obtain ⟨other, same, carries⟩ := recovers.carries
  obtain rfl : paired = other := some.inj (first.symm.trans same)
  obtain ⟨plan, -, carried, replaces⟩ := carries.plan
  refine ⟨plan, carried, replaces.head, replaces.length, replaces.country, replaces.distinct,
    replaces.apart, ?_⟩
  obtain ⟨dir, loaded, exit, member, named, keyed, pairable, uncontradicted, inCountry⟩ :=
    replaces.exit
  rw [replaces.country, RelayHop.inCountry, decide_eq_true_eq] at inCountry
  exact ⟨dir, loaded, exit, member, named, keyed, pairable, inCountry.resolve_left code,
    uncontradicted⟩

theorem loaded_heldDirectory (entries : List Entry) :
    ∀ dir ∈ heldDirectory entries, dir.Loaded (atlasFor entries) :=
  fun _ held => ⟨[], 0, eq_ok_of_toOption held⟩

/-- A session over the four nodes, paired with a chain for the country given. -/
def sessionFor (country : String) : Session where
  directory := heldDirectory fourNodes
  plans := ((chainFor (atlasFor fourNodes) ⟨steadyDraws, steadyDraws, fun _ => false⟩
    (heldDirectory fourNodes) 3 .relay country).toOption.bind id).toList

theorem sessionFor_paired {plan : ChainPlan}
    (built : chainFor (atlasFor fourNodes) ⟨steadyDraws, steadyDraws, fun _ => false⟩
      (heldDirectory fourNodes) 3 .relay country = .ok (some plan)) :
    (pairedSession (atlasFor fourNodes) tailDigest).initial (sessionFor country) := by
  -- A coordinator that names no relay passes the check of the tag.
  let reply : Reply := ⟨"s1", "", .peer, ""⟩
  refine ⟨_, _, _, _, _, plan, reply, none, loaded_heldDirectory fourNodes,
    loaded_heldDirectory fourNodes, built, connectOk_of_verified rfl rfl, ?_, rfl, rfl⟩
  rw [sessionFor, built]
  rfl

/-- The chain is rebuilt around a dead hop, and what it keeps is kept. -/
theorem rebuilt_keeps_path :
    ∃ state paired plan, (pairedSession (atlasFor fourNodes) tailDigest).Runs Machine.free
        rebuildOnce state ∧
      state.plans.head? = some paired ∧ state.plan = some plan ∧ state.current ≠ 0 ∧
      paired.country = "NL" ∧ plan.hops.length = paired.hops.length ∧
      plan.country = paired.country ∧ plan.hopIds.Nodup := by
  have computed : ((pairedSession (atlasFor fourNodes) tailDigest).follow (sessionFor "NL")
      rebuildOnce).any (fun state => decide (state.current ≠ 0) &&
        state.plans.head?.any fun plan => plan.country = "NL") := by
    decide +kernel
  obtain ⟨state, followed, holds⟩ := (any_eq_true _ _).mp computed
  obtain ⟨swapped, named⟩ := Bool.and_eq_true_iff.mp holds
  obtain ⟨paired, first, country⟩ := (any_eq_true _ _).mp named
  have requested : paired.country = "NL" := of_decide_eq_true country
  obtain ⟨_, chain, -⟩ := fourNodesChain_eq
  have runs : (pairedSession (atlasFor fourNodes) tailDigest).Runs Machine.free rebuildOnce state :=
    .ofFollow (sessionFor_paired chain) followed (Machine.meets_free _ _)
  have code : Geoip.canonical paired.country ≠ "" := by
    rw [requested]
    decide +kernel
  obtain ⟨plan, carried, -, length, same, distinct, -⟩ := recovered_plan_keeps_path runs first code
  exact ⟨state, paired, plan, runs, first, carried, of_decide_eq_true swapped, requested, length,
    same, distinct⟩

/-- A client that asks for a country by name is given an exit of another. -/
theorem named_country_is_not_kept :
    ∃ state plan, (pairedSession (atlasFor fourNodes) tailDigest).Runs Machine.free [] state ∧
      state.plan = some plan ∧ plan.country = "Germany" ∧
      ∀ dir : RelayDirectory, dir.Loaded (atlasFor fourNodes) →
        ∀ exit ∈ dir.hops, exit.id = plan.exitId → exit.country = "NL" := by
  have computed : ((chainFor (atlasFor fourNodes) ⟨steadyDraws, steadyDraws, fun _ => false⟩
      (heldDirectory fourNodes) 3 .relay "Germany").toOption.bind id).any (fun plan =>
        decide (plan.country = "Germany" ∧ plan.exitId = nodeId 'a')) := by
    decide +kernel
  obtain ⟨plan, chain, shape⟩ := chain_of_any computed
  obtain ⟨country, exit⟩ := of_decide_eq_true shape
  have listed : ∀ hop ∈ (fourNodes.foldl RelayDirectory.add {}).hops,
      hop.id = nodeId 'a' → hop.country = "NL" := by
    decide +kernel
  refine ⟨sessionFor "Germany", plan, .initial (sessionFor_paired chain), ?_, country, ?_⟩
  · rw [Session.plan, sessionFor, chain]
    rfl
  · rintro dir ⟨signed, now, loaded⟩ hop member named
    unfold loadRelayDirectory at loaded
    simp only [atlasFor] at loaded
    split_ifs at loaded
    cases loaded
    exact listed hop member (named.trans exit)

end Bacchus.Chain
