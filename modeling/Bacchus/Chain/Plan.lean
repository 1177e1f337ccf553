import Bacchus.Chain.Selection
import Mathlib.Data.List.GetD

/-!
# Planning a chain

A plan names a terminating exit of the signed directory and the hops before it. Nodes that failed
lately are avoided as long as a chain can be built without them. A rebuild keeps the head, the
depth and the country of the plan it replaces.
-/

namespace Bacchus.Chain

/-- The hops and the exit of a session. -/
structure ChainPlan where
  hops : List RelayHop
  exitId : String
  exitPub : Bytes
  exitDia : String
  country : String
deriving DecidableEq

def ChainPlan.firstHopId (plan : ChainPlan) : String := (plan.hops.head?.map RelayHop.id).getD ""

/-- The ids of the hops, in the order they peel. -/
def ChainPlan.hopIds (plan : ChainPlan) : List String := plan.hops.map RelayHop.id

/-- What `crypto/rand` answers during one selection; it may fail. -/
structure Draws where
  exit : Option Nat
  shuffle : Nat → Option Nat

/-- The exits `chooseChainExitAvoiding` draws from. -/
def RelayDirectory.usableExits (dir : RelayDirectory) (country : String)
    (avoid : Option (String → Bool)) : List RelayHop :=
  (dir.exitsIn country).filter fun hop =>
    !(avoid.any fun cooling => cooling hop.id) && dir.exitAddr hop.id ≠ ""

def chooseChainExitAvoiding (draws : Draws) (dir : RelayDirectory) (country : String)
    (avoid : Option (String → Bool)) : Except ChainError RelayHop :=
  match dir.usableExits country avoid with
  | [] => .error (.noExit country (dir.contradictedIn country))
  | first :: rest =>
    match draws.exit with
    | none => .error .random
    | some drawn => .ok ((first :: rest).getD (drawn % (rest.length + 1)) first)

def hopsAvoiding (candidates : List RelayHop) (avoid : Option (String → Bool)) (pinHead : String) :
    List RelayHop :=
  match avoid with
  | none => candidates
  | some cooling => candidates.filter fun hop => hop.id = pinHead || !cooling hop.id

structure ChainChoice where
  exit : RelayHop
  hops : List RelayHop
  diversity : HopDiversity

/-- `selectChain`. The relay in front is one of the `depth` nodes. -/
def selectChain (atlas : Atlas) (draws : Draws) (dir : RelayDirectory) (depth : Nat)
    (country pinHead : String) (avoid : Option (String → Bool)) : Except ChainError ChainChoice :=
  match chooseChainExitAvoiding draws dir country avoid with
  | .error failure => .error failure
  | .ok exit =>
    match selectHopsHeaded atlas draws.shuffle (hopsAvoiding dir.hops avoid pinHead)
        (depth - 1) exit.id pinHead with
    | .error failure => .error failure
    | .ok (hops, diversity) => .ok ⟨exit, hops, diversity⟩

/-- What a build of a chain is given: the draws of the strict and of the relaxed selection, and the
nodes that are cooling. -/
structure BuildInput where
  strict : Draws
  relaxed : Draws
  cooling : String → Bool

/-- The plan a choice makes. -/
def ChainChoice.plan (choice : ChainChoice) (dir : RelayDirectory) (country : String) :
    ChainPlan where
  hops := choice.hops
  exitId := choice.exit.id
  exitPub := choice.exit.pub
  exitDia := dir.exitAddr choice.exit.id
  country := country

/-- `buildChainHeaded`: avoid cooling nodes, or else consider everything. -/
def buildChainHeaded (atlas : Atlas) (input : BuildInput) (dir : Option RelayDirectory)
    (depth : Nat) (country pinHead : String) : Except ChainError ChainPlan :=
  match dir with
  | none => .error .noRelayDirectory
  | some dir =>
    match selectChain atlas input.strict dir depth country pinHead (some input.cooling) with
    | .ok choice => .ok (choice.plan dir country)
    | .error failure =>
      match selectChain atlas input.relaxed dir depth country pinHead none with
      | .ok choice => .ok (choice.plan dir country)
      | .error _ => .error failure

def chainDepth (relayHops : Int) : Nat := if relayHops < 1 then 1 else relayHops.toNat

/-- How the client connects. -/
inductive Mode where
  | direct
  | relay
deriving DecidableEq

/-- `chainFor`: no plan for an attempt that does not chain. -/
def chainFor (atlas : Atlas) (input : BuildInput) (dir : Option RelayDirectory)
    (relayHops : Int) (mode : Mode) (country : String) : Except ChainError (Option ChainPlan) :=
  if mode ≠ .relay ∨ chainDepth relayHops < 2 then .ok none
  else
    match buildChainHeaded atlas input dir (chainDepth relayHops) country "" with
    | .ok plan => .ok (some plan)
    | .error failure => .error failure

/-- Another chain behind the same head. -/
def rebuildChain (atlas : Atlas) (input : BuildInput) (dir : Option RelayDirectory)
    (prev : ChainPlan) : Except ChainError ChainPlan :=
  match prev.hops with
  | [] => .error .noChain
  | head :: rest =>
    buildChainHeaded atlas input dir (rest.length + 2) prev.country head.id

/-- A plan built from a directory: different hops in the number asked for, with the head asked for,
none of them the exit, and an exit of the country. -/
structure Planned (dir : RelayDirectory) (depth : Nat) (country pinHead : String)
    (plan : ChainPlan) : Prop where
  length : plan.hops.length = depth - 1
  distinct : plan.hopIds.Nodup
  listed : ∀ hop ∈ plan.hops, hop ∈ dir.hops
  apart : plan.exitId ∉ plan.hopIds
  headed : ∀ hop ∈ plan.hops.head?, hop.heads pinHead
  exit : ∃ exit ∈ dir.exitsIn country, exit.id = plan.exitId ∧ exit.pub = plan.exitPub
  country : plan.country = country

variable {atlas : Atlas} {dir : RelayDirectory} {depth : Nat} {country pinHead : String}
  {plan : ChainPlan} {avoid : Option (String → Bool)}

theorem mem_of_mem_hopsAvoiding {candidates : List RelayHop} {hop : RelayHop}
    (member : hop ∈ hopsAvoiding candidates avoid pinHead) : hop ∈ candidates := by
  unfold hopsAvoiding at member
  split at member
  · exact member
  · exact List.mem_of_mem_filter member

theorem exit_of_chooseChainExitAvoiding {draws : Draws} {exit : RelayHop}
    (chosen : chooseChainExitAvoiding draws dir country avoid = .ok exit) :
    exit ∈ dir.exitsIn country := by
  unfold chooseChainExitAvoiding at chosen
  split at chosen
  · cases chosen
  · next first rest usable =>
    split at chosen
    · cases chosen
    · next drawn _ =>
      cases chosen
      have index : drawn % (rest.length + 1) < (first :: rest).length :=
        Nat.mod_lt _ (Nat.succ_pos _)
      have member : (first :: rest).getD (drawn % (rest.length + 1)) first ∈
          dir.usableExits country avoid := by
        rw [usable, List.getD_eq_getElem _ _ index]
        exact List.getElem_mem index
      exact List.mem_of_mem_filter member

theorem planned_of_selectChain {draws : Draws} {choice : ChainChoice}
    (selected : selectChain atlas draws dir depth country pinHead avoid = .ok choice) :
    Planned dir depth country pinHead (choice.plan dir country) := by
  unfold selectChain at selected
  split at selected
  · cases selected
  · next exit chosen =>
    split at selected
    · cases selected
    · next hops diversity picked =>
      cases selected
      obtain ⟨length, distinct, candidates, headed⟩ := selected_of_selectHopsHeaded picked
      refine ⟨length, distinct, ?_, ?_, headed, ?_, rfl⟩
      · intro hop member
        exact mem_of_mem_hopsAvoiding (candidates hop member).1
      · intro inside
        obtain ⟨hop, member, same⟩ := List.mem_map.mp inside
        exact (candidates hop member).2 same
      · exact ⟨exit, exit_of_chooseChainExitAvoiding chosen, rfl, rfl⟩

variable {input : BuildInput} {held : Option RelayDirectory}

/-- What is built is a plan over the held directory. -/
theorem planned_of_buildChainHeaded
    (built : buildChainHeaded atlas input held depth country pinHead = .ok plan) :
    ∃ dir ∈ held, Planned dir depth country pinHead plan := by
  unfold buildChainHeaded at built
  split at built
  · cases built
  · next dir =>
    refine ⟨dir, rfl, ?_⟩
    split at built
    · next choice selected =>
      cases built
      exact planned_of_selectChain selected
    · split at built
      · next choice selected =>
        cases built
        exact planned_of_selectChain selected
      · cases built

/-- What is planned for a session is at least two deep. -/
theorem planned_of_chainFor {relayHops : Int} {mode : Mode}
    (planned : chainFor atlas input held relayHops mode country = .ok (some plan)) :
    ∃ dir ∈ held, 2 ≤ chainDepth relayHops ∧
      Planned dir (chainDepth relayHops) country "" plan := by
  unfold chainFor at planned
  split at planned
  · cases planned
  · next chains =>
    split at planned
    · next built =>
      cases planned
      obtain ⟨dir, held, plan⟩ := planned_of_buildChainHeaded built
      refine ⟨dir, held, ?_, plan⟩
      by_contra shallow
      exact chains (.inr (Nat.lt_of_not_le shallow))
    · cases planned

/-- A rebuilt plan has as many hops as the one it replaces, and the same head. -/
theorem planned_of_rebuildChain {prev : ChainPlan}
    (rebuilt : rebuildChain atlas input held prev = .ok plan) :
    ∃ dir ∈ held, ∃ head ∈ prev.hops.head?,
      Planned dir (prev.hops.length + 1) prev.country head.id plan := by
  unfold rebuildChain at rebuilt
  split at rebuilt
  · cases rebuilt
  · next head rest hops =>
    obtain ⟨dir, held, planned⟩ := planned_of_buildChainHeaded rebuilt
    refine ⟨dir, held, head, ?_, ?_⟩
    · rw [hops]
      rfl
    · rw [hops]
      exact planned

end Bacchus.Chain
