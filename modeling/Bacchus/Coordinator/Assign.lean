import Bacchus.Coordinator.Registry
import Bacchus.Semantics.Table

/-!
# Choosing the exit of a session

`assign.go` and `tier.go` of `cmd/coordinator`, with the shares of `core/capacity`. A client names
a country; the exit is the coordinator's choice.
-/

namespace Bacchus.Coordinator

open Admission (Time Credential)

/-- How long a session may be silent. -/
def sessionTTL : Time := 2 * 60 * 10 ^ 9

/-- `session`. A relay is named over a peer relay only; a chained one names no exit. -/
structure Session where
  client : UDPAddr
  peer : UDPAddr
  relayId : String := ""
  exitId : String := ""
  signaled : Bool := false
  answered : Bool := false
  lastSeen : Time
deriving DecidableEq

/-- Why no exit is assigned. -/
inductive AssignRefusal where
  | noCountry
  | countryBusy
  | noHop
  | hopNotRelayMode
  | noNonce
  | unknownTier
deriving DecidableEq

/-- What the wire calls a refusal. -/
def AssignRefusal.text : AssignRefusal → String
  | .noCountry => "no-such-country"
  | .countryBusy => "country-busy"
  | .noHop => "no-such-hop"
  | .hopNotRelayMode => "hop-needs-relay-mode"
  | .noNonce => "connect-needs-nonce"
  | .unknownTier => "unknown-tier"

/-- `policy.TierLimit`; the zero value limits nothing. -/
structure TierLimit where
  trust : String := ""
  plan : String := ""
  speedCapBps : Nat := 0
  priority : Int := 0
  endpointQuality : Int := 0

/-- `resolveTier`, from the rows of the policy held. -/
def resolveTier (cfg : Config) (policy : PolicyState) (tiers : List TierLimit)
    (cred : Option Credential) : Except AssignRefusal TierLimit :=
  if policy.configured = false ∨ cfg.verifier.isNone then .ok {}
  else if policy.held.isNone then .error .unknownTier
  else
    match tiers.find? fun row =>
      some row.trust = cred.map Credential.trust ∧
        some row.plan = cred.map Credential.plan with
    | some row => .ok row
    | none => .error .unknownTier

/-- `ProjectedShare`: what one more session would get, unless there is no limit. -/
def projectedShare (usable sessions : Nat) : Option Nat :=
  if usable = 0 then none else some (usable / (sessions + 1))

/-- `RankShare`. -/
def capacityRankShare (usable sessions : Nat) (rated : Bool) (ceiling : Nat) : Nat :=
  let usable := if rated = false ∨ usable = 0 ∨ ceiling < usable then ceiling else usable
  (projectedShare usable sessions).getD 0

def octaveFloor (best : Nat) : Nat := (best + 1) / 2

def unmetered (declared : Nat) (rated : Bool) : Bool := !rated && declared = 0

def full (usable sessions : Nat) (unmetered : Bool) (minShare : Nat) : Bool :=
  if minShare = 0 ∨ unmetered = true then false
  else
    match projectedShare usable sessions with
    | none => false
    | some share => share < minShare

/-- What an exit is ranked by. As shipped no share is asked for and no class known. -/
structure Ranking extends Ratings where
  rated : String → Bool := fun _ => false
  minShare : Nat := 0
  exitClass : Option (String → Option Int) := none

/-- The ceiling of an unvouched rating. -/
def rankCeiling : Nat := 5 * 10 ^ 6

namespace Ranking

variable (ranking : Ranking)

def exitRating (id : String) (declared : Nat) : Nat × Bool :=
  match ranking.usable with
  | none => (declared, false)
  | some usable => (usable id declared, ranking.rated id)

def tierMinShare (limits : TierLimit) : Nat :=
  if limits.priority ≤ 1 then ranking.minShare else ranking.minShare / limits.priority.toNat

def meetsEndpointQuality (id : String) (limits : TierLimit) : Bool :=
  if limits.endpointQuality ≤ 0 then true
  else
    match ranking.exitClass.bind fun known => known id with
    | none => true
    | some known => limits.endpointQuality ≤ known

def exitAssignable (exit : ExitNode) (sessions : Nat) (limits : TierLimit) : Bool :=
  let rating := ranking.exitRating exit.id exit.speedCap
  !exit.exhausted && exit.claims.derived ≠ "" &&
    ranking.meetsServeFloor exit.id exit.speedCap &&
    ranking.meetsEndpointQuality exit.id limits &&
    !full rating.1 sessions (unmetered exit.speedCap rating.2) (ranking.tierMinShare limits)

/-- The share of its rating an exit is ranked by. -/
def rankShare (exit : ExitNode) (sessions : Nat) : Nat :=
  let rating := ranking.exitRating exit.id exit.speedCap
  capacityRankShare rating.1 sessions rating.2 rankCeiling

def tierFloor (candidates : List ExitNode) (load : String → Nat) : Nat :=
  octaveFloor (candidates.foldl
    (fun best exit => max best (ranking.rankShare exit (load exit.id))) 0)

end Ranking

/-- `exitSessions`: the sessions that count against an exit. -/
def exitSessions (sessions : Table String Session) (now : Time) (id : String) : Nat :=
  (sessions.entries.filter fun entry =>
    entry.2.exitId ≠ "" ∧ entry.2.exitId = id ∧ now - entry.2.lastSeen ≤ sessionTTL).length

def maxExcludeSessions : Nat := 4

def minCandidatesAfterExclude : Nat := 2

/-- `excludedExits`: exits of sessions the client itself names and owns. -/
def excludedExits (sessions : Table String Session) (src : UDPAddr) (named : List String) :
    List String :=
  (named.take maxExcludeSessions).filterMap fun id =>
    (sessions.lookup id).bind fun sess =>
      if sess.exitId ≠ "" ∧ sess.client = src then some sess.exitId else none

/-- The candidates left by an exclusion, which is ignored if too few remain. -/
def afterExclusion (candidates : List ExitNode) (exclude : List String) : List ExitNode :=
  let kept := candidates.filter fun exit => exit.id ∉ exclude
  if exclude ≠ [] ∧ minCandidatesAfterExclude ≤ kept.length then kept else candidates

/-- `chooseExit`, with the exits in the order the map is walked. -/
def chooseExit (ranking : Ranking) (walk : List ExitNode) (load : String → Nat) (country : String)
    (exclude : List String) (limits : TierLimit) : Except AssignRefusal ExitNode :=
  let wanted := Geoip.canonical country
  if wanted = "" then .error .noCountry
  else
    let known := walk.filter fun exit => exit.claims.derived = wanted
    let candidates := known.filter fun exit => ranking.exitAssignable exit (load exit.id) limits
    if known = [] then .error .noCountry
    else if candidates = [] then .error .countryBusy
    else
      let candidates := afterExclusion candidates exclude
      let floor := ranking.tierFloor candidates load
      match candidates.find? fun exit => floor ≤ ranking.rankShare exit (load exit.id) with
      | some exit => .ok exit
      | none => .error .countryBusy

/-- The exit a client names as its first hop. -/
def resolveFirstHop (registry : Registry) (id : String) : Except AssignRefusal ExitNode :=
  match registry.exits id with
  | none => .error .noHop
  | some exit => if exit.exhausted then .error .noHop else .ok exit

end Bacchus.Coordinator
