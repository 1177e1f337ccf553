import Bacchus.Client.Enforcement

/-!
# The tunnel of one enforcement session

`startTunnel` with its deferred clean-up and `tunnel.Close`, as the steps of one goroutine over
the `osNet` interface, and beside it calls of `poolExcluder.reserve` and `bypassPolicy.observeDNS`.
A step is one `osNet` call or one section under a mutex; `goLive` and the arming hold theirs
across calls. A call that reports an error has no effect or all of it, and a failed split default
may leave a route.
-/

namespace Bacchus.Tunnel

open Client (Address Excluder Reserve)

/-- Carve the listed destinations out of the tunnel, or pull only them into it. -/
inductive Mode where
  | excluding | including
deriving DecidableEq

/-- What `startTunnel` is given, as far as its calls depend on it. -/
structure Config where
  mode : Mode
  killSwitch : Bool
  serveEgress : Bool
  /-- The addresses of the coordinators, STUN and TURN. -/
  control : List Address
  /-- `bypassPolicy.staticEntries`. -/
  statics : List Address
  /-- What `resolveDomains` finds for the bypassed names. -/
  resolved : List Address

/-- A call of the `osNet` interface. -/
inductive OsCall where
  | defaultGateway
  /-- `addExclusionRoutes` or `addExclusionRoutesV6`. -/
  | addExclusionRoutes (ips : List Address)
  | addInclusionRoutes (ips : List Address)
  | removeRoutes (ips : List Address)
  | createTUN
  | closeTUN
  | configureTunInterface
  | addSplitDefaultRoute
  | disablePhysicalIPv6
  | enablePhysicalIPv6
  | startNetstack
  | closeNetstack
  | captureDNS
  | releaseDNS
  | allowServedEgress
  | revokeServedEgress
  | enableKillSwitch (control bypass : List Address)
  | disableKillSwitch
  | refreshKillSwitchAllowIP (ip : Address)
deriving DecidableEq

def OsCall.arms : OsCall → Bool
  | .enableKillSwitch _ _ => true
  | _ => false

/-- How a call ends for its caller. -/
inductive Outcome where
  | done
  | refused
  /-- It takes effect and reports an error: the helper works on after the deadline of the round
  trip, or a command of several steps fails at a late one. -/
  | lapsed
deriving DecidableEq

/-- The kill-switch in force: what it was armed with, and what was added since. -/
structure Lockdown where
  initial : List Address
  refreshed : List Address := []

def Lockdown.allow (lockdown : Lockdown) : List Address := lockdown.refreshed ++ lockdown.initial

/-- What the session has put on the machine. -/
structure Os where
  /-- The routes via the physical gateway that were requested and not removed since. -/
  routes : List Address := []
  /-- The routes bound to the tunnel device. -/
  tunRoutes : List Address := []
  splitDefault : Bool := false
  device : Bool := false
  netstack : Bool := false
  ipv6Off : Bool := false
  dnsCaptured : Bool := false
  served : Bool := false
  lockdown : Option Lockdown := none
  /-- A kill-switch is in force whose arming reported an error. -/
  stray : Bool := false
  /-- Every call made, the failed ones included. -/
  calls : List OsCall := []

namespace Os

/-- What a call does when it succeeds. The routes of a device go with it. -/
def apply (os : Os) : OsCall → Os
  | .defaultGateway | .configureTunInterface => os
  | .addExclusionRoutes ips => { os with routes := ips ++ os.routes }
  | .addInclusionRoutes ips =>
    if os.device then { os with tunRoutes := ips ++ os.tunRoutes } else os
  | .removeRoutes ips =>
    { os with
      routes := os.routes.filter fun ip => ip ∉ ips
      tunRoutes := os.tunRoutes.filter fun ip => ip ∉ ips }
  | .createTUN => { os with device := true }
  | .closeTUN => { os with device := false, tunRoutes := [], splitDefault := false }
  | .addSplitDefaultRoute => { os with splitDefault := true }
  | .disablePhysicalIPv6 => { os with ipv6Off := true }
  | .enablePhysicalIPv6 => { os with ipv6Off := false }
  | .startNetstack => { os with netstack := true }
  | .closeNetstack => { os with netstack := false }
  | .captureDNS => { os with dnsCaptured := true }
  | .releaseDNS => { os with dnsCaptured := false }
  | .allowServedEgress => { os with served := true }
  | .revokeServedEgress => { os with served := false }
  | .enableKillSwitch control bypass =>
    { os with lockdown := some { initial := control ++ bypass } }
  | .disableKillSwitch => { os with lockdown := none, stray := false }
  | .refreshKillSwitchAllowIP ip =>
    { os with lockdown := os.lockdown.map fun lockdown =>
        { lockdown with refreshed := ip :: lockdown.refreshed } }

def call (os : Os) (call : OsCall) : Os := { os.apply call with calls := os.calls ++ [call] }

/-- A call that reports an error. -/
def refuse (os : Os) (call : OsCall) (lapsed : Bool) : Os :=
  { os with
    device := lapsed && call == .createTUN || os.device
    splitDefault := os.splitDefault || call == .addSplitDefaultRoute
    dnsCaptured := lapsed && call == .captureDNS || os.dnsCaptured
    served := lapsed && call == .allowServedEgress || os.served
    stray := lapsed && call.arms || os.stray
    calls := os.calls ++ [call] }

end Os

/-- The next step of `startTunnel`. -/
inductive BringUp where
  | gateway
  | excludeControl
  | goLive
  /-- Seed the resolved names, and carve out the bypassed destinations. -/
  | excludeBypass
  | createTUN
  | configure
  /-- The split default, or the routes into the device. -/
  | capture
  | disableIPv6
  | startNetstack
  | captureDNS
  | serve
  | arm
deriving DecidableEq

/-- What a deferred function of `startTunnel` does. -/
inductive Undo where
  | removeControl
  | disable
  | removeReserved
  | removeStatics
  | removeLearned
  | closeTUN
  | enableIPv6
  | closeNetstack
  | releaseDNS
  | revoke
deriving DecidableEq

/-- The next step of `Close`. -/
inductive Closing where
  | revoke
  | disarm
  | releaseDNS
  | closeNetstack
  | closeTUN
  | enableIPv6
  | dropControl
  | disable
  /-- `reserved()`. -/
  | readReserved
  | dropReserved (ips : List Address)
  | dropStatics
  /-- `dynamicSnapshot()`. -/
  | readLearned
  | dropLearned (ips : List Address)
deriving DecidableEq

/-- Where the session's goroutine is. -/
inductive Main where
  | bringUp (next : BringUp) (undo : List Undo)
  | unwinding (undo : List Undo)
  /-- `startTunnel` has returned an error. -/
  | failed
  | up
  | closing (next : Closing)
  | closed
deriving DecidableEq

/-- Where the handling of a DNS answer is, within one address. -/
inductive Observe where
  /-- It takes the next address, or returns. -/
  | between
  | carving (ip : Address) (armed : Bool)
  | allowing (ip : Address)
deriving DecidableEq

/-- A call beside the session. -/
inductive Call where
  | reserve (ips : List Address) (progress : Reserve)
  /-- An answer for a bypassed name, by the addresses it has taken and those left. -/
  | observe (handled rest : List Address) (progress : Observe)
deriving DecidableEq

/-- `bypassPolicy`, as far as it changes. -/
structure Bypass where
  dynamic : List Address := []
  armed : Bool := false

/-- A session with the calls beside it. -/
structure State where
  main : Main := .bringUp .gateway []
  excluder : Excluder := {}
  policy : Bypass := {}
  /-- `bypassEntries`. -/
  entries : List Address := []
  /-- The netstack has been started, so there may be DNS answers to handle. -/
  answering : Bool := false
  os : Os := {}
  calls : List Call := []

namespace State

def call (state : State) (call : OsCall) : State := { state with os := state.os.call call }

/-- A call that can fail; on an error the deferred functions run. -/
def attempt (state : State) (call : OsCall) (outcome : Outcome) (next : Main) (undo : List Undo) :
    State :=
  if outcome = .done then { state.call call with main := next }
  else { state with os := state.os.refuse call (outcome == .lapsed), main := .unwinding undo }

/-- The next step of `startTunnel`; `undo` is what has been deferred so far. -/
def bringUp (cfg : Config) (state : State) (undo : List Undo) (outcome : Outcome) :
    BringUp → State
  | .gateway => state.attempt .defaultGateway outcome (.bringUp .excludeControl undo) undo
  | .excludeControl =>
    { state.call (.addExclusionRoutes cfg.control) with
      main := .bringUp .goLive (.removeControl :: undo) }
  | .goLive =>
    { state with
      os := state.excluder.seen.foldl (fun os ip => os.call (.addExclusionRoutes [ip])) state.os
      excluder := { state.excluder with routesLive := true }
      main := .bringUp .excludeBypass (.disable :: .removeReserved :: undo) }
  | .excludeBypass =>
    let dynamic := (state.policy.dynamic ++ cfg.resolved).dedup
    let entries := cfg.statics ++ dynamic
    let seeded := { state with
      policy := { state.policy with dynamic }
      entries }
    match cfg.mode with
    | .excluding =>
      { seeded.call (.addExclusionRoutes entries) with
        main := .bringUp .createTUN (.removeStatics :: .removeLearned :: undo) }
    | .including => { seeded with main := .bringUp .createTUN undo }
  | .createTUN => state.attempt .createTUN outcome (.bringUp .configure (.closeTUN :: undo)) undo
  | .configure => state.attempt .configureTunInterface outcome (.bringUp .capture undo) undo
  | .capture =>
    match cfg.mode with
    | .including =>
      { state.call (.addInclusionRoutes state.entries) with
        main := .bringUp .disableIPv6 (.removeStatics :: .removeLearned :: undo) }
    | .excluding => state.attempt .addSplitDefaultRoute outcome (.bringUp .disableIPv6 undo) undo
  | .disableIPv6 =>
    { state.call .disablePhysicalIPv6 with main := .bringUp .startNetstack (.enableIPv6 :: undo) }
  | .startNetstack =>
    let started :=
      state.attempt .startNetstack outcome (.bringUp .captureDNS (.closeNetstack :: undo)) undo
    { started with answering := outcome == .done }
  | .captureDNS => state.attempt .captureDNS outcome (.bringUp .serve (.releaseDNS :: undo)) undo
  | .serve =>
    if cfg.serveEgress then
      state.attempt .allowServedEgress outcome (.bringUp .arm (.revoke :: undo)) undo
    else { state with main := .bringUp .arm undo }
  | .arm =>
    if !cfg.killSwitch then { state with main := .up }
    else
      -- Both mutexes are held from the snapshots to the flags.
      let armed := state.attempt (.enableKillSwitch (cfg.control ++ state.excluder.seen)
        (cfg.statics ++ state.policy.dynamic)) outcome .up undo
      { armed with
        excluder := { state.excluder with armed := outcome == .done || state.excluder.armed }
        policy := { state.policy with armed := outcome == .done || state.policy.armed } }

/-- A deferred function. -/
def undo (cfg : Config) (state : State) : Undo → State
  | .removeControl => state.call (.removeRoutes cfg.control)
  | .disable => { state with excluder := { state.excluder with closed := true } }
  | .removeReserved => state.call (.removeRoutes state.excluder.seen)
  | .removeStatics => state.call (.removeRoutes cfg.statics)
  | .removeLearned => state.call (.removeRoutes state.policy.dynamic)
  | .closeTUN => state.call .closeTUN
  | .enableIPv6 => state.call .enablePhysicalIPv6
  | .closeNetstack => state.call .closeNetstack
  | .releaseDNS => state.call .releaseDNS
  | .revoke => state.call .revokeServedEgress

/-- The next step of `Close`. -/
def close (cfg : Config) (state : State) : Closing → State
  | .revoke =>
    { (if cfg.serveEgress then state.call .revokeServedEgress else state) with
      main := .closing .disarm }
  | .disarm =>
    { (if cfg.killSwitch then state.call .disableKillSwitch else state) with
      main := .closing .releaseDNS }
  | .releaseDNS => { state.call .releaseDNS with main := .closing .closeNetstack }
  | .closeNetstack => { state.call .closeNetstack with main := .closing .closeTUN }
  | .closeTUN => { state.call .closeTUN with main := .closing .enableIPv6 }
  | .enableIPv6 => { state.call .enablePhysicalIPv6 with main := .closing .dropControl }
  | .dropControl => { state.call (.removeRoutes cfg.control) with main := .closing .disable }
  | .disable =>
    { state with
      excluder := { state.excluder with closed := true }
      main := .closing .readReserved }
  | .readReserved => { state with main := .closing (.dropReserved state.excluder.seen) }
  | .dropReserved ips => { state.call (.removeRoutes ips) with main := .closing .dropStatics }
  | .dropStatics => { state.call (.removeRoutes cfg.statics) with main := .closing .readLearned }
  | .readLearned => { state with main := .closing (.dropLearned state.policy.dynamic) }
  | .dropLearned ips => { state.call (.removeRoutes ips) with main := .closed }

/-- The next step of the session's goroutine. -/
def proceed (cfg : Config) (state : State) (outcome : Outcome) : Option State :=
  match state.main with
  | .bringUp next undo => some (state.bringUp cfg undo outcome next)
  | .unwinding [] => some { state with main := .failed }
  | .unwinding (first :: rest) => some { state.undo cfg first with main := .unwinding rest }
  | .closing next => some (state.close cfg next)
  | .failed | .up | .closed => none

/-- The next action of a call of `reserve`. -/
def reserve (state : State) : Reserve → State × Reserve
  | .entered ips =>
    let fresh := state.excluder.fresh ips
    ({ state with excluder := { state.excluder with seen := state.excluder.seen ++ fresh } },
      if state.excluder.routesLive && !state.excluder.closed then
        .continue state.excluder.armed fresh
      else .returned)
  | .excluding ip rest armed => (state.call (.addExclusionRoutes [ip]), .judging ip rest armed)
  | .judging ip rest armed =>
    (state,
      if state.excluder.closed then .reaping ip rest armed
      else if armed then .allowing ip rest armed
      else .continue armed rest)
  | .reaping ip rest armed => (state.call (.removeRoutes [ip]), .continue armed rest)
  | .allowing ip rest armed => (state.call (.refreshKillSwitchAllowIP ip), .continue armed rest)
  | .returned => (state, .returned)

/-- `onLearn`'s route: out of the tunnel, or into it. -/
def carve (cfg : Config) (state : State) (ip : Address) : State :=
  match cfg.mode with
  | .excluding => state.call (.addExclusionRoutes [ip])
  | .including => state.call (.addInclusionRoutes [ip])

/-- The next action of a call of `observeDNS`. -/
def observe (cfg : Config) (state : State) (handled rest : List Address) :
    Observe → State × Call
  | .between =>
    match rest with
    | [] => (state, .observe handled [] .between)
    | ip :: rest =>
      if ip ∈ state.policy.dynamic then (state, .observe (handled ++ [ip]) rest .between)
      else
        ({ state with policy := { state.policy with dynamic := state.policy.dynamic ++ [ip] } },
          .observe (handled ++ [ip]) rest (.carving ip state.policy.armed))
  | .carving ip armed =>
    (state.carve cfg ip,
      .observe handled rest (if cfg.killSwitch && armed then .allowing ip else .between))
  | .allowing ip => (state.call (.refreshKillSwitchAllowIP ip), .observe handled rest .between)

/-- The next action of a call. -/
def advance (cfg : Config) (state : State) : Call → State × Call
  | .reserve ips progress =>
    let (next, progress) := state.reserve progress
    (next, .reserve ips progress)
  | .observe handled rest progress => state.observe cfg handled rest progress

end State

/-- A step of the session or of a call. -/
inductive Label where
  /-- The session's goroutine goes on, with the outcome of its call. -/
  | proceed (outcome : Outcome)
  /-- `Close` is called. -/
  | close
  /-- A dial enters `reserve` with what its address resolves to. -/
  | reserve (ips : List Address)
  /-- The netstack has an answer for a bypassed name. -/
  | observe (ips : List Address)
  | resume (index : Nat)

/-- The tunnel of a session. Addresses may have been reserved before it is brought up. -/
def tunnel (cfg : Config) : Machine State Label where
  initial state := ∃ seen, state = { excluder := { seen } }
  step state
    | .proceed outcome => state.proceed cfg outcome
    | .close => if state.main = .up then some { state with main := .closing .revoke } else none
    | .reserve ips => some { state with calls := state.calls ++ [.reserve ips (.entered ips)] }
    | .observe ips =>
      if state.answering then
        some { state with calls := state.calls ++ [.observe [] ips .between] }
      else none
    | .resume index => state.calls[index]?.map fun call =>
      let (next, call) := state.advance cfg call
      { next with calls := next.calls.set index call }

end Bacchus.Tunnel
