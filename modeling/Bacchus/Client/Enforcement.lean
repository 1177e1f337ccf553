import Bacchus.Client.Controller
import Bacchus.Semantics.Machine

/-!
# Enforcement sessions of the desktop client

Connect attempts, the enforcer they share, and the helper behind it. Bring-up and teardown are
cut at every request to the helper. A dial of any engine may reserve an underlay address at any
time (`poolExcluder.reserve`), also when its attempt is long over. Every system call succeeds.
-/

namespace Bacchus.Client

open Function

abbrev Address := String

/-- The steps of `Start`, in order. -/
inductive BringUp where
  | connect
  | takeExcluder
  | excludeControl
  | goLive
  | excludeBypass
  /-- Create and configure the device, and route the default into it. -/
  | raiseTun
  | arm
deriving DecidableEq

/-- The steps of `Close`, and the end of the engine after it. -/
inductive TearDown where
  | disarm
  | lowerTun
  | dropControl
  | disable
  | dropReserved
  | dropBypass
  /-- `linuxOS.close` takes the connection out of its slot. -/
  | takeConn
  | endSession
  | dropExcluder
  | stopEngine
deriving DecidableEq

/-- Where a connect attempt is. -/
inductive Stage where
  | starting
  /-- Up to the bind of the SOCKS listener at the end of `Engine.Connect`. -/
  | dialing
  | bringUp (next : BringUp)
  | installing
  /-- The controller holds its engine and its enforcement session. -/
  | up
  | tearDown (next : TearDown)
  | aborting
  | clearing
  | finished
deriving DecidableEq

/-- `poolExcluder`. -/
structure Excluder where
  seen : List Address := []
  routesLive : Bool := false
  armed : Bool := false
  closed : Bool := false
  /-- The attempt whose `Start` uses it. The source does not record it. -/
  usedBy : Option Gen := none
deriving Inhabited

/-- Where a call of `reserve` is. -/
inductive Reserve where
  /-- It has its excluder, and still has to record the addresses. -/
  | entered (ips : List Address)
  | excluding (ip : Address) (rest : List Address) (armed : Bool)
  /-- The route is requested; it has still to look whether the excluder is closed. -/
  | judging (ip : Address) (rest : List Address) (armed : Bool)
  | reaping (ip : Address) (rest : List Address) (armed : Bool)
  | allowing (ip : Address) (rest : List Address) (armed : Bool)
  | returned
deriving DecidableEq

/-- A call of `ReserveUnderlay` by a dial of an attempt's engine. -/
structure Dial where
  gen : Gen
  excluder : Nat
  progress : Reserve

/-- The lockdown, with the attempt that armed it. -/
structure Lockdown where
  armedBy : Gen
  allow : List Address

/-- The helper's session, named by its attempt, and what it has done to the machine. -/
structure Network where
  helper : Option Gen := none
  routes : List Address := []
  tun : Option Gen := none
  table : Option Lockdown := none

/-- What an attempt is configured to route past the tunnel. -/
structure Policy where
  control : List Address := []
  bypass : List Address := []

/-- The controller, its sessions and the machine. -/
structure System where
  controller : Controller := {}
  stage : Gen → Stage := fun _ => .finished
  /-- Whose engine listens on the SOCKS address. -/
  port : Option Gen := none
  /-- `linuxOS.conn`, named by the helper session it carries. -/
  conn : Option Gen := none
  /-- `linuxEnforcer.pe`. -/
  pe : Option Nat := none
  excluders : List Excluder := []
  dials : List Dial := []
  net : Network := {}
  /-- The excluder an attempt's `Start` was given. -/
  excluderOf : Gen → Nat := fun _ => 0
  /-- The connection an attempt's `linuxOS.close` has taken. -/
  taken : Gen → Option Gen := fun _ => none
  /-- The addresses an attempt's bypass policy has learned. -/
  learned : Gen → List Address := fun _ => []
  /-- The routes requested by an attempt's bring-up, or by a dial of its engine. -/
  setUp : Gen → List Address := fun _ => []

namespace System

def excluder (system : System) (index : Nat) : Excluder := system.excluders.getD index default

def setStage (system : System) (gen : Gen) (stage : Stage) : System :=
  { system with stage := update system.stage gen stage }

/-- A request reaches the helper when the connection is there and its session open. -/
def linked (system : System) : Bool := system.conn.isSome && system.conn == system.net.helper

/-- A request on the connection. -/
def request (system : System) (effect : Network → Network) : System :=
  if system.linked then { system with net := effect system.net } else system

/-- `addExclusionRoutes` on behalf of an attempt. -/
def addRoutes (system : System) (gen : Gen) (ips : List Address) : System :=
  if system.linked then
    { system with
      net := { system.net with routes := ips ++ system.net.routes }
      setUp := update system.setUp gen (ips ++ system.setUp gen) }
  else system

def removeRoutes (system : System) (ips : List Address) : System :=
  system.request fun net => { net with routes := net.routes.filter fun ip => ip ∉ ips }

def updateExcluder (system : System) (index : Nat) (update : Excluder → Excluder) : System :=
  { system with excluders := system.excluders.modify index update }

/-- `excluderLocked`: the excluder in force, or a fresh one. -/
def currentExcluder (system : System) : System × Nat :=
  match system.pe with
  | some index => (system, index)
  | none =>
    ({ system with
        pe := some system.excluders.length
        excluders := system.excluders ++ [{}] },
      system.excluders.length)

end System

/-- `refreshKillSwitchAllowIP`. -/
def Network.allow (net : Network) (ip : Address) : Network :=
  { net with table := net.table.map fun lockdown =>
    { lockdown with allow := ip :: lockdown.allow } }

/-- What the helper does to open a session: it lifts and clears what a crash has left. -/
def Network.opened (gen : Gen) : Network := { helper := some gen }

/-- The next step of `Start`. -/
def bringUp (policy : Gen → Policy) (system : System) (gen : Gen) : BringUp → System
  | .connect =>
    match system.conn, system.net.helper with
    | some _, _ => system.setStage gen (.bringUp .takeExcluder)
    | none, none =>
      { system.setStage gen (.bringUp .takeExcluder) with
        conn := some gen
        net := .opened gen }
    | none, some _ =>
      -- Refused as busy: `Start` fails and the engine is stopped.
      { system.setStage gen .aborting with port := none }
  | .takeExcluder =>
    let (next, index) := system.currentExcluder
    { (next.updateExcluder index fun excluder => { excluder with usedBy := some gen }).setStage gen
        (.bringUp .excludeControl) with
      excluderOf := update system.excluderOf gen index }
  | .excludeControl => (system.addRoutes gen (policy gen).control).setStage gen (.bringUp .goLive)
  | .goLive =>
    let index := system.excluderOf gen
    ((system.addRoutes gen (system.excluder index).seen).updateExcluder index fun excluder =>
      { excluder with routesLive := true }).setStage gen (.bringUp .excludeBypass)
  | .excludeBypass => (system.addRoutes gen (policy gen).bypass).setStage gen (.bringUp .raiseTun)
  | .raiseTun =>
    (system.request fun net => { net with tun := some gen }).setStage gen (.bringUp .arm)
  | .arm =>
    let index := system.excluderOf gen
    let allow := (policy gen).control ++ (system.excluder index).seen ++ (policy gen).bypass ++
      system.learned gen
    ((system.request fun net => { net with table := some ⟨gen, allow⟩ }).updateExcluder index
      fun excluder => { excluder with armed := true }).setStage gen .installing

/-- The next step of `Close`, and then of the engine's end. -/
def tearDown (policy : Gen → Policy) (system : System) (gen : Gen) : TearDown → System
  | .disarm =>
    (system.request fun net => { net with table := none }).setStage gen (.tearDown .lowerTun)
  | .lowerTun =>
    -- The device goes away with its descriptor, whatever becomes of the connection.
    { system.setStage gen (.tearDown .dropControl) with net := { system.net with tun := none } }
  | .dropControl => (system.removeRoutes (policy gen).control).setStage gen (.tearDown .disable)
  | .disable =>
    (system.updateExcluder (system.excluderOf gen) fun excluder =>
      { excluder with closed := true }).setStage gen (.tearDown .dropReserved)
  | .dropReserved =>
    (system.removeRoutes (system.excluder (system.excluderOf gen)).seen).setStage gen
      (.tearDown .dropBypass)
  | .dropBypass =>
    (system.removeRoutes ((policy gen).bypass ++ system.learned gen)).setStage gen
      (.tearDown .takeConn)
  | .takeConn =>
    { system.setStage gen (.tearDown .endSession) with
      conn := none
      taken := update system.taken gen system.conn }
  | .endSession =>
    let helper := if system.net.helper = system.taken gen then none else system.net.helper
    { system.setStage gen (.tearDown .dropExcluder) with net := { system.net with helper } }
  | .dropExcluder =>
    let pe := if system.pe = some (system.excluderOf gen) then none else system.pe
    { system.setStage gen (.tearDown .stopEngine) with pe }
  | .stopEngine => { system.setStage gen .finished with port := none }

/-- The next section or step of an attempt. -/
def advanceAttempt (policy : Gen → Policy) (system : System) (gen : Gen) : Option System :=
  match system.stage gen with
  | .starting =>
    some { system.setStage gen .dialing with controller := system.controller.announce gen }
  | .dialing =>
    -- Two engines cannot listen on one address.
    if system.port = none then
      some { system.setStage gen (.bringUp .connect) with port := some gen }
    else some (system.setStage gen .aborting)
  | .bringUp next => some (bringUp policy system gen next)
  | .installing =>
    match system.controller.install gen with
    | some controller => some { system.setStage gen .up with controller }
    | none => some (system.setStage gen (.tearDown .disarm))
  | .up => none
  | .tearDown next => some (tearDown policy system gen next)
  | .aborting =>
    some (system.setStage gen (if system.controller.gen = gen then .clearing else .finished))
  | .clearing =>
    some { system.setStage gen .finished with controller := system.controller.abort gen }
  | .finished => none

/-- The next address of a call of `reserve`. -/
def Reserve.continue (armed : Bool) : List Address → Reserve
  | [] => .returned
  | ip :: rest => .excluding ip rest armed

/-- The call has recorded its addresses and has a route to request or judge. -/
def Reserve.inFlight : Reserve → Bool
  | .entered _ | .returned => false
  | _ => true

/-- The addresses a call of `reserve` is the first to name. -/
def Excluder.fresh (excluder : Excluder) (ips : List Address) : List Address :=
  (ips.filter fun ip => ip ∉ excluder.seen).dedup

/-- The next action of a call of `reserve`: what it does, and where it is then. -/
def reserve (system : System) (dial : Dial) : System × Reserve :=
  let excluder := system.excluder dial.excluder
  match dial.progress with
  | .entered ips =>
    let fresh := excluder.fresh ips
    (system.updateExcluder dial.excluder fun excluder =>
        { excluder with seen := excluder.seen ++ fresh },
      if excluder.routesLive && !excluder.closed then .continue excluder.armed fresh else .returned)
  | .excluding ip rest armed => (system.addRoutes dial.gen [ip], .judging ip rest armed)
  | .judging ip rest armed =>
    (system,
      if excluder.closed then .reaping ip rest armed
      else if armed then .allowing ip rest armed
      else .continue armed rest)
  | .reaping ip rest armed => (system.removeRoutes [ip], .continue armed rest)
  | .allowing ip rest armed => (system.request fun net => net.allow ip, .continue armed rest)
  | .returned => (system, .returned)

/-- A step of the client. -/
inductive SystemLabel where
  | connect
  | disconnect
  | proceed (gen : Gen)
  /-- The dial of an attempt fails. -/
  | fail (gen : Gen)
  /-- The engine of an attempt reports something. -/
  | event (gen : Gen) (event : Event)
  /-- A dial of an attempt's engine enters `ReserveUnderlay`. -/
  | enter (gen : Gen) (ips : List Address)
  /-- A call of `reserve` takes its next action. -/
  | resume (dial : Nat)
  /-- The bypass policy of an attempt learns an address from a DNS answer. -/
  | learn (gen : Gen) (ip : Address)
  /-- `onLearn` requests the route of a learned address. -/
  | carve (gen : Gen) (ip : Address)
  /-- `onLearn` adds a learned address to the allowlist. -/
  | permit (gen : Gen) (ip : Address)

/-- The netstack of the attempt has been started. -/
def Stage.learns : Stage → Bool
  | .bringUp .arm | .installing | .up | .tearDown _ | .finished => true
  | _ => false

/-- Take the session out of the controller; its teardown is a goroutine. -/
def disconnect (system : System) : System :=
  let next := { system with controller := system.controller.disconnect }
  match system.controller.held with
  | none => next
  | some gen => next.setStage gen (.tearDown .disarm)

/-- The desktop client with device-wide enforcement. -/
def enforcedClient (policy : Gen → Policy) : Machine System SystemLabel where
  initial system := system = {}
  step system
    | .connect => system.controller.connect.map fun controller =>
      { system.setStage controller.gen .starting with controller }
    | .disconnect => some (disconnect system)
    | .proceed gen => advanceAttempt policy system gen
    | .fail gen =>
      if system.stage gen = .dialing then some (system.setStage gen .aborting) else none
    | .event gen event => some { system with controller := system.controller.onEvent gen event }
    | .enter gen ips =>
      if system.stage gen ≠ .starting ∧ gen ≤ system.controller.gen then
        let (next, index) := system.currentExcluder
        some { next with dials := next.dials ++ [⟨gen, index, .entered ips⟩] }
      else none
    | .resume index =>
      match system.dials[index]? with
      | none => none
      | some dial =>
        let (next, progress) := reserve system dial
        some { next with dials := next.dials.set index { dial with progress } }
    | .learn gen ip =>
      if (system.stage gen).learns ∧ gen ≤ system.controller.gen then
        some { system with
          learned := update system.learned gen (ip :: system.learned gen) }
      else none
    | .carve gen ip => if ip ∈ system.learned gen then some (system.addRoutes gen [ip]) else none
    | .permit gen ip =>
      if ip ∈ system.learned gen then some (system.request fun net => net.allow ip) else none

/-- No dial of one attempt requests a route through the excluder of another one's session, and no
session is opened while a reservation is in flight. -/
def separate (system : System) : SystemLabel → Bool
  | .resume index =>
    match system.dials[index]? with
    | some ⟨gen, excluder, .entered _⟩ =>
      !(system.excluder excluder).routesLive || (system.excluder excluder).closed ||
        (system.excluder excluder).usedBy == some gen
    | _ => true
  | .proceed gen =>
    system.stage gen != .bringUp .connect || system.dials.all fun dial => !dial.progress.inFlight
  | _ => true

/-- Lockdown, routes and helper session of an attempt are in force. -/
structure InForce (system : System) (gen : Gen) : Prop where
  conn : system.conn = some gen
  helper : system.net.helper = some gen
  lockdown : ∃ lockdown, system.net.table = some lockdown ∧ lockdown.armedBy = gen
  tun : system.net.tun = some gen
  routes : ∀ ip ∈ system.setUp gen, ip ∈ system.net.routes

end Bacchus.Client
