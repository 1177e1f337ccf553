import Bacchus.Netd.Kernel
import Bacchus.Semantics.Task

/-!
# The privileged helper's request handlers

The handlers of `server.go` and the DNS capture of `dns.go`, cut at every mutex section and every
system call. A handler works on the session it was authorised for, whatever session is open by the
time its next action runs.
-/

namespace Bacchus.Netd

open Netip

/-- One client connection. -/
abbrev ConnId := Nat

/-- A pointer to a session record; records are never reused. -/
abbrev SessionId := Nat

/-- Everything needed to undo a DNS capture. -/
structure DnsState where
  captured : Bool := false
  viaResolved : Bool := false
  tunIndex : Nat := 0
  physIndex : Nat := 0
  physDefaultRoute : Bool := false
  resolvWasSymlink : Bool := false
  resolvTarget : String := ""
  resolvContent : Option String := none
  resolvMode : Nat := 0

/-- The part of a session that requests change. -/
structure SessionState where
  tunIndex : Nat := 0
  /-- As configured by `configureTUN`, which accepts only IPv4. -/
  tunAddr : Option (BitVec 32) := none
  /-- The last gateway read; `none` until there is one. -/
  gw : Option GatewayInfo := none
  ipv6For : String := ""
  ipv6Was : String := ""
  dns : DnsState := {}
  killSwitchArmed : Bool := false
  servedSrc : Option Addr := none
deriving Inhabited

/-- One client's enforcement session. -/
structure Session extends SessionState where
  token : String
  uid : UInt32
  /-- Which connection opened the session. The source does not record it. -/
  openedBy : ConnId
deriving Inhabited

/-- The helper's shared state, with the machine state it works on. -/
structure Helper where
  /-- The connection inside a mutex section longer than one action. -/
  mutex : Option ConnId := none
  sess : Option SessionId := none
  sessions : List Session := []
  kernel : Kernel := {}

def Helper.session (helper : Helper) (id : SessionId) : Session := helper.sessions.getD id default

/-- What a handler can see and change: its session and the machine. It sees whether the mutex is
free and whether the open session holds a lockdown. -/
structure Scope where
  mutexFree : Bool
  live : Bool
  uid : UInt32
  session : SessionState
  kernel : Kernel

namespace Helper

/-- The view of a handler that works for session `id`. -/
def scope (helper : Helper) (id : SessionId) : Scope where
  mutexFree := helper.mutex.isNone
  live := helper.sess.any fun current => (helper.session current).killSwitchArmed
  uid := (helper.session id).uid
  session := (helper.session id).toSessionState
  kernel := helper.kernel

/-- Write back what a handler for session `id` changed. -/
def restore (id : SessionId) (helper : Helper) (scope : Scope) : Helper :=
  { helper with
    sessions := helper.sessions.modify id fun session =>
      { session with toSessionState := scope.session }
    kernel := scope.kernel }

end Helper

/-- What the system answers to one action: a failure, or the values it reads. -/
structure Answer where
  error : Option String := none
  /-- The failure of the transaction that arms the lockdown. -/
  commit : Option String := none
  /-- What failed has taken effect: it was sent, and the acknowledgement could not be read. -/
  landed : Bool := false
  gateway : GatewayInfo := ⟨.v4 0, 0, "", none⟩
  index : Nat := 0
  source : Addr := .v4 0
  token : String := ""
  resolvedRunning : Bool := false

/-- The change was made, whatever its caller is told. -/
def Answer.made (answer : Answer) : Bool := answer.error.isNone || answer.landed

/-- The transaction was committed, whatever its caller is told. -/
def Answer.committed (answer : Answer) : Bool := answer.commit.isNone || answer.landed

/-- A part of a goroutine's work for one session. -/
abbrev Work := Task Scope Answer

/-- How the handling of a request ends. A panic ends the process. -/
inductive Outcome where
  | reply (reply : Reply)
  | panic

/-- A mutex section that fits one action. -/
def locked {α : Type} (body : Scope → Scope × α) : Work α :=
  .await Scope.mutexFree fun scope _ => body scope

/-- Read the session inside the mutex. -/
def lockedRead {α : Type} (read : SessionState → α) : Work α :=
  locked fun scope => (scope, read scope.session)

/-- Update the session inside the mutex. -/
def lockedUpdate (update : SessionState → SessionState) : Work Unit :=
  locked fun scope => ({ scope with session := update scope.session }, ())

/-- Read the session without the mutex, as `dns.go` and teardown do. -/
def bareRead {α : Type} (read : SessionState → α) : Work α :=
  .atomically fun scope _ => (scope, read scope.session)

/-- Update the session without the mutex. -/
def bareUpdate (update : SessionState → SessionState) : Work Unit :=
  .atomically fun scope _ => ({ scope with session := update scope.session }, ())

/-- One system call: it fails and changes nothing, or succeeds. -/
def syscall {α : Type} (call : Kernel → Answer → Kernel × α) : Work (Except String α) :=
  .atomically fun scope answer =>
    match answer.error with
    | some error => (scope, .error error)
    | none => ({ scope with kernel := (call scope.kernel answer).1 },
        .ok (call scope.kernel answer).2)

/-- The arming transaction (`nftConn.batch`): it fails and changes nothing, or commits, or commits
and then fails. -/
def transact (msgs : List NftMsg) : Work (Except String Unit) :=
  .atomically fun scope answer =>
    ({ scope with
        kernel := if answer.committed then scope.kernel.batch msgs else scope.kernel },
      answer.commit.elim (.ok ()) .error)

/-- A system call that only changes state. -/
def change (call : Kernel → Kernel) : Work (Except String Unit) :=
  syscall fun kernel _ => (call kernel, ())

/-- A system call that only reads. -/
def query {α : Type} (call : Kernel → Answer → α) : Work (Except String α) :=
  syscall fun kernel answer => (kernel, call kernel answer)

/-- A change whose failure is only logged. -/
def attempt (call : Kernel → Kernel) : Work Unit :=
  .atomically fun scope answer =>
    ({ scope with kernel := if answer.made then call scope.kernel else scope.kernel }, ())

/-- Obtaining a socket: it succeeds or fails. -/
def dial : Work (Except String Unit) := query fun _ _ => ()

/-- `netlinkPool.do`. -/
def netlink {α : Type} (body : Work (Except String α)) : Work (Except String α) := do
  match ← dial with
  | .error error => pure (.error error)
  | .ok () => body

/-- A refusal as the outcome of a request. -/
def refuse (code : Code) (error : List Piece) : Work Outcome := pure (.reply (failf code error))

def succeed : Work Outcome := pure (.reply .success)

/-- `parseHostOrPrefix`: a bare address or a CIDR block. -/
def parseHostOrPrefix (text : String) : Except String (Addr ⊕ Prefix) :=
  let trimmed := trimSpace text
  if trimmed = "" then .error "empty"
  else
    match parseAddr trimmed with
    | some addr => .ok (.inl addr.unmap)
    | none =>
      match parsePrefix trimmed with
      | some block => .ok (.inr block.masked)
      | none => .error "not an IP address or CIDR"

/-- `parsePrefixes`: the other family is dropped, the unparseable refused. -/
def parsePrefixes (wantV6 : Bool) : List String → Except Reply (List Prefix)
  | [] => .ok []
  | entry :: entries =>
    match parseHostOrPrefix entry with
    | .error error => .error (failf .badRequest
        [.text "prefix ", .quoted entry, .text ": ", .text error])
    | .ok parsed =>
      let block := match parsed with
        | .inl addr => .single addr
        | .inr block => block
      match parsePrefixes wantV6 entries with
      | .error refusal => .error refusal
      | .ok blocks => .ok (if block.addr.is6 = wantV6 then block :: blocks else blocks)

/-- The allowlist halves of an arming request, split into hosts and networks. -/
def parseAllowlist : List String → Except Reply (List Addr × List Prefix)
  | [] => .ok ([], [])
  | entry :: entries =>
    match parseHostOrPrefix entry with
    | .error error => .error (failf .badRequest
        [.text "allowlist entry ", .quoted entry, .text ": ", .text error])
    | .ok parsed =>
      match parseAllowlist entries with
      | .error refusal => .error refusal
      | .ok (hosts, nets) =>
        match parsed with
        | .inl addr => .ok (addr :: hosts, nets)
        | .inr block => .ok (hosts, block :: nets)

def reapRoutes : Work Unit := do
  let _ ← netlink do
    match ← query fun kernel _ => kernel.listOwnRoutes with
    | .error error => pure (.error error)
    | .ok routes =>
      Task.each (fun route => attempt (Kernel.delRoute route)) routes
      attempt fun kernel => { kernel with fibRule4 := false }
      attempt fun kernel => { kernel with fibRule6 := false }
      attempt Kernel.delServedRule
      pure (.ok ())

/-- `restoreIPv6` for the interface and value captured in the session. -/
def restoreIPv6 (ipv6For ipv6Was : String) : Work Unit :=
  if ipv6For = "" then pure () else attempt (Kernel.writeIPv6Disabled ipv6For ipv6Was)

/-- `installRoutes`: best effort for each block. -/
def installRoutes (blocks : List Prefix) (gateway : Option Addr) (outIface : Nat) : Work Unit := do
  let _ ← netlink do
    Task.each (fun block => attempt (Kernel.addRoute ⟨block, gateway, outIface⟩)) blocks
    pure (.ok ())

def handleDefaultGateway : Work Outcome := do
  match ← netlink (query fun _ answer => answer.gateway) with
  | .error error => refuse .internal [.text "read default route: ", .text error]
  | .ok info =>
    lockedUpdate fun session => { session with gw := some info }
    pure (.reply { ok := true, gateway := some info })

def handleExclusionRoutes (req : Request) (v6 : Bool) : Work Outcome := do
  match ← lockedRead SessionState.gw with
  | none => refuse .badRequest [.text "no gateway has been read in this session yet"]
  | some gw =>
    match if v6 then gw.nextHopV6 else some gw.nextHop with
    -- Without an IPv6 next hop there is nothing to route an exclusion through.
    | none => succeed
    | some nextHop =>
      match parsePrefixes v6 req.prefixes with
      | .error refusal => pure (.reply refusal)
      | .ok blocks =>
        installRoutes blocks (some nextHop) gw.ifIndex
        succeed

def handleInclusionRoutes (req : Request) : Work Outcome := do
  let tunIndex ← lockedRead SessionState.tunIndex
  if tunIndex = 0 then refuse .badRequest [.text "no TUN device exists in this session yet"]
  else
    match parsePrefixes false req.prefixes with
    | .error refusal => pure (.reply refusal)
    | .ok blocks =>
      installRoutes blocks none tunIndex
      succeed

def handleRemoveRoutes (req : Request) : Work Outcome := do
  match parsePrefixes false req.prefixes with
  | .error refusal => pure (.reply refusal)
  | .ok blocks =>
    let v6 := match parsePrefixes true req.prefixes with
      | .error _ => []
      | .ok blocks => blocks
    let _ ← netlink do
      Task.each (fun block => attempt (Kernel.delRoute block)) (blocks ++ v6)
      pure (.ok ())
    succeed

def handleCreateTUN : Work Outcome := do
  match ← query fun _ answer => answer.index with
  | .error error => refuse .internal [.text "create TUN device: ", .text error]
  | .ok index =>
    lockedUpdate fun session => { session with tunIndex := index }
    pure (.reply { ok := true, tunCreated := true })

def handleConfigureTUN (req : Request) : Work Outcome := do
  let tunIndex ← lockedRead SessionState.tunIndex
  if tunIndex = 0 then refuse .badRequest [.text "no TUN device exists in this session yet"]
  else
    match parseAddr req.addr with
    | some (.v4 addr) =>
      if req.prefixLen < 0 ∨ req.prefixLen > 32 then
        refuse .badRequest [.text "prefix length ", .number req.prefixLen.toInt,
          .text " out of range"]
      else do
        let configured ← netlink do
          -- The address and the link state live and die with the device.
          match ← change fun kernel => kernel with
          | .error error => pure (.error ("assign " ++ req.addr ++ ": " ++ error))
          | .ok () =>
            match ← change fun kernel => kernel with
            | .error error => pure (.error ("bring bacchus0 up: " ++ error))
            | .ok () =>
              match ← change fun kernel => { kernel with fibRule4 := true } with
              | .error error => pure (.error ("install the routing rule: " ++ error))
              | .ok () => pure (.ok ())
        match configured with
        | .error error => refuse .internal [.text error]
        | .ok () =>
          lockedUpdate fun session => { session with tunAddr := some addr }
          succeed
    | _ => refuse .badRequest [.text "not an IPv4 address: ", .quoted req.addr]

/-- The two halves of the IPv4 default route. -/
def splitDefault : List Prefix :=
  [⟨.v4 0, 1, by decide⟩, ⟨.v4 0x80000000#32, 1, by decide⟩]

/-- Install the halves in order, stopping at the first failure. -/
def addSplitDefault (tunIndex : Nat) : List Prefix → Work (Except String Unit)
  | [] => pure (.ok ())
  | half :: halves => do
      match ← change (Kernel.addRoute ⟨half, none, tunIndex⟩) with
      | .error error => pure (.error ("add split-default route " ++ String.ofList half.addr.text ++
          "/1: " ++ error))
      | .ok () => addSplitDefault tunIndex halves

def handleSplitDefaultRoute (req : Request) : Work Outcome := do
  let tun ← lockedRead fun session => (session.tunIndex, session.tunAddr)
  match tun with
  | (_, none) | (0, _) =>
    refuse .badRequest [.text "the TUN device is not configured in this session yet"]
  | (tunIndex, some tunAddr) =>
    if parseAddr req.addr ≠ some (.v4 tunAddr) then
      refuse .badRequest [.text "split-default address ", .quoted req.addr,
        .text " does not match this session's TUN address"]
    else
      match ← netlink (addSplitDefault tunIndex splitDefault) with
      | .error error => refuse .internal [.text error]
      | .ok () => succeed

/-- Turn IPv6 off, remembering the setting. -/
def handleDisableIPv6 : Work Outcome := do
  match ← lockedRead SessionState.gw with
  | none => succeed
  | some gw =>
    match ← query fun kernel _ => kernel.ipv6 gw.ifName with
    | .error _ => succeed
    | .ok prior =>
      match ← change (Kernel.writeIPv6Disabled gw.ifName "1") with
      | .error _ => succeed
      | .ok () =>
        -- Only the first disable of a session captures the prior value.
        lockedUpdate fun session =>
          if session.ipv6For = "" then { session with ipv6For := gw.ifName, ipv6Was := prior }
          else session
        succeed

/-- Give the setting back. -/
def handleEnableIPv6 : Work Outcome := do
  let captured ← locked fun scope =>
    ({ scope with session := { scope.session with ipv6For := "", ipv6Was := "" } },
      (scope.session.ipv6For, scope.session.ipv6Was))
  restoreIPv6 captured.1 captured.2
  succeed

/-- Loopback, which every lockdown allows. -/
def loopbackNet : Prefix := ⟨.v4 0x7f000000#32, 8, by decide⟩

/-- Delete our table if it is there. -/
def clearTable : Work Unit := do
  match ← query fun kernel _ => kernel.table.isSome with
  | .ok true => attempt Kernel.deleteTable
  | _ => pure ()

/-- Arming proper: clear a stale table, build the lockdown, commit it. -/
def arm (spec : KillSwitchSpec) : Work Outcome := do
  match ← dial with
  | .error error => refuse .internal [.text "netfilter socket: ", .text error]
  | .ok () =>
    clearTable
    match killSwitchMsgs spec with
    | none => pure .panic
    | some msgs =>
      match ← transact msgs with
      | .error error =>
        attempt Kernel.deleteTable
        refuse .internal [.text "arm the kill-switch: ", .text error]
      | .ok () =>
        lockedUpdate fun session => { session with killSwitchArmed := true }
        succeed

/-- Arm the lockdown. -/
def handleEnableKillSwitch (req : Request) : Work Outcome := do
  let tunIndex ← lockedRead SessionState.tunIndex
  if tunIndex = 0 then refuse .badRequest [.text "no TUN device exists in this session yet"]
  else
    match ← query fun _ answer => answer.index with
    | .error error => refuse .internal [.text "find loopback: ", .text error]
    | .ok lo =>
      let servedSrc ← lockedRead SessionState.servedSrc
      match parseAllowlist (req.control ++ req.bypass) with
      | .error refusal => pure (.reply refusal)
      | .ok (hosts, nets) => arm ⟨tunIndex, lo, hosts, nets ++ [loopbackNet], servedSrc⟩

/-- Lift the lockdown. -/
def handleDisableKillSwitch : Work Outcome := do
  match ← dial with
  | .error _ => succeed
  | .ok () =>
    attempt Kernel.deleteTable
    lockedUpdate fun session => { session with killSwitchArmed := false }
    succeed

def handleRecoverKillSwitch : Work Outcome := do
  match ← dial with
  | .error _ => succeed
  | .ok () =>
    match ← query fun kernel _ => kernel.table.isSome with
    | .error _ | .ok false => succeed
    | .ok true =>
      let live ← locked fun scope => (scope, scope.live)
      if live then succeed
      else
        attempt Kernel.deleteTable
        reapRoutes
        succeed

def handleRefreshAllowIP (req : Request) : Work Outcome := do
  let armed ← lockedRead SessionState.killSwitchArmed
  if !armed then succeed
  else
    match parseAddr req.ip with
    | some (.v4 addr) =>
      match ← dial with
      | .error _ => succeed
      | .ok () =>
        attempt (Kernel.refreshAllowIP (.v4 addr))
        succeed
    | _ => refuse .badRequest [.text "not an IPv4 address: ", .quoted req.ip]

/-- `tunDNSSink`: host .53 of the TUN's /24, or .54 when the TUN itself holds .53. -/
def tunDNSSink (tunAddr : BitVec 32) : Addr :=
  let last : BitVec 32 := if tunAddr.toNat % 256 = 53 then 54 else 53
  .v4 ((tunAddr &&& 0xffffff00#32) ||| last)

/-- The capture through systemd-resolved. -/
def captureViaResolved (tunIndex : Nat) (sink : Addr) : Work (Except String Unit) := do
  match ← change (Kernel.updateLink tunIndex fun link => { link with dns := some sink }) with
  | .error error => pure (.error ("point the tunnel link's resolver at " ++
    String.ofList sink.text ++
      ": " ++ error))
  | .ok () =>
    match ← change (Kernel.updateLink tunIndex fun link => { link with routesAll := true }) with
    | .error error => pure (.error ("give the tunnel link a ~. routing domain: " ++ error))
    | .ok () =>
      bareUpdate fun session => { session with dns :=
        { session.dns with tunIndex, viaResolved := true, captured := true } }
      match ← bareRead SessionState.gw with
      | none => pure (.ok ())
      | some gw =>
        if gw.ifIndex = 0 then pure (.ok ())
        else
          let prior ← query fun kernel _ => (kernel.links gw.ifIndex).defaultRoute
          match ← change (Kernel.updateLink gw.ifIndex fun link =>
              { link with defaultRoute := false }) with
          | .error _ => pure (.ok ())
          | .ok () =>
            bareUpdate fun session => { session with dns := { session.dns with
              physIndex := gw.ifIndex
              physDefaultRoute := match prior with
                | .ok flag => flag
                | .error _ => true } }
            pure (.ok ())

/-- What `captureViaResolvConf` writes. -/
def resolvBody (sink : Addr) : String :=
  "# Written by bacchus-netd while the tunnel is up.\n" ++
    "# The previous configuration is restored when it goes down, including\n" ++
    "# if this client crashes. See ADR-0051.\nnameserver " ++ String.ofList sink.text ++ "\n"

/-- Record what stood at `/etc/resolv.conf`, then replace it. -/
def replaceResolvConf (remember : DnsState → DnsState) (sink : Addr) :
    Work (Except String Unit) := do
  bareUpdate fun session => { session with dns := remember session.dns }
  match ← change fun kernel => { kernel with resolvConf := .file (resolvBody sink) 0o644 } with
  | .error error => pure (.error ("point /etc/resolv.conf at the tunnel: " ++ error))
  | .ok () =>
    bareUpdate fun session => { session with dns := { session.dns with captured := true } }
    pure (.ok ())

/-- The capture through `resolv.conf`. -/
def captureViaResolvConf (sink : Addr) : Work (Except String Unit) := do
  match ← query fun kernel _ => kernel.resolvConf with
  | .error error => pure (.error ("stat /etc/resolv.conf: " ++ error))
  | .ok .absent => replaceResolvConf (fun dns => dns) sink
  | .ok (.symlink target) =>
    match ← query fun _ _ => target with
    | .error error => pure (.error ("read the existing /etc/resolv.conf symlink: " ++ error))
    | .ok target =>
      replaceResolvConf (fun dns => { dns with resolvWasSymlink := true, resolvTarget := target })
        sink
  | .ok (.file content mode) =>
    match ← query fun _ _ => content with
    | .error error => pure (.error ("read the existing /etc/resolv.conf: " ++ error))
    | .ok content =>
      replaceResolvConf (fun dns => { dns with resolvContent := some content, resolvMode := mode })
        sink

def captureDNS : Work (Except String Unit) := do
  let session ← bareRead fun session => session
  if session.dns.captured then pure (.ok ())
  else
    match session.tunIndex, session.tunAddr with
    | 0, _ | _, none => pure (.error "no configured TUN to point the resolver at")
    | tunIndex, some tunAddr =>
      match ← dial with
      | .error _ => captureViaResolvConf (tunDNSSink tunAddr)
      | .ok () =>
        match ← query fun _ answer => answer.resolvedRunning with
        | .ok true => captureViaResolved tunIndex (tunDNSSink tunAddr)
        | _ => captureViaResolvConf (tunDNSSink tunAddr)

def releaseViaResolved (dns : DnsState) : Work Unit := do
  match ← dial with
  | .error _ => pure ()
  | .ok () =>
    if dns.physIndex > 0 then
      attempt (Kernel.updateLink dns.physIndex fun link =>
        { link with defaultRoute := dns.physDefaultRoute })
    else pure ()
    if dns.tunIndex > 0 then attempt (Kernel.updateLink dns.tunIndex fun _ => {}) else pure ()

def releaseViaResolvConf (dns : DnsState) : Work Unit := do
  if dns.resolvWasSymlink then
    match ← change fun kernel => { kernel with resolvConf := .absent } with
    | .error _ => pure ()
    | .ok () => attempt fun kernel => { kernel with resolvConf := .symlink dns.resolvTarget }
  else
    match dns.resolvContent with
    | some content =>
      let mode := if dns.resolvMode = 0 then 0o644 else dns.resolvMode
      attempt fun kernel => { kernel with resolvConf := .file content mode }
    | none => attempt fun kernel => { kernel with resolvConf := .absent }

/-- `releaseDNS`: best effort, and the session forgets the capture either way. -/
def releaseDNS : Work Unit := do
  let dns ← bareRead SessionState.dns
  if dns.captured then
    if dns.viaResolved then releaseViaResolved dns else releaseViaResolvConf dns
    bareUpdate fun session => { session with dns := {} }
  else pure ()

/-- Point the resolver into the tunnel. -/
def handleCaptureDNS : Work Outcome := do
  match ← captureDNS with
  | .error error => refuse .internal [.text "capture DNS: ", .text error]
  | .ok () => succeed

/-- Give the resolver back. -/
def handleReleaseDNS : Work Outcome := do
  releaseDNS
  succeed

/-- Carve served egress out of the tunnel. -/
def handleAllowServedEgress : Work Outcome := do
  let armed ← lockedRead SessionState.killSwitchArmed
  if armed then
    refuse .badRequest
      [.text "served egress must be carved out before the kill-switch is armed, not after"]
  else
    let carved ← netlink do
      match ← query fun _ answer => answer.gateway with
      | .error error => pure (.error error)
      | .ok _ =>
        match ← query fun _ answer => answer.source with
        | .error error => pure (.error error)
        | .ok src =>
          let uid ← Task.atomically fun scope _ => (scope, scope.uid)
          match ← change (Kernel.addServedRule src uid) with
          | .error error => pure (.error error)
          | .ok () => pure (.ok src)
    match carved with
    | .error error =>
      refuse .internal [.text "carve served egress out of the tunnel: ", .text error]
    | .ok src =>
      lockedUpdate fun session => { session with servedSrc := some src }
      pure (.reply { ok := true, servedSource := some src })

/-- `revokeServedEgress`: the routing rule first, then the filter allowance. -/
def revokeServedEgress : Work Unit := do
  let served ← locked fun scope =>
    ({ scope with session := { scope.session with servedSrc := none } }, scope.session.servedSrc)
  match served with
  | none => pure ()
  | some src =>
    let _ ← netlink (change Kernel.delServedRule)
    match ← dial with
    | .error _ => pure ()
    | .ok () => attempt (Kernel.revokeServed src)

def handleRevokeServedEgress : Work Outcome := do
  revokeServedEgress
  succeed

/-- `authorize`: the session a request belongs to. -/
def authorize (helper : Helper) (req : Request) : Except Reply SessionId :=
  match helper.sess with
  | none => .error (failf .noSession
      [.text "no session is open; send ", .quoted Verb.open.name, .text " first"])
  | some id =>
    if req.token = "" then .error (failf .badToken [.text "request carries no session token"])
    else if req.token ≠ (helper.session id).token then
      .error (failf .badToken [.text "session token does not match the open session"])
    else .ok id

/-- The handler a request is dispatched to once it is authorised. -/
def handle (req : Request) : Work Outcome :=
  match Verb.parse req.verb with
  | some .defaultGateway => handleDefaultGateway
  | some .addExclusionRoutes => handleExclusionRoutes req false
  | some .addExclusionRoutesV6 => handleExclusionRoutes req true
  | some .addInclusionRoutes => handleInclusionRoutes req
  | some .removeRoutes => handleRemoveRoutes req
  | some .createTUN => handleCreateTUN
  | some .configureTUN => handleConfigureTUN req
  | some .addSplitDefaultRoute => handleSplitDefaultRoute req
  | some .disablePhysicalIPv6 => handleDisableIPv6
  | some .enablePhysicalIPv6 => handleEnableIPv6
  | some .enableKillSwitch => handleEnableKillSwitch req
  | some .disableKillSwitch => handleDisableKillSwitch
  | some .recoverKillSwitch => handleRecoverKillSwitch
  | some .refreshAllowIP => handleRefreshAllowIP req
  | some .captureDNS => handleCaptureDNS
  | some .releaseDNS => handleReleaseDNS
  | some .allowServedEgress => handleAllowServedEgress
  | some .revokeServedEgress => handleRevokeServedEgress
  | _ => refuse .unknownVerb [.text "unknown verb ", .quoted req.verb]

/-- `reapOrphan`: lift a lockdown and clear routes left by a crashed session. -/
def reapOrphan : Work Unit := do
  match ← dial with
  | .error _ => pure ()
  | .ok () => clearTable
  reapRoutes

/-- `handleClose` after it has taken the session out of the slot. -/
def closeSession : Work Outcome := do
  releaseDNS
  succeed

/-- What is left to do for a request after its first mutex section. -/
inductive Turn where
  | answer (reply : Reply)
  /-- `handleOpen` has found no session and keeps the mutex. -/
  | openNew
  /-- Work for the session the request belongs to. -/
  | work (id : SessionId) (work : Work Outcome)

/-- The first mutex section of `dispatch`. -/
def turn (req : Request) (helper : Helper) : Helper × Turn :=
  match Verb.parse req.verb with
  | some .open =>
    match helper.sess with
    | some id => (helper, .answer (failf .busy [.text "another session is already open (uid ",
        .number (helper.session id).uid.toNat, .text ")"]))
    | none => (helper, .openNew)
  | some .close =>
    match helper.sess with
    | none => (helper, .answer .success)
    | some id =>
      if req.token ≠ (helper.session id).token then
        (helper, .answer (failf .badToken [.text "session token does not match the open session"]))
      else ({ helper with sess := none }, .work id closeSession)
  | _ =>
    match authorize helper req with
    | .error refusal => (helper, .answer refusal)
    | .ok id => (helper, .work id (handle req))

/-- The end of `handleOpen`: mint a token, install the session, release the mutex. -/
def install (conn : ConnId) (uid : UInt32) (helper : Helper) (answer : Answer) : Helper × Reply :=
  match answer.error with
  | some error => ({ helper with mutex := none },
      failf .internal [.text "could not mint a session token: ", .text error])
  | none =>
    ({ helper with
        mutex := none
        sess := some helper.sessions.length
        sessions := helper.sessions ++ [{ token := answer.token, uid, openedBy := conn }] },
      { ok := true, token := answer.token })

/-- `clientGone` after it has emptied the slot. An armed lockdown is held; its routes then stay
too. -/
def teardown : Work Unit := do
  releaseDNS
  revokeServedEgress
  let armed ← bareRead SessionState.killSwitchArmed
  if armed then pure ()
  else
    reapRoutes
    let captured ← bareRead fun session => (session.ipv6For, session.ipv6Was)
    restoreIPv6 captured.1 captured.2

/-- A handler's task, run on the helper for one session. -/
def Work.on {α : Type} (work : Work α) (id : SessionId) : Task Helper Answer α :=
  work.zoom (fun helper => helper.scope id) (Helper.restore id)

/-- `reapOrphan` as `handleOpen` runs it, before there is a session. -/
def reapForOpen : Task Helper Answer Unit :=
  reapOrphan.zoom (fun helper => helper.scope helper.sessions.length)
    fun helper scope => { helper with kernel := scope.kernel }

/-- `checkPeer`: does logind know the uid for the owner of a local session? -/
def checkPeer (allowNoLogin : Bool) (uid : UInt32) : Except String Bool → Option Reply
  | .error error =>
    if allowNoLogin then none
    else some (failf .denied [.text "cannot confirm uid ", .number uid.toNat,
      .text " owns a local session (",
      .text error, .text "); a non-systemd host must be packaged with -allow-without-logind"])
  | .ok true => none
  | .ok false => some (failf .denied
      [.text "uid ", .number uid.toNat, .text " does not own an active local session"])

variable {helper : Helper} {req : Request}

/-- An authorised request carries the token of the session in the slot. -/
theorem authorize_ok {id : SessionId} (authorised : authorize helper req = .ok id) :
    helper.sess = some id ∧ req.token = (helper.session id).token := by
  unfold authorize at authorised
  split at authorised
  · cases authorised
  · rename_i current taken
    split_ifs at authorised with empty mismatch
    cases authorised
    exact ⟨taken, not_not.mp mismatch⟩

variable {next : Helper}

/-- An answer at once changes nothing. -/
theorem turn_answer {reply : Reply} (taken : turn req helper = (next, .answer reply)) :
    next = helper := by
  unfold turn at taken
  split at taken
  · split at taken <;> cases taken
    rfl
  · split at taken
    · cases taken
      rfl
    · split at taken <;> cases taken
      rfl
  · split at taken <;> cases taken
    rfl

/-- A session is opened in a free slot. -/
theorem turn_openNew (taken : turn req helper = (next, .openNew)) :
    next = helper ∧ helper.sess = none ∧ Verb.parse req.verb = some .open := by
  unfold turn at taken
  split at taken
  · rename_i verb
    split at taken <;> cases taken
    rename_i empty
    exact ⟨rfl, empty, verb⟩
  · split at taken
    · cases taken
    · split at taken <;> cases taken
  · split at taken <;> cases taken

/-- Work is only done for the session in the slot, on a request with its token; `close` empties
it. -/
theorem turn_work {id : SessionId} {work : Work Outcome}
    (taken : turn req helper = (next, .work id work)) :
    helper.sess = some id ∧ req.token = (helper.session id).token ∧
      (next = helper ∧ work = handle req ∨
        next = { helper with sess := none } ∧ work = closeSession ∧
          Verb.parse req.verb = some .close) := by
  unfold turn at taken
  split at taken
  · split at taken <;> cases taken
  · rename_i verb
    split at taken
    · cases taken
    · rename_i current slot
      split at taken
      · cases taken
      · rename_i token
        cases taken
        exact ⟨slot, not_not.mp token, .inr ⟨rfl, rfl, verb⟩⟩
  · split at taken
    · cases taken
    · rename_i current authorised
      cases taken
      obtain ⟨slot, token⟩ := authorize_ok authorised
      exact ⟨slot, token, .inl ⟨rfl, rfl⟩⟩

end Bacchus.Netd
