import Bacchus.Net.Netip
import Bacchus.Text.Escape

/-!
# The helper's wire protocol

Requests, replies and framing of `netdwire`: a 4-byte big-endian length and that many bytes of
JSON. Decoding JSON is a parameter; what the package decides about a decoded request, and the
text of every reply, is written out.
-/

namespace Bacchus.Netd

open Netip Text

/-- The closed set of operations. -/
inductive Verb where
  | open | close
  | defaultGateway | addExclusionRoutes | addExclusionRoutesV6 | addInclusionRoutes | removeRoutes
  | createTUN | configureTUN | addSplitDefaultRoute
  | disablePhysicalIPv6 | enablePhysicalIPv6
  | enableKillSwitch | disableKillSwitch | recoverKillSwitch | refreshAllowIP
  | captureDNS | releaseDNS | allowServedEgress | revokeServedEgress
deriving DecidableEq

namespace Verb

/-- The name of a verb on the wire. -/
def name : Verb → String
  | .open => "open"
  | .close => "close"
  | .defaultGateway => "default-gateway"
  | .addExclusionRoutes => "add-exclusion-routes"
  | .addExclusionRoutesV6 => "add-exclusion-routes-v6"
  | .addInclusionRoutes => "add-inclusion-routes"
  | .removeRoutes => "remove-routes"
  | .createTUN => "create-tun"
  | .configureTUN => "configure-tun"
  | .addSplitDefaultRoute => "add-split-default-route"
  | .disablePhysicalIPv6 => "disable-physical-ipv6"
  | .enablePhysicalIPv6 => "enable-physical-ipv6"
  | .enableKillSwitch => "enable-kill-switch"
  | .disableKillSwitch => "disable-kill-switch"
  | .recoverKillSwitch => "recover-kill-switch"
  | .refreshAllowIP => "refresh-kill-switch-allow-ip"
  | .captureDNS => "capture-dns"
  | .releaseDNS => "release-dns"
  | .allowServedEgress => "allow-served-egress"
  | .revokeServedEgress => "revoke-served-egress"

def all : List Verb :=
  [.open, .close, .defaultGateway, .addExclusionRoutes, .addExclusionRoutesV6, .addInclusionRoutes,
    .removeRoutes, .createTUN, .configureTUN, .addSplitDefaultRoute, .disablePhysicalIPv6,
    .enablePhysicalIPv6, .enableKillSwitch, .disableKillSwitch, .recoverKillSwitch, .refreshAllowIP,
    .captureDNS, .releaseDNS, .allowServedEgress, .revokeServedEgress]

/-- The verb a request names, if it is in the set. -/
def parse (text : String) : Option Verb := all.find? fun verb => verb.name = text

/-- A verb is read back from its name. -/
theorem parse_name (verb : Verb) : parse verb.name = some verb := by
  cases verb <;> decide

end Verb

/-- Error codes of a refusal. -/
inductive Code where
  | badRequest | unknownVerb | version | noSession | badToken | busy | denied | internal
deriving DecidableEq

def Code.name : Code → String
  | .badRequest => "bad-request"
  | .unknownVerb => "unknown-verb"
  | .version => "version"
  | .noSession => "no-session"
  | .badToken => "bad-token"
  | .busy => "busy"
  | .denied => "denied"
  | .internal => "internal"

/-- One piece of a formatted message: literal text or `%v`, `%q`, `%d`. -/
inductive Piece where
  | text (value : String)
  | quoted (value : String)
  | number (value : Int)
deriving DecidableEq

/-- `fmt.Sprintf` on the pieces of a message. -/
def Piece.render (isPrint : Char → Bool) : Piece → List Char
  | .text value => value.toList
  | .quoted value => quote isPrint value
  | .number value => (toString value).toList

/-- One call. -/
structure Request where
  version : Int64
  verb : String
  token : String := ""
  prefixes : List String := []
  control : List String := []
  bypass : List String := []
  addr : String := ""
  prefixLen : Int64 := 0
  ip : String := ""
deriving DecidableEq

/-- What the helper reports about the default route. -/
structure GatewayInfo where
  nextHop : Addr
  ifIndex : Nat
  ifName : String
  nextHopV6 : Option Addr
deriving DecidableEq

/-- One answer. A refusal carries its code and the pieces of its message. -/
structure Reply where
  ok : Bool
  code : Option Code := none
  error : List Piece := []
  token : String := ""
  gateway : Option GatewayInfo := none
  servedSource : Option Addr := none
  tunCreated : Bool := false
deriving DecidableEq

/-- A success that carries nothing. -/
def Reply.success : Reply where
  ok := true

/-- `Failf`: a refusal. -/
def failf (code : Code) (error : List Piece) : Reply where
  ok := false
  code := some code
  error := error

/-- One string member of a reply, left out when empty. -/
def stringField (name : String) (value : List Char) : List Char :=
  if value = [] then [] else ",\"".toList ++ name.toList ++ "\":".toList ++ jsonString value

/-- The gateway member of a reply. -/
def GatewayInfo.marshal (info : GatewayInfo) : List Char :=
  ",\"gateway\":\x7b\"next_hop\":".toList ++ jsonString info.nextHop.text ++
    ",\"if_index\":".toList ++ (toString info.ifIndex).toList ++
    ",\"if_alias\":".toList ++ jsonString info.ifName.toList ++
    stringField "next_hop_v6" ((info.nextHopV6.map Addr.text).getD []) ++ "\x7d".toList

/-- `json.Marshal` of a reply. -/
def Reply.marshal (isPrint : Char → Bool) (reply : Reply) : List Char :=
  "\x7b\"ok\":".toList ++ (toString reply.ok).toList ++
    stringField "code" ((reply.code.map fun code => code.name.toList).getD []) ++
    stringField "error" (reply.error.flatMap (Piece.render isPrint)) ++
    stringField "token" reply.token.toList ++
    (reply.gateway.map GatewayInfo.marshal).getD [] ++
    stringField "served_source" ((reply.servedSource.map Addr.text).getD []) ++
    (if reply.tunCreated then ",\"tun_created\":true".toList else []) ++ "\x7d".toList

/-- `MaxFrame`: the largest encoded request or reply. -/
def maxFrame : Nat := 2 ^ 16

/-- `MaxList`: how many entries one list of a request may carry. -/
def maxList : Nat := 512

/-- `frameBytes` refuses a reply whose body exceeds `MaxFrame`. -/
def Reply.fits (isPrint : Char → Bool) (reply : Reply) : Bool :=
  byteLength (reply.marshal isPrint) ≤ maxFrame

/-- What `readFrame` finds at the front of the bytes still to be read. -/
inductive FrameRead where
  /-- The stream ends inside a header or a body. -/
  | short
  /-- The length announced exceeds `MaxFrame`. -/
  | tooLarge
  | body (bytes rest : List UInt8)
deriving DecidableEq

/-- A length and that many bytes. -/
def readFrame : List UInt8 → FrameRead
  | a :: b :: c :: d :: rest =>
    let length := ((a.toNat * 256 + b.toNat) * 256 + c.toNat) * 256 + d.toNat
    if length > maxFrame then .tooLarge
    else if rest.length < length then .short
    else .body (rest.take length) (rest.drop length)
  | _ => .short

/-- `encoding/json` reading a request with unknown fields refused; on failure the
text of its error. -/
abbrev Decoder := List UInt8 → Except String Request

/-- `Version`: compared for equality. -/
def protocolVersion : Int64 := 2

/-- The checks before a handler sees it. -/
def Request.validate (req : Request) : Option Reply :=
  if req.version ≠ protocolVersion then
    some (failf .version [.text "protocol version mismatch: helper speaks ",
      .number protocolVersion.toInt,
      .text ", client sent ", .number req.version.toInt,
      .text " — install matching bacchus-netd and bacchus-fyne"])
  else if req.verb = "" then some (failf .badRequest [.text "request has no verb"])
  else if [req.prefixes, req.control, req.bypass].any fun list => list.length > maxList then
    some (failf .badRequest [.text "list exceeds ", .number maxList, .text " entries"])
  else none

/-- `ReadRequest` on a complete frame: the request, or the refusal `serve` writes. -/
def readRequest (decode : Decoder) (body : List UInt8) : Except Reply Request :=
  match decode body with
  | .error text => .error (failf .badRequest [.text "malformed request: ", .text text])
  | .ok req =>
    match req.validate with
    | some refusal => .error refusal
    | none => .ok req

end Bacchus.Netd
