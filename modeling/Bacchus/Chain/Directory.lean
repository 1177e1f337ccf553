import Bacchus.Geoip
import Bacchus.Text.Hex

/-!
# The signed relay directory

`loadRelayDirectory` indexes a verified, unexpired snapshot for a chaining client: the nodes a
layer can be peeled at, and where an exit terminates end-to-end channels.
-/

namespace Bacchus.Chain

abbrev Time := Int

/-- One entry of the signed snapshot. -/
structure Entry where
  role : String
  id : String
  country : String := ""
  addr : String := ""
  ingress : String := ""
  operator : String := ""
  countrySource : String := ""

structure Snapshot where
  expiresAt : Time
  entries : List Entry

def Entry.countryContradicted (entry : Entry) : Bool :=
  entry.countrySource = "observed-signaling-only"

/-- `relayHop`: a node whose id is the key a layer is sealed to. -/
structure RelayHop where
  id : String
  pub : Bytes
  keyed : Text.hexDecode id = some pub
  full : pub.length = 32
  dial : String
  operator : String := ""
  country : String := ""
  countryContradicted : Bool := false
  pairable : Bool := false
deriving DecidableEq

/-- `relayDirectory`, as a client reads it. -/
structure RelayDirectory where
  hops : List RelayHop := []
  /-- The address an exit is dialed at; empty if there is none. -/
  exitAddr : String → String := fun _ => ""

/-- What a chaining client takes from elsewhere: the coordinator's key, the verification of a
snapshot, and the AS table. -/
structure Atlas where
  key : Bytes
  verifySigned : Bytes → Bytes → Option Snapshot
  lookupAs : Netip.Addr → Option String

/-- `asn.OfHostPort`. -/
def Atlas.asOf (atlas : Atlas) (hostport : String) : Option String :=
  (Netip.parseAddr (Netip.hostOf hostport)).bind atlas.lookupAs

/-- Hops with one id have one key. -/
theorem RelayHop.pub_of_id {left right : RelayHop} (same : left.id = right.id) :
    left.pub = right.pub :=
  Option.some.inj (left.keyed.symm.trans (same ▸ right.keyed))

/-- The id of a hop is never empty. -/
theorem RelayHop.id_ne_empty (hop : RelayHop) : hop.id ≠ "" := by
  intro empty
  have keyed : Text.hexDecode "" = some hop.pub := empty ▸ hop.keyed
  have short : hop.pub = [] := (Option.some.inj keyed).symm
  have full := hop.full
  rw [short] at full
  cases full

/-- The hop an entry makes, given a key for an id and an address to dial. -/
def Entry.hop (entry : Entry) : Option RelayHop :=
  match keyed : Text.hexDecode entry.id with
  | none => none
  | some pub =>
    let dial := if entry.ingress = "" ∧ entry.role = "exit" then entry.addr else entry.ingress
    if full : pub.length = 32 then
      if dial = "" then none
      else some
        { id := entry.id
          pub, keyed, full, dial
          operator := entry.operator
          country := entry.country
          countryContradicted := entry.countryContradicted
          pairable := entry.role = "exit" ∧ entry.addr ≠ "" }
    else none

/-- The loop of `loadRelayDirectory`. -/
def RelayDirectory.add (dir : RelayDirectory) (entry : Entry) : RelayDirectory :=
  { hops := dir.hops ++ entry.hop.toList
    exitAddr :=
      if entry.role = "exit" ∧ entry.addr ≠ "" then
        Function.update dir.exitAddr entry.id entry.addr
      else dir.exitAddr }

/-- Why a directory is refused. -/
inductive DirectoryError where
  | noKey
  | unverified
  | expired
  | noHop

/-- Verify the snapshot and list its usable relays. -/
def loadRelayDirectory (atlas : Atlas) (signed : Bytes) (now : Time) :
    Except DirectoryError RelayDirectory :=
  if atlas.key.length ≠ 32 then .error .noKey
  else
    match atlas.verifySigned atlas.key signed with
    | none => .error .unverified
    | some snapshot =>
      if snapshot.expiresAt < now then .error .expired
      else
        let dir := snapshot.entries.foldl RelayDirectory.add {}
        if dir.hops = [] then .error .noHop else .ok dir

/-- The country filter of exit candidates; no country asks for none. -/
def RelayHop.inCountry (country : String) (hop : RelayHop) : Bool :=
  let want := Geoip.canonical country
  want = "" ∨ Geoip.canonical hop.country = want

def RelayDirectory.exitsIn (dir : RelayDirectory) (country : String) : List RelayHop :=
  dir.hops.filter fun hop => hop.pairable && !hop.countryContradicted && hop.inCountry country

def RelayDirectory.contradictedIn (dir : RelayDirectory) (country : String) : Nat :=
  dir.hops.countP fun hop => hop.pairable && hop.countryContradicted && hop.inCountry country

end Bacchus.Chain
