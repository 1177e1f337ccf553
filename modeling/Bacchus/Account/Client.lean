import Bacchus.Device.Credential
import Bacchus.Device.CredentialStore
import Bacchus.Semantics.Task
import Mathlib.Data.List.DropRight

/-!
# The client of the account service

`core/accountclient`, with the half of `core.DeviceEnrollment` it calls. A device redeems a claim
code for its first credential, or collects one it is enrolled for. A service has several
addresses, any of which may be down. A call is a task over the requests it sends, the clock and
the store; answers come from outside, and the decoders are the library's.
-/

namespace Bacchus.AccountClient

open Bacchus.Device (Credential CredentialStore)

/-- The body of a request. -/
inductive Payload where
  | challenge
  | enroll (claim : String) (devicePub : Bytes) (label : String) (challenge sig : Bytes)
  | credential (devicePub challenge sig : Bytes)

def Payload.path : Payload → String
  | .challenge => "/v1/challenge"
  | .enroll .. => "/v1/enroll"
  | .credential .. => "/v1/credential"

/-- A request to one address of the service. -/
structure Request where
  base : String
  payload : Payload

/-- What the service answers. -/
inductive Reply where
  /-- The dial, the handshake or the send failed, time ran out, or a redirect was refused. -/
  | failed
  /-- The response could not be read to its end. -/
  | unread
  | answered (status : Int) (body : Bytes)

/-- `credentialsResponse`, which both issuing verbs answer with. -/
structure CredentialsResponse where
  device : String := ""
  admission : String := ""
  issuerCert : String := ""

def CredentialsResponse.credential (resp : CredentialsResponse) : Credential where
  device := resp.device
  issuerCert := resp.issuerCert
  admission := resp.admission

structure ErrorEnvelope where
  code : String
  retryAfterMS : Int64

/-- `json.Unmarshal` into each type; the advisory expiry of a challenge is not read. -/
structure Codec where
  challenge : Bytes → Option Bytes
  credentials : Bytes → Option CredentialsResponse
  envelope : Bytes → Option ErrorEnvelope

def codeUnknownChallenge : String := "unknown_challenge"

def codeAlreadyEnrolled : String := "already_enrolled"

def known : List String :=
  ["malformed_request", "malformed_secret", codeUnknownChallenge, "bad_assertion",
    "claim_rejected", "entitlement_expired", "no_slots", "device_revoked", codeAlreadyEnrolled,
    "challenges_full", "unknown_verb", "method_not_allowed", "payload_too_large", "rate_limited",
    "internal", "unavailable"]

/-- `Error`: the service was reached, and it declined. -/
structure Refusal where
  code : String
  status : Int
  /-- In nanoseconds. -/
  retryAfter : Int64
  recognized : Bool
  verb : String
deriving DecidableEq

/-- The failures that wrap `ErrUnreachable`. -/
inductive Unreachable where
  | transport (path : String)
  | unread (path : String)
  | noEnvelope (path : String) (status : Int)
  | unparsed (path : String)
  | noChallenge
  | incomplete
  /-- The claim code may have been spent, and the device holds no credential. -/
  | maybeSpent (cause : Unreachable)
deriving DecidableEq

inductive Failure where
  | needsClaim
  | alreadyHaveCredential
  /-- The request could not be built, and was not sent. -/
  | build (path : String)
  | unreachable (cause : Unreachable)
  | refused (refusal : Refusal)
  | signEnrollment (refusal : DeviceCred.Refusal)
  | signRenewal (refusal : DeviceCred.Refusal)
  | persist
deriving DecidableEq

/-- `errors.Is(err, ErrUnreachable)`. -/
def Failure.isUnreachable : Failure → Bool
  | .unreachable _ => true
  | _ => false

def maxResponseBytes : Nat := 2 ^ 20

namespace Codec

variable (codec : Codec)

/-- `decodeError`. Without an envelope it was not the service that answered. -/
def decodeError (path : String) (status : Int) (raw : Bytes) : Failure :=
  match codec.envelope raw with
  | none => .unreachable (.noEnvelope path status)
  | some envelope =>
    if envelope.code = "" then .unreachable (.noEnvelope path status)
    else .refused {
      code := envelope.code
      status
      retryAfter := envelope.retryAfterMS * 1000000
      recognized := known.contains envelope.code
      verb := path }

/-- What `post` makes of a reply. -/
def received {Body : Type} (path : String) (decode : Bytes → Option Body) :
    Reply → Except Failure Body
  | .failed => .error (.unreachable (.transport path))
  | .unread => .error (.unreachable (.unread path))
  | .answered status body =>
    if status ≠ 200 then .error (codec.decodeError path status (body.take maxResponseBytes))
    else
      match decode (body.take maxResponseBytes) with
      | none => .error (.unreachable (.unparsed path))
      | some value => .ok value

end Codec

/-- What `url.Parse` finds. `rest` is all that `String` writes after the scheme and its colon. -/
structure Url where
  scheme : String
  host : String
  path : String
  rest : String

def Url.text (url : Url) : String := url.scheme ++ ":" ++ url.rest

inductive ConfigError where
  | unparsed (raw : String)
  | notHttps (raw scheme : String)
  | noHost (raw : String)
  | hasPath (raw path : String)
  | noBase
  | noAudience

/-- `strings.TrimRight(strings.TrimSpace(raw), "/")`. -/
def trimBase (raw : String) : String :=
  .ofList ((Netip.trimSpace raw).toList.rdropWhile (· = '/'))

/-- The loop of `New`, over the configured addresses, with those kept so far. -/
def configuredBases (parse : String → Option Url) (bases : List String) :
    List String → Except ConfigError (List String)
  | [] => .ok bases
  | raw :: rest =>
    if trimBase raw = "" then configuredBases parse bases rest
    else
      match parse (trimBase raw) with
      | none => .error (.unparsed raw)
      | some url =>
        if url.scheme ≠ "https" then .error (.notHttps raw url.scheme)
        else if url.host = "" then .error (.noHost raw)
        else if url.path ≠ "" ∧ url.path ≠ "/" then .error (.hasPath raw url.path)
        else if url.text ∈ bases then configuredBases parse bases rest
        else configuredBases parse (bases ++ [url.text]) rest

/-- `Client`, as `New` builds it. -/
structure Client where
  bases : List String
  audience : String
  codec : Codec
  bases_ne_nil : bases ≠ []
  named : "" ∉ bases
  nodup : bases.Nodup

theorem Url.text_ne_empty (url : Url) (scheme : url.scheme = "https") : url.text ≠ "" := by
  intro empty
  have characters := congrArg String.toList empty
  rw [text, scheme, String.toList_append, String.toList_append] at characters
  cases characters

/-- What the loop of `New` keeps true of the addresses. -/
theorem configuredBases_keeps {parse : String → Option Url} {bases configured raws : List String}
    (named : "" ∉ bases) (nodup : bases.Nodup)
    (accepted : configuredBases parse bases raws = .ok configured) :
    "" ∉ configured ∧ configured.Nodup := by
  induction raws generalizing bases with
  | nil =>
    cases accepted
    exact ⟨named, nodup⟩
  | cons raw rest ih =>
    unfold configuredBases at accepted
    split at accepted
    · exact ih named nodup accepted
    · split at accepted
      · cases accepted
      · next url _ =>
        split_ifs at accepted with scheme host path seen
        · exact ih named nodup accepted
        · refine ih ?_ ?_ accepted
          · rw [List.mem_append, List.mem_singleton]
            rintro (member | empty)
            · exact named member
            · exact url.text_ne_empty (not_not.mp scheme) empty.symm
          · exact nodup.append (List.nodup_singleton _) (List.disjoint_singleton.mpr seen)

/-- `New`, without the transport it builds. -/
def Client.new (parse : String → Option Url) (codec : Codec) (baseURLs : List String)
    (audience : String) : Except ConfigError Client :=
  match accepted : configuredBases parse [] baseURLs with
  | .error error => .error error
  | .ok bases =>
    if none : bases = [] then .error .noBase
    else if Netip.trimSpace audience = "" then .error .noAudience
    else
      have keeps := configuredBases_keeps List.not_mem_nil List.nodup_nil accepted
      .ok {
        bases
        audience := Netip.trimSpace audience
        codec
        bases_ne_nil := none
        named := keeps.1
        nodup := keeps.2 }

/-- What a call does that others see. -/
inductive Event where
  /-- A request that was sent, what came back, and what the device held when it was sent. -/
  | exchanged (req : Request) (reply : Reply) (held : Credential)
  /-- A write of the store, and whether it succeeded. -/
  | stored (cred : Credential) (kept : Bool)

/-- What a call of the client reads and changes. -/
structure World where
  store : CredentialStore
  /-- When an address last failed as unreachable. -/
  unhealthy : String → Option Int := fun _ => none
  /-- What the call has done, newest first. -/
  events : List Event := []

/-- What comes from outside, as far as an action asks for it. -/
structure Answer where
  reply : Reply := .failed
  /-- The request can be built. -/
  builds : Bool := true
  /-- `time.Now`, in nanoseconds. -/
  now : Int := 0
  saves : Bool := true

abbrev Call := Task World Answer

/-- `DeviceEnrollment`, without its store. -/
structure Device where
  key : Bytes
  /-- `ed25519.Sign`. -/
  sign : (priv msg : Bytes) → Bytes

namespace Device

variable (device : Device)

def purposeRenew : Bytes := "bacchus/assert-renew/v1".toUTF8.toList

def purposeEnroll : Bytes := "bacchus/assert-enroll/v1".toUTF8.toList

/-- `DevicePub`. A private key ends with its public key. -/
def pub : Bytes := device.key.drop 32

def signEnroll (audience challenge : Bytes) : Except DeviceCred.Refusal Bytes :=
  DeviceCred.signAssertion device.sign device.key purposeEnroll audience challenge

def signRenew (audience challenge : Bytes) : Except DeviceCred.Refusal Bytes :=
  DeviceCred.signAssertion device.sign device.key purposeRenew audience challenge

end Device

structure Signer where
  pub : Bytes
  sign : (audience challenge : Bytes) → Except DeviceCred.Refusal Bytes

def enrolled : Call Bool := Task.atomically fun world _ => (world, world.store.get.2)

def current : Call Credential := Task.atomically fun world _ => (world, world.store.get.1)

/-- `DeviceEnrollment.Put`. Nothing else writes to the store during the call. -/
def put (cred : Credential) : Call Bool :=
  Task.atomically fun world answer =>
    let written := world.store.put cred answer.saves
    ({ world with
        store := written.1
        events := .stored cred written.2 :: world.events }, written.2)

/-- `unreachableCooldown`, in nanoseconds. -/
def unreachableCooldown : Int := 30 * 10 ^ 9

def cooling (unhealthy : String → Option Int) (now : Int) (base : String) : Bool :=
  match unhealthy base with
  | none => false
  | some failed => decide (now - failed < unreachableCooldown)

def markUnreachable (base : String) : Call Unit :=
  Task.atomically fun world answer =>
    ({ world with unhealthy := Function.update world.unhealthy base (some answer.now) }, ())

namespace Client

variable (client : Client)

def audienceBytes : Bytes := client.audience.toUTF8.toList

/-- The healthy addresses in configured order, then the cooling ones. -/
def ordered (unhealthy : String → Option Int) (now : Int) : List String :=
  client.bases.filter (fun base => !cooling unhealthy now base) ++
    client.bases.filter (cooling unhealthy now)

def baseOrder : Call (List String) :=
  Task.atomically fun world answer => (world, client.ordered world.unhealthy answer.now)

/-- One request to one address. -/
def post {Body : Type} (base : String) (payload : Payload) (decode : Bytes → Option Body) :
    Call (Except Failure Body) :=
  Task.atomically fun world answer =>
    if answer.builds then
      ({ world with
          events := .exchanged ⟨base, payload⟩ answer.reply world.store.cred :: world.events },
        client.codec.received payload.path decode answer.reply)
    else (world, .error (.build payload.path))

def challengeFrom (base : String) : Call (Except Failure Bytes) := do
  match ← client.post base .challenge client.codec.challenge with
  | .error failure => return .error failure
  | .ok challenge =>
    if challenge = [] then return .error (.unreachable .noChallenge)
    else return .ok challenge

/-- The loop of `overExchanges`. `last` is what the last address gave. -/
def exchangesOver {Body : Type} (exchange : String → Call (Except Failure Body))
    (last : Except Failure Body) : List String → Call (Except Failure Body)
  | [] => return last
  | base :: rest => do
      match ← exchange base with
      | .ok body => return .ok body
      | .error failure =>
        if failure.isUnreachable then do
          markUnreachable base
          exchangesOver exchange (.error failure) rest
        else return .error failure

/-- `overExchanges`, with what is returned if there is no address. -/
def overExchanges {Body : Type} (exchange : String → Call (Except Failure Body)) (zero : Body) :
    Call (Except Failure Body) := do
  let order ← client.baseOrder
  exchangesOver exchange (.ok zero) order

def issueCredentialOnce (signer : Signer) (base : String) :
    Call (Except Failure CredentialsResponse) := do
  match ← client.challengeFrom base with
  | .error failure => return .error failure
  | .ok challenge =>
    match signer.sign client.audienceBytes challenge with
    | .error refusal => return .error (.signRenewal refusal)
    | .ok sig => client.post base (.credential signer.pub challenge sig) client.codec.credentials

/-- The exchange at one address, again if the service has forgotten the challenge. -/
def issueCredentialAt (signer : Signer) (base : String) :
    Call (Except Failure CredentialsResponse) := do
  match ← client.issueCredentialOnce signer base with
  | .error (.refused refusal) =>
    if refusal.code = codeUnknownChallenge then client.issueCredentialOnce signer base
    else return .error (.refused refusal)
  | outcome => return outcome

def issueCredential (signer : Signer) : Call (Except Failure CredentialsResponse) :=
  client.overExchanges (client.issueCredentialAt signer) {}

/-- An empty admission credential does not clear the one held. -/
def carried (issued : Credential) : Call Credential :=
  if issued.admission = "" then do
    let held ← current
    if held.admission ≠ "" then return { issued with admission := held.admission }
    else return issued
  else return issued

/-- Store a credential that is complete. -/
def persist (resp : CredentialsResponse) : Call (Except Failure Credential) :=
  if resp.credential.presentable then do
    let issued ← carried resp.credential
    if ← put issued then return .ok issued else return .error .persist
  else return .error (.unreachable .incomplete)

/-- Ask for the credential of an enrolled device. -/
def collect (device : Device) : Call (Except Failure Credential) := do
  match ← client.issueCredential ⟨device.pub, device.signRenew⟩ with
  | .error failure => return .error failure
  | .ok resp => persist resp

/-- The variables of `Enroll` after its loop over the addresses. -/
structure Found where
  base : String := ""
  challenge : Bytes := []
  err : Option Failure := none

/-- The loop of `Enroll`. The first answer that is a refusal ends it. -/
def firstChallenge (err : Option Failure) : List String → Call (Except Failure Found)
  | [] => return .ok { err }
  | candidate :: rest => do
      match ← client.challengeFrom candidate with
      | .ok challenge => return .ok { base := candidate, challenge }
      | .error failure =>
        if failure.isUnreachable then do
          markUnreachable candidate
          firstChallenge (some failure) rest
        else return .error failure

/-- Collect what an enrolment may have left; `otherwise` is the failure if there is nothing. -/
def recover (device : Device) (otherwise : Failure) : Call (Except Failure Credential) := do
  match ← client.collect device with
  | .ok cred => return .ok cred
  | .error _ => return .error otherwise

/-- What follows the one enrolment request. -/
def settle (device : Device) : Except Failure CredentialsResponse → Call (Except Failure Credential)
  | .ok resp => persist resp
  | .error (.unreachable cause) => client.recover device (.unreachable (.maybeSpent cause))
  | .error (.refused refusal) =>
    if refusal.code = codeAlreadyEnrolled then client.recover device (.refused refusal)
    else return .error (.refused refusal)
  | .error failure => return .error failure

/-- Present the code and a signed challenge. -/
def redeem (device : Device) (claim label base : String) (challenge : Bytes) :
    Call (Except Failure Credential) := do
  match device.signEnroll client.audienceBytes challenge with
  | .error refusal => return .error (.signEnrollment refusal)
  | .ok sig =>
    let answer ← client.post base (.enroll claim device.pub label challenge sig)
      client.codec.credentials
    client.settle device answer

/-- `Enroll`: spend a claim code for a credential. -/
def enroll (device : Device) (claim label : String) : Call (Except Failure Credential) := do
  if claim = "" then return .error .needsClaim
  else if ← enrolled then return .error .alreadyHaveCredential
  else
    let order ← client.baseOrder
    match ← client.firstChallenge none order with
    | .error failure => return .error failure
    | .ok found =>
      if found.base = "" then
        match found.err with
        | some failure => return .error failure
        -- Without an address there is neither a challenge nor an error.
        | none => return .ok {}
      else client.redeem device claim label found.base found.challenge

end Client

end Bacchus.AccountClient
