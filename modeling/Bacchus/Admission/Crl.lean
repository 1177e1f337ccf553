import Bacchus.Admission.Verify
import Bacchus.Text.Json

/-!
# Signed revocation lists

`core/admission`: one key signs credentials and revocation lists. Both are a JSON body followed
by its signature, behind a textual tag that is not signed.
-/

namespace Bacchus.Admission

open Json

/-- `CRL`: the serials revoked at one time, to be trusted for a while. -/
structure Crl where
  version : Int
  issuedAt : Time
  expiresAt : Time
  serials : List String

def crlVersion : Int := 1

/-- Why a list is refused. -/
inductive CrlError where
  | malformed
  | badSignature
  | unsupportedVersion (version : Int)
  | expired

def crlPrefix : String := "bacchusr1:"

/-- A key pair: what it signs verifies under its public half. -/
structure Signer where
  pub : Bytes
  sign : Bytes → Bytes
  verify : (pub body sig : Bytes) → Bool
  length_pub : pub.length = 32
  length_sign : ∀ body, (sign body).length = 64
  verify_sign : ∀ body, verify pub body (sign body)

variable (codec : Json.Codec) (signer : Signer)

/-- The members of a credential that are left out when empty. -/
def Credential.optional (cred : Credential) : Json.Object :=
  omitText "note" cred.note ++ omitBool "vouched" cred.vouched ++
    omitText "trust" cred.trust ++ omitText "plan" cred.plan

/-- The body of a credential, in the order of its fields. -/
def Credential.marshal (cred : Credential) : Option Json.Object := do
  let notBefore ← codec.formatTime cred.notBefore
  let notAfter ← codec.formatTime cred.notAfter
  return [("v", .number cred.version), ("serial", .text cred.serial),
      ("sub", .text cred.subject), ("roles", .ofTexts cred.roles),
      ("nbf", .text notBefore), ("exp", .text notAfter)] ++ cred.optional

def Credential.unmarshal (object : Json.Object) : Option Credential := do
  return {
    version := ← member "v" readInt 0 object
    serial := ← member "serial" readText "" object
    subject := ← member "sub" readText "" object
    roles := ← member "roles" readTexts [] object
    notBefore := ← member "nbf" codec.readTime zeroTime object
    notAfter := ← member "exp" codec.readTime zeroTime object
    note := ← member "note" readText "" object
    vouched := ← member "vouched" readBool false object
    trust := ← member "trust" readText "" object
    plan := ← member "plan" readText "" object }

def Crl.marshal (crl : Crl) : Option Json.Object := do
  let issuedAt ← codec.formatTime crl.issuedAt
  let expiresAt ← codec.formatTime crl.expiresAt
  return [("v", .number crl.version), ("iat", .text issuedAt), ("exp", .text expiresAt),
    ("revoked", .ofTexts crl.serials)]

def Crl.unmarshal (object : Json.Object) : Option Crl := do
  return {
    version := ← member "v" readInt 0 object
    issuedAt := ← member "iat" codec.readTime zeroTime object
    expiresAt := ← member "exp" codec.readTime zeroTime object
    serials := ← member "revoked" readTexts [] object }

/-- A body with its signature. -/
def Signer.seal (object : Json.Object) : Bytes :=
  codec.render object ++ signer.sign (codec.render object)

def sign (cred : Credential) : Option Bytes :=
  (cred.marshal codec).map (signer.seal codec)

/-- What `SignCRL` puts behind the tag. -/
def signCrl (revoked : List String) (now ttl : Time) : Option Bytes :=
  let crl : Crl := ⟨crlVersion, now, now + ttl, revoked.mergeSort (· ≤ ·)⟩
  (crl.marshal codec).map (signer.seal codec)

/-- The scheme credentials are verified under. -/
def Signer.scheme : Scheme where
  verify := signer.verify
  unmarshal body := (codec.read body).bind (Credential.unmarshal codec)

/-- The payload behind a tag. -/
def payload (tag encoded : String) : Option Bytes :=
  let text := (Netip.trimSpace encoded).toList
  if tag.toList.isPrefixOf text then Text.base64Decode (.ofList (text.drop tag.length)) else none

def parseCrl (pub : Bytes) (encoded : String) : Except CrlError Crl :=
  match payload crlPrefix encoded with
  | none => .error .malformed
  | some signed =>
    let body := signed.take (signed.length - 64)
    let sig := signed.drop (signed.length - 64)
    if pub.length ≠ 32 ∨ signed.length ≤ 64 then .error .malformed
    else if signer.verify pub body sig = false then .error .badSignature
    else
      match (codec.read body).bind (Crl.unmarshal codec) with
      | none => .error .malformed
      | some crl =>
        if crl.version ≠ crlVersion then .error (.unsupportedVersion crl.version) else .ok crl

/-- A list is current and signed. -/
def verifyCrl (pub : Bytes) (encoded : String) (now : Time) : Except CrlError Crl :=
  match parseCrl codec signer pub encoded with
  | .error failure => .error failure
  | .ok crl => if now < crl.expiresAt then .ok crl else .error .expired

def Crl.revoked (crl : Crl) (serial : String) : Bool := serial ∈ crl.serials

/-- `ClientCRL`: the list a client holds. -/
structure ClientCrl where
  pub : Bytes
  cur : Option Crl

/-- `ClientCRL.Set`. A list that does not verify leaves the held one. -/
def ClientCrl.set (client : ClientCrl) (encoded : String) (now : Time) :
    ClientCrl × Option CrlError :=
  match verifyCrl codec signer client.pub encoded now with
  | .error failure => (client, some failure)
  | .ok crl => ({ client with cur := some crl }, none)

def ClientCrl.revoked (client : ClientCrl) (serial : String) : Bool :=
  client.cur.any (·.revoked serial)

end Bacchus.Admission
