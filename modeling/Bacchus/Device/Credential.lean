import Bacchus.Delegation.Cert
import Bacchus.Semantics.Framing

/-!
# Device credentials

`core/devicecred`: the offline root signs a certificate for an issuer's key, the issuer a
credential for a device's key, and the device a coordinator's challenge. A coordinator verifies
all three by itself. Signed texts are bytes; signatures and decoders are parameters.
-/

namespace Bacchus.DeviceCred

open List Delegation Framing

/-- Why a presentation is refused. -/
inductive Refusal where
  | malformed
  | unsupportedVersion (version : Int)
  | badSignature
  | notYetValid
  | expired
  | revoked
  | credTTLTooLong
  | badAssertion
  | noRoot
deriving DecidableEq

/-- `PurposeConnect`, the one purpose that is verified here. -/
def purposeConnect : Bytes := "bacchus/assert-connect/v1".toUTF8.toList

def minChallenge : Nat := 16

/-- `assertionMessage`. The lengths are cut to 32 bits. -/
def assertionMessage (purpose audience challenge : Bytes) : Bytes :=
  purpose ++ 0 :: (fixed 4 audience.length ++
    (audience ++ (fixed 4 challenge.length ++ challenge)))

/-- `SignAssertion`, with the library's `ed25519.Sign`. -/
def signAssertion (sign : (priv msg : Bytes) → Bytes)
    (priv purpose audience challenge : Bytes) : Except Refusal Bytes :=
  if priv.length ≠ 64 then .error .malformed
  else if challenge.length < minChallenge then .error .badAssertion
  else .ok (sign priv (assertionMessage purpose audience challenge))

def verifyAssertion (scheme : Delegation.Scheme) (pub purpose audience challenge sig : Bytes) :
    Except Refusal Unit :=
  if pub.length ≠ 32 then .error .malformed
  else if challenge.length < minChallenge then .error .badAssertion
  else if scheme.verify pub (assertionMessage purpose audience challenge) sig = false then
    .error .badAssertion
  else .ok ()

/-- The bytes tell the fields apart if no purpose holds the byte that ends it and the lengths
fit. -/
theorem assertionMessage_inj {purpose audience challenge purpose' audience' challenge' : Bytes}
    (unmarked : 0 ∉ purpose) (unmarked' : 0 ∉ purpose') (short : audience.length < 2 ^ 32)
    (short' : audience'.length < 2 ^ 32) :
    assertionMessage purpose audience challenge = assertionMessage purpose' audience' challenge' ↔
      purpose = purpose' ∧ audience = audience' ∧ challenge = challenge' := by
  unfold assertionMessage
  rw [terminated_append_inj unmarked unmarked',
    prefixed_append_inj (by omega) (by omega), fixed_append_inj]
  constructor
  · rintro ⟨purposes, audiences, -, challenges⟩
    exact ⟨purposes, audiences, challenges⟩
  · rintro ⟨rfl, rfl, rfl⟩
    exact ⟨rfl, rfl, rfl, rfl⟩

/-- `IssuerCert`, without the operator's note. Times are in nanoseconds. -/
structure IssuerCert where
  version : Int
  serial : String
  issuerPub : Bytes
  notBefore : Int
  notAfter : Int
  maxCredTTL : Int64

structure DeviceCredential where
  version : Int
  serial : String
  devicePub : Bytes
  epoch : UInt64
  notBefore : Int
  notAfter : Int

def version : Int := 1

def clockSkew : Int := 2 * 60 * 10 ^ 9

/-- The longest `time.Duration`, about 292 years. -/
def maxDuration : Int := 2 ^ 63 - 1

/-- `Time.Sub`, which stops at the longest duration, either way. -/
def sub (later earlier : Int) : Int := max (-2 ^ 63) (min maxDuration (later - earlier))

def checkWindow (notBefore notAfter now : Int) : Except Refusal Unit :=
  if now < notBefore - clockSkew then .error .notYetValid
  else if notAfter ≤ now then .error .expired
  else .ok ()

structure Presentation where
  credential : Bytes
  issuerCert : Bytes
  assertion : Bytes

/-- `Verifier`, with what it takes from the libraries. -/
structure Verifier where
  scheme : Delegation.Scheme
  unmarshalCert : Bytes → Option IssuerCert
  unmarshalCredential : Bytes → Option DeviceCredential
  rootPub : Bytes
  revoked : String → Bool

namespace Verifier

variable (verifier : Verifier)

/-- `openSigned`, in the words of this package. -/
def openSigned (pub : Bytes) (tag : String) (signed : Bytes) : Except Refusal Bytes :=
  match Delegation.openSigned verifier.scheme pub tag signed with
  | .error .badSignature => .error .badSignature
  | .error _ => .error .malformed
  | .ok body => .ok body

def parseIssuerCert (signed : Bytes) : Except Refusal IssuerCert :=
  match verifier.openSigned verifier.rootPub tagIssuerCert signed with
  | .error refusal => .error refusal
  | .ok body =>
    match verifier.unmarshalCert body with
    | none => .error .malformed
    | some cert =>
      if cert.version ≠ version then .error (.unsupportedVersion cert.version)
      else if cert.issuerPub.length ≠ 32 then .error .malformed
      else .ok cert

def verifyIssuerCert (signed : Bytes) (now : Int) : Except Refusal IssuerCert :=
  if verifier.rootPub.length ≠ 32 then .error .noRoot
  else
    match verifier.parseIssuerCert signed with
    | .error refusal => .error refusal
    | .ok cert =>
      if verifier.revoked cert.serial then .error .revoked
      else
        match checkWindow cert.notBefore cert.notAfter now with
        | .error refusal => .error refusal
        | .ok _ => .ok cert

/-- The credential tier of `Verify`, under a certificate that has been verified. -/
def openCredential (cert : IssuerCert) (signed : Bytes) (now : Int) :
    Except Refusal DeviceCredential :=
  match verifier.openSigned cert.issuerPub tagDeviceCred signed with
  | .error refusal => .error refusal
  | .ok body =>
    match verifier.unmarshalCredential body with
    | none => .error .malformed
    | some cred =>
      if cred.version ≠ version then .error (.unsupportedVersion cred.version)
      else if cred.devicePub.length ≠ 32 then .error .malformed
      else if verifier.revoked cred.serial then .error .revoked
      else
        match checkWindow cred.notBefore cred.notAfter now with
        | .error refusal => .error refusal
        | .ok _ =>
          if cert.maxCredTTL.toInt < sub cred.notAfter cred.notBefore then
            .error .credTTLTooLong
          else .ok cred

/-- The checks of a presentation. -/
def verify (presentation : Presentation) (now : Int) (audience challenge : Bytes) :
    Except Refusal DeviceCredential :=
  match verifier.verifyIssuerCert presentation.issuerCert now with
  | .error refusal => .error refusal
  | .ok cert =>
    match verifier.openCredential cert presentation.credential now with
    | .error refusal => .error refusal
    | .ok cred =>
      match verifyAssertion verifier.scheme cred.devicePub purposeConnect audience
          challenge presentation.assertion with
      | .error refusal => .error refusal
      | .ok _ => .ok cred

end Verifier

theorem verifyAssertion_eq_ok_iff {scheme : Delegation.Scheme}
    {pub purpose audience challenge sig : Bytes} :
    verifyAssertion scheme pub purpose audience challenge sig = .ok () ↔
      pub.length = 32 ∧ minChallenge ≤ challenge.length ∧
        scheme.verify pub (assertionMessage purpose audience challenge) sig := by
  unfold verifyAssertion
  split_ifs with key weak bad
  · simp [key]
  · simp [Nat.not_le.mpr weak]
  · simp [bad]
  · simp [not_not.mp key, Nat.not_lt.mp weak, Bool.not_eq_false _ ▸ bad]

theorem checkWindow_eq_ok_iff {notBefore notAfter now : Int} :
    checkWindow notBefore notAfter now = .ok () ↔ notBefore - clockSkew ≤ now ∧ now < notAfter := by
  unfold checkWindow
  split_ifs with early late
  · simp [Int.not_le.mpr early]
  · simp [Int.not_lt.mpr late]
  · simp [Int.not_lt.mp early, Int.not_le.mp late]

namespace Verifier

variable {verifier : Verifier} {presentation : Presentation} {signed audience challenge : Bytes}
  {now : Int} {cert : IssuerCert} {cred : DeviceCredential}

theorem openSigned_eq_ok_iff {pub body : Bytes} {tag : String} :
    verifier.openSigned pub tag signed = .ok body ↔
      Delegation.openSigned verifier.scheme pub tag signed = .ok body := by
  unfold openSigned
  split <;> simp_all

/-- The root signed the certificate. -/
def Certified (verifier : Verifier) (signed : Bytes) (cert : IssuerCert) : Prop :=
  ∃ body, Delegation.openSigned verifier.scheme verifier.rootPub tagIssuerCert signed =
    .ok body ∧ verifier.unmarshalCert body = some cert

/-- The holder of a key signed the credential. -/
def Issued (verifier : Verifier) (issuerPub signed : Bytes) (cred : DeviceCredential) : Prop :=
  ∃ body, Delegation.openSigned verifier.scheme issuerPub Delegation.tagDeviceCred signed =
    .ok body ∧ verifier.unmarshalCredential body = some cred

theorem parseIssuerCert_eq_ok_iff :
    verifier.parseIssuerCert signed = .ok cert ↔
      verifier.Certified signed cert ∧ cert.version = version ∧ cert.issuerPub.length = 32 := by
  unfold parseIssuerCert Certified
  constructor
  · intro parsed
    split at parsed
    · cases parsed
    · next body opened =>
      split at parsed
      · cases parsed
      · next found decoded =>
        split_ifs at parsed with known key
        obtain ⟨rfl⟩ := parsed
        exact ⟨⟨body, openSigned_eq_ok_iff.mp opened, decoded⟩, not_not.mp known, not_not.mp key⟩
  · rintro ⟨⟨body, opened, decoded⟩, known, key⟩
    rw [openSigned_eq_ok_iff.mpr opened]
    dsimp only
    rw [decoded]
    dsimp only
    rw [if_neg (not_not_intro known), if_neg (not_not_intro key)]

/-- The first tier: the certificate is the root's, stands and is live. -/
theorem verifyIssuerCert_eq_ok_iff :
    verifier.verifyIssuerCert signed now = .ok cert ↔
      verifier.parseIssuerCert signed = .ok cert ∧ verifier.revoked cert.serial = false ∧
        cert.notBefore - clockSkew ≤ now ∧ now < cert.notAfter := by
  unfold verifyIssuerCert
  by_cases rooted : verifier.rootPub.length = 32
  · rw [if_neg (not_not_intro rooted)]
    cases parsed : verifier.parseIssuerCert signed with
    | error => simp
    | ok =>
      dsimp only
      rw [← checkWindow_eq_ok_iff]
      constructor
      · intro verified
        split_ifs at verified with killed
        split at verified
        · cases verified
        · next window =>
          obtain ⟨rfl⟩ := verified
          exact ⟨rfl, Bool.eq_false_iff.mpr killed, window⟩
      · rintro ⟨⟨rfl⟩, standing, window⟩
        rw [if_neg (by rw [standing]; decide), window]
  · rw [if_pos rooted]
    constructor
    · rintro ⟨⟩
    · rintro ⟨parsed, -⟩
      obtain ⟨⟨_, opened, -⟩, -⟩ := parseIssuerCert_eq_ok_iff.mp parsed
      exact absurd (Delegation.openSigned_eq_ok_iff.mp opened).1 rooted

/-- A credential that stands, is live and not too long for its certificate. -/
structure Holds (verifier : Verifier) (cert : IssuerCert) (cred : DeviceCredential)
    (now : Int) : Prop where
  known : cred.version = version
  key : cred.devicePub.length = 32
  standing : verifier.revoked cred.serial = false
  begun : cred.notBefore - clockSkew ≤ now
  unexpired : now < cred.notAfter
  capped : sub cred.notAfter cred.notBefore ≤ cert.maxCredTTL.toInt

/-- The second tier: the certified key signed the credential, and it holds. -/
theorem openCredential_eq_ok_iff :
    verifier.openCredential cert signed now = .ok cred ↔
      verifier.Issued cert.issuerPub signed cred ∧ verifier.Holds cert cred now := by
  unfold openCredential Issued
  constructor
  · intro verified
    split at verified
    · cases verified
    · next body opened =>
      split at verified
      · cases verified
      · next found decoded =>
        cases window : checkWindow found.notBefore found.notAfter now with
        | error =>
          rw [window] at verified
          split_ifs at verified
        | ok =>
          rw [window] at verified
          split_ifs at verified with known key killed long
          obtain ⟨rfl⟩ := verified
          obtain ⟨begun, unexpired⟩ := checkWindow_eq_ok_iff.mp window
          exact ⟨⟨body, openSigned_eq_ok_iff.mp opened, decoded⟩, not_not.mp known,
            not_not.mp key, Bool.eq_false_iff.mpr killed, begun, unexpired, Int.not_lt.mp long⟩
  · rintro ⟨⟨body, opened, decoded⟩, known, key, standing, begun, unexpired, capped⟩
    rw [openSigned_eq_ok_iff.mpr opened]
    dsimp only
    rw [decoded]
    dsimp only
    rw [if_neg (not_not_intro known), if_neg (not_not_intro key), if_neg (by rw [standing]; decide),
      checkWindow_eq_ok_iff.mpr ⟨begun, unexpired⟩]
    rw [if_neg (Int.not_lt.mpr capped)]

/-- A presentation is accepted exactly when every tier is. -/
theorem verify_eq_ok_iff :
    verifier.verify presentation now audience challenge = .ok cred ↔
      ∃ cert, verifier.verifyIssuerCert presentation.issuerCert now = .ok cert ∧
        verifier.openCredential cert presentation.credential now = .ok cred ∧
        verifyAssertion verifier.scheme cred.devicePub purposeConnect audience challenge
          presentation.assertion = .ok () := by
  unfold verify
  constructor
  · intro verified
    split at verified
    · cases verified
    · next cert certified =>
      split at verified
      · cases verified
      · next found opened =>
        split at verified
        · cases verified
        · next asserted =>
          obtain ⟨rfl⟩ := verified
          exact ⟨cert, certified, opened, asserted⟩
  · rintro ⟨cert, certified, opened, asserted⟩
    rw [certified]
    dsimp only
    rw [opened]
    dsimp only
    rw [asserted]

/-- The life left is within the cap, unless the cap is the longest duration, which no difference of
times exceeds. -/
theorem Holds.remaining_le_iff (holds : verifier.Holds cert cred now) :
    cred.notAfter - now ≤ cert.maxCredTTL.toInt + clockSkew ↔
      cert.maxCredTTL.toInt < maxDuration ∨
        cred.notAfter ≤ now + maxDuration + clockSkew := by
  have longest : cert.maxCredTTL.toInt ≤ maxDuration := Int64.toInt_le cert.maxCredTTL
  have begun := holds.begun
  have capped := holds.capped
  unfold sub at capped
  constructor
  · intro left
    omega
  · rintro (shorter | near)
    · have life : cred.notAfter - cred.notBefore ≤ cert.maxCredTTL.toInt := by
        omega
      omega
    · rcases Int.lt_or_eq_of_le longest with shorter | longest
      · have life : cred.notAfter - cred.notBefore ≤ cert.maxCredTTL.toInt := by
          omega
        omega
      · omega

end Verifier

/-- The root has signed this certificate, by the messages it has signed. -/
def Verifier.Delegated (verifier : Verifier) (rootSigned : Bytes → Prop) (cert : IssuerCert) :
    Prop :=
  ∃ body, rootSigned (Delegation.signingMessage Delegation.tagIssuerCert body) ∧
    verifier.unmarshalCert body = some cert

/-- What verifies under a key only its holder has is among what the holder signed. -/
def Unforgeable (scheme : Delegation.Scheme) (pub : Bytes) (signed : Bytes → Prop) : Prop :=
  ∀ msg sig, scheme.verify pub msg sig → signed msg

/-- The messages of the assertions a device has made. -/
def assertedIn (made : (purpose audience challenge : Bytes) → Prop) (msg : Bytes) : Prop :=
  ∃ purpose audience challenge, made purpose audience challenge ∧ 0 ∉ purpose ∧
    audience.length < 2 ^ 32 ∧ msg = assertionMessage purpose audience challenge

variable {verifier : Verifier} {rootSigned : Bytes → Prop}

theorem delegated_of_certified (root : Unforgeable verifier.scheme verifier.rootPub rootSigned)
    {signed : Bytes} {cert : IssuerCert} (certified : verifier.Certified signed cert) :
    verifier.Delegated rootSigned cert := by
  obtain ⟨body, opened, decoded⟩ := certified
  obtain ⟨-, -, _, -, -, covered⟩ := Delegation.openSigned_eq_ok_iff.mp opened
  exact ⟨body, root _ _ covered, decoded⟩

/-- An accepted presentation, and what it takes to get one: a certificate that the root signed and
that is live, a credential under its key that stands and is not too long for it, and the device's
signature over the connect purpose, this audience and this challenge. So a key stolen from an issuer
is worth nothing once its certificates have expired. -/
theorem accepted_presentation (root : Unforgeable verifier.scheme verifier.rootPub rootSigned) :
    (∀ presentation now audience challenge cred,
      verifier.verify presentation now audience challenge = .ok cred →
      ∃ cert, verifier.Delegated rootSigned cert ∧ verifier.Certified presentation.issuerCert cert ∧
        verifier.Issued cert.issuerPub presentation.credential cred ∧
        now < cert.notAfter ∧
        (cred.notAfter - now ≤ cert.maxCredTTL.toInt + clockSkew ↔
          cert.maxCredTTL.toInt < maxDuration ∨
            cred.notAfter ≤ now + maxDuration + clockSkew) ∧
        verifier.revoked cert.serial = false ∧ verifier.revoked cred.serial = false ∧
        verifier.scheme.verify cred.devicePub
          (assertionMessage purposeConnect audience challenge) presentation.assertion = true ∧
        ∀ made, Unforgeable verifier.scheme cred.devicePub (assertedIn made) →
          audience.length < 2 ^ 32 → made purposeConnect audience challenge) ∧
    ∀ key expiry, (∀ cert, verifier.Delegated rootSigned cert → cert.issuerPub = key →
        cert.notAfter ≤ expiry) →
      ∀ presentation now audience challenge cred cert,
        verifier.verify presentation now audience challenge = .ok cred →
        verifier.Certified presentation.issuerCert cert → cert.issuerPub = key → now < expiry := by
  have accepted : ∀ presentation now audience challenge cred,
      verifier.verify presentation now audience challenge = .ok cred →
      ∃ cert, verifier.Certified presentation.issuerCert cert ∧ now < cert.notAfter ∧
        verifier.revoked cert.serial = false ∧
        verifier.Issued cert.issuerPub presentation.credential cred ∧
        verifier.Holds cert cred now ∧
        verifier.scheme.verify cred.devicePub
          (assertionMessage purposeConnect audience challenge) presentation.assertion := by
    intro presentation now audience challenge cred verified
    obtain ⟨cert, certified, opened, asserted⟩ := Verifier.verify_eq_ok_iff.mp verified
    obtain ⟨parsed, standing, -, live⟩ := Verifier.verifyIssuerCert_eq_ok_iff.mp certified
    obtain ⟨rooted, -⟩ := Verifier.parseIssuerCert_eq_ok_iff.mp parsed
    obtain ⟨issued, holds⟩ := Verifier.openCredential_eq_ok_iff.mp opened
    obtain ⟨-, -, covered⟩ := verifyAssertion_eq_ok_iff.mp asserted
    exact ⟨cert, rooted, live, standing, issued, holds, covered⟩
  constructor
  · intro presentation now audience challenge cred verified
    obtain ⟨cert, certified, live, standing, issued, holds, covered⟩ :=
      accepted presentation now audience challenge cred verified
    refine ⟨cert, delegated_of_certified root certified, certified, issued, live,
      holds.remaining_le_iff, standing, holds.standing, covered, fun made device short => ?_⟩
    obtain ⟨_, asserted, _, signed, unmarked, short', same⟩ := device _ _ covered
    have connect : 0 ∉ purposeConnect := by decide +kernel
    obtain ⟨rfl, rfl, rfl⟩ := (assertionMessage_inj connect unmarked short short').mp same
    exact signed
  · intro key expiry expired presentation now audience challenge cred cert verified
      certified delegate
    obtain ⟨_, certified', live, -⟩ :=
      accepted presentation now audience challenge cred verified
    obtain ⟨body, opened, decoded⟩ := certified
    obtain ⟨_, opened', decoded'⟩ := certified'
    obtain ⟨rfl⟩ := opened.symm.trans opened'
    obtain ⟨rfl⟩ := decoded.symm.trans decoded'
    have last := expired cert (delegated_of_certified root ⟨body, opened, decoded⟩) delegate
    exact Int.lt_of_lt_of_le live last

/-- Keys of the right length. -/
def rootKey : Bytes := replicate 32 1
def issuerKey : Bytes := replicate 32 2
def deviceKey : Bytes := replicate 32 3

def oneChallenge : Bytes := replicate 16 7

/-- The year 2026, and a day in it. -/
def yearStart : Int := 1767225600 * 10 ^ 9
def yearEnd : Int := 1798761600 * 10 ^ 9
def oneDay : Int := 1780086400 * 10 ^ 9

/-- A certificate for a year, and a credential under it from the day on. -/
def oneCert (cap : Int64) : IssuerCert where
  version := 1
  serial := "c1"
  issuerPub := issuerKey
  notBefore := yearStart
  notAfter := yearEnd
  maxCredTTL := cap

def oneCredential (notAfter : Int) : DeviceCredential where
  version := 1
  serial := "d1"
  devicePub := deviceKey
  epoch := 1
  notBefore := oneDay
  notAfter := notAfter

/-- What each of the three keys has signed: one message, with a body of one byte. -/
def oneMessage (pub : Bytes) : Bytes :=
  if pub = rootKey then Delegation.signingMessage Delegation.tagIssuerCert [1]
  else if pub = issuerKey then Delegation.signingMessage Delegation.tagDeviceCred [2]
  else assertionMessage purposeConnect [] oneChallenge

/-- A scheme in which each key verifies its message only. -/
def oneScheme : Delegation.Scheme where
  verify pub msg _ := msg = oneMessage pub
  unmarshal _ := none

def oneVerifier (cap : Int64) (notAfter : Int) : Verifier where
  scheme := oneScheme
  unmarshalCert body := if body = [1] then some (oneCert cap) else none
  unmarshalCredential body := if body = [2] then some (oneCredential notAfter) else none
  rootPub := rootKey
  revoked _ := false

def onePresentation : Presentation where
  credential := [2] ++ replicate 64 0
  issuerCert := [1] ++ replicate 64 0
  assertion := replicate 64 0

theorem onePresentation_certified (cap : Int64) (notAfter : Int) :
    (oneVerifier cap notAfter).Certified onePresentation.issuerCert (oneCert cap) :=
  ⟨[1], Delegation.openSigned_eq_ok_iff.mpr
    ⟨rfl, cons_ne_nil _ _, replicate 64 0, rfl, rfl, decide_eq_true rfl⟩, rfl⟩

/-- The credential is accepted on its first day, if not too long for the certificate. -/
theorem onePresentation_verified {cap : Int64} {notAfter : Int} (live : oneDay < notAfter)
    (capped : sub notAfter oneDay ≤ cap.toInt) :
    (oneVerifier cap notAfter).verify onePresentation oneDay [] oneChallenge =
      .ok (oneCredential notAfter) := by
  have begun : oneDay - clockSkew ≤ oneDay := by decide
  have certified : yearStart - clockSkew ≤ oneDay ∧ oneDay < yearEnd := by decide
  refine Verifier.verify_eq_ok_iff.mpr ⟨oneCert cap, ?_, ?_, ?_⟩
  · refine Verifier.verifyIssuerCert_eq_ok_iff.mpr ⟨?_, rfl, certified⟩
    exact Verifier.parseIssuerCert_eq_ok_iff.mpr ⟨onePresentation_certified cap notAfter, rfl, rfl⟩
  · refine Verifier.openCredential_eq_ok_iff.mpr ⟨⟨[2], ?_, rfl⟩, rfl, rfl, rfl,
      begun, live, capped⟩
    exact Delegation.openSigned_eq_ok_iff.mpr
      ⟨rfl, cons_ne_nil _ _, replicate 64 0, rfl, rfl, decide_eq_true rfl⟩
  · exact verifyAssertion_eq_ok_iff.mpr ⟨rfl, Nat.le_refl _, decide_eq_true rfl⟩

/-- The end of the year 9999. -/
def endOfTime : Int := 253402300799 * 10 ^ 9

/-- Under a certificate that caps at the longest duration, one until the year 9999 is accepted. -/
theorem endless_credential :
    (oneVerifier Int64.maxValue endOfTime).verify onePresentation oneDay [] oneChallenge =
      .ok (oneCredential endOfTime) ∧
    (oneVerifier Int64.maxValue endOfTime).Certified onePresentation.issuerCert
      (oneCert Int64.maxValue) ∧
    (oneCert Int64.maxValue).maxCredTTL.toInt + clockSkew <
      (oneCredential endOfTime).notAfter - oneDay :=
  ⟨onePresentation_verified (by decide) (by decide +kernel), onePresentation_certified _ _,
    by decide +kernel⟩

/-- A week as a cap, and its end. -/
def oneWeek : Int64 := 604800000000000
def weekEnd : Int := 1780691200 * 10 ^ 9

/-- A credential that is accepted within its week. -/
theorem accepted_within_week :
    ∃ cred, (oneVerifier oneWeek weekEnd).verify onePresentation oneDay []
        oneChallenge = .ok cred ∧
      cred.notAfter - oneDay ≤ oneWeek.toInt + clockSkew ∧
      oneDay < yearEnd := by
  have root : Unforgeable (oneVerifier oneWeek weekEnd).scheme rootKey
      fun msg => msg = oneMessage rootKey :=
    fun _ _ verified => of_decide_eq_true verified
  obtain ⟨accepted, stolen⟩ := accepted_presentation root
  have verified : (oneVerifier oneWeek weekEnd).verify onePresentation oneDay []
      oneChallenge = .ok (oneCredential weekEnd) :=
    onePresentation_verified (by decide) (by decide +kernel)
  have certified := onePresentation_certified oneWeek weekEnd
  refine ⟨_, verified, ?_, ?_⟩
  · obtain ⟨cert, -, ⟨body, opened, decoded⟩, -, -, left, -⟩ := accepted _ _ _ _ _ verified
    obtain ⟨_, opened', decoded'⟩ := certified
    obtain ⟨rfl⟩ := opened.symm.trans opened'
    obtain ⟨rfl⟩ := decoded.symm.trans decoded'
    exact left.mpr (.inl (by decide +kernel))
  · refine stolen issuerKey _ ?_ _ _ _ _ _ _ verified certified rfl
    rintro cert ⟨body, -, decoded⟩ -
    obtain ⟨-, same⟩ := Option.ite_none_right_eq_some.mp decoded
    rw [← Option.some.inj same]
    decide

end Bacchus.DeviceCred
