import Bacchus.Admission.Verify

/-!
# Delegation certificates

`core/delegation`: the offline root signs that a key may act in one role for a while. Every
signature covers the tag of its kind of object. Signatures and the decoder are parameters.
-/

namespace Bacchus.Delegation

open List

open Admission (Time)

/-- `Cert`, without the operator's note. The role is text a peer chose. -/
structure Cert where
  version : Int
  serial : String
  role : String
  pub : Bytes
  notBefore : Time
  notAfter : Time
deriving DecidableEq

def version : Int := 1

def clockSkew : Time := 2 * 60 * 10 ^ 9

def rolePolicy : String := "policy"

def roleRevocations : String := "revocations"

def tagDelegationCert : String := "bacchus/delegation/v1"

def tagPolicyDoc : String := "bacchus/policy/v1"

def tagIssuerCert : String := "bacchus/issuer-cert/v1"

def tagDeviceCred : String := "bacchus/device-cred/v1"

def tagRevocationsDoc : String := "bacchus/revocations/v1"

def tagUpdateManifest : String := "bacchus/update-manifest/v1"

/-- Why a certificate is refused. -/
inductive DelegationError where
  | malformed
  | unsupportedVersion (version : Int)
  | badSignature
  | notYetValid
  | expired
  | revoked
  | wrongRole (found expected : String)
  | noRoot

/-- The signature scheme, and the decoder of a signed certificate. -/
structure Scheme where
  verify : (pub msg sig : Bytes) → Bool
  unmarshal : Bytes → Option Cert

/-- What is signed: the tag, a zero byte, the body. -/
def signingMessage (tag : String) (body : Bytes) : Bytes := tag.toUTF8.toList ++ 0 :: body

variable (scheme : Scheme)

/-- The body of a message signed under a tag. -/
def openSigned (pub : Bytes) (tag : String) (signed : Bytes) : Except DelegationError Bytes :=
  let body := signed.take (signed.length - 64)
  let sig := signed.drop (signed.length - 64)
  if pub.length ≠ 32 ∨ signed.length ≤ 64 then .error .malformed
  else if scheme.verify pub (signingMessage tag body) sig = false then .error .badSignature
  else .ok body

/-- What opens is a body and a signature of 64 bytes that covers it under the tag. -/
theorem openSigned_eq_ok_iff {scheme : Scheme} {pub signed body : Bytes} {tag : String} :
    openSigned scheme pub tag signed = .ok body ↔
      pub.length = 32 ∧ body ≠ [] ∧ ∃ sig : Bytes, sig.length = 64 ∧
        signed = body ++ sig ∧ scheme.verify pub (signingMessage tag body) sig := by
  unfold openSigned
  dsimp only
  constructor
  · intro opened
    split_ifs at opened with short bad
    obtain ⟨rfl⟩ := opened
    obtain ⟨key, _⟩ := not_or.mp short
    refine ⟨not_not.mp key, ?_, signed.drop (signed.length - 64), ?_, ?_, ?_⟩
    · rw [Ne, take_eq_nil_iff, not_or, ← length_eq_zero_iff]
      omega
    · rw [length_drop]
      omega
    · rw [take_append_drop]
    · simpa using bad
  · rintro ⟨key, filled, sig, size, rfl, covered⟩
    have positive := length_pos_iff.mpr filled
    have split : (body ++ sig).length - 64 = body.length := by
      rw [length_append, size]
      omega
    rw [split, take_left, drop_left, if_neg, if_neg (by rw [covered]; decide)]
    rw [length_append, size]
    omega

def parseCert (rootPub signed : Bytes) : Except DelegationError Cert :=
  match openSigned scheme rootPub tagDelegationCert signed with
  | .error failure => .error failure
  | .ok body =>
    match scheme.unmarshal body with
    | none => .error .malformed
    | some cert =>
      if cert.version ≠ version then .error (.unsupportedVersion cert.version)
      else if cert.pub.length ≠ 32 then .error .malformed
      else .ok cert

/-- The root's certificate for a role's key. -/
def verifyDelegationCert (rootPub signed : Bytes) (expect : String) (now : Time)
    (revoked : String → Bool) : Except DelegationError Cert :=
  if rootPub.length ≠ 32 then .error .noRoot
  else
    match parseCert scheme rootPub signed with
    | .error failure => .error failure
    | .ok cert =>
      if cert.role ≠ expect then .error (.wrongRole cert.role expect)
      else if revoked cert.serial then .error .revoked
      else if now < cert.notBefore - clockSkew then .error .notYetValid
      else if cert.notAfter ≤ now then .error .expired
      else .ok cert

/-- A certificate that authorises its key at a time. -/
structure Cert.Live (cert : Cert) (now : Time) (revoked : String → Bool) : Prop where
  standing : revoked cert.serial = false
  begun : cert.notBefore - clockSkew ≤ now
  unexpired : now < cert.notAfter

instance (cert : Cert) (now : Time) (revoked : String → Bool) : Decidable (cert.Live now revoked) :=
  decidable_of_iff
    (revoked cert.serial = false ∧ cert.notBefore - clockSkew ≤ now ∧ now < cert.notAfter)
    ⟨fun ⟨standing, begun, unexpired⟩ => ⟨standing, begun, unexpired⟩,
      fun live => ⟨live.standing, live.begun, live.unexpired⟩⟩

variable {scheme} {rootPub signed : Bytes} {expect : String} {now : Time} {revoked : String → Bool}
  {cert : Cert}

/-- A certificate verifies at a time exactly when the root signed it for the role and it is live. -/
theorem verifyDelegationCert_eq_ok_iff :
    verifyDelegationCert scheme rootPub signed expect now revoked = .ok cert ↔
      rootPub.length = 32 ∧ parseCert scheme rootPub signed = .ok cert ∧ cert.role = expect ∧
        cert.Live now revoked := by
  unfold verifyDelegationCert
  by_cases rooted : rootPub.length = 32
  · rw [if_neg (not_not_intro rooted)]
    cases parsed : parseCert scheme rootPub signed with
    | error => simp
    | ok =>
      simp only [Except.ok.injEq]
      constructor
      · intro verified
        split_ifs at verified with foreign killed early late
        cases verified
        refine ⟨rooted, rfl, not_not.mp foreign, ?_, Int.not_lt.mp early, Int.not_le.mp late⟩
        simpa using killed
      · rintro ⟨_, rfl, role, standing, begun, unexpired⟩
        rw [if_neg (not_not_intro role), if_neg (by simp [standing]), if_neg (Int.not_lt.mpr begun),
          if_neg (Int.not_le.mpr unexpired)]
  · simp [rooted]

end Bacchus.Delegation
