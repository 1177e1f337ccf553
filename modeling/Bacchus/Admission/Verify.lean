import Bacchus.Net.Netip
import Bacchus.Semantics.Checks
import Bacchus.Text.Hex

/-!
# Admission credentials

`core/admission`: an authority signs that a subject may act in some roles for a while, and a
verifier anchors authorities for roles. The signature scheme and the decoder are parameters.
-/

namespace Bacchus.Admission

open List

/-- Nanoseconds. -/
abbrev Time := Int

/-- A role as the wire names it; a peer may send any text. -/
abbrev Role := String

def roleRelay : Role := "relay"

def roleExit : Role := "exit"

def roleClient : Role := "client"

/-- `Credential`, with the operator's note and the standing of an account. -/
structure Credential where
  version : Int
  serial : String
  subject : String
  roles : List Role
  notBefore : Time
  notAfter : Time
  note : String := ""
  vouched : Bool := false
  trust : String := ""
  plan : String := ""
deriving DecidableEq

def Credential.hasRole (cred : Credential) (want : Role) : Bool := want ∈ cred.roles

def credentialVersion : Int := 1

def clockSkew : Time := 2 * 60 * 10 ^ 9

/-- Why a credential is refused. -/
inductive AdmissionError where
  | malformed
  | badSignature
  | unsupportedVersion (version : Int)
  | notYetValid
  | expired
  | roleNotAuthorized
  | subjectMismatch
  | revoked
  | noAuthorityForRole (role : Role)
deriving DecidableEq

/-- The signature scheme, and the decoder of a signed body. -/
structure Scheme where
  verify : (pub body sig : Bytes) → Bool
  unmarshal : Bytes → Option Credential

def credPrefix : String := "bacchusc1:"

/-- `Decode`: the envelope of a credential. -/
def decode (encoded : String) : Except AdmissionError Bytes :=
  let text := (Netip.trimSpace encoded).toList
  if credPrefix.toList.isPrefixOf text then
    match Text.base64Decode (.ofList (text.drop credPrefix.length)) with
    | some signed => .ok signed
    | none => .error .malformed
  else .error .malformed

/-- `parse`: the signature and the version, under one key. -/
def parse (scheme : Scheme) (pub signed : Bytes) : Except AdmissionError Credential :=
  let body := signed.take (signed.length - 64)
  let sig := signed.drop (signed.length - 64)
  if pub.length ≠ 32 ∨ signed.length ≤ 64 then .error .malformed
  else if scheme.verify pub body sig = false then .error .badSignature
  else
    match scheme.unmarshal body with
    | none => .error .malformed
    | some cred =>
      if cred.version ≠ credentialVersion then .error (.unsupportedVersion cred.version)
      else .ok cred

/-- `accept`: the policy over a signed credential. No subject expected means a bearer check. -/
def accept (cred : Credential) (now : Time) (want : Role) (subject : String)
    (revoked : String → Bool) : Except AdmissionError Unit :=
  if revoked cred.serial then .error .revoked
  else if now < cred.notBefore - clockSkew then .error .notYetValid
  else if cred.notAfter ≤ now then .error .expired
  else if cred.hasRole want = false then .error .roleNotAuthorized
  else if subject ≠ "" ∧ subject ≠ cred.subject then .error .subjectMismatch
  else .ok ()

/-- `Authority`: a key, and the roles it is anchored for. -/
structure Authority where
  pub : Bytes
  roles : List Role

def Authority.admits (authority : Authority) (want : Role) : Bool := want ∈ authority.roles

/-- `Verifier`. What is revoked changes while it is in use. -/
structure Verifier where
  scheme : Scheme
  authorities : List Authority

variable (verifier : Verifier) (revoked : String → Bool)

/-- The loop of `Verify`. A signature that does not match only means another authority. -/
def Verifier.search (signed : Bytes) (now : Time) (want : Role) (subject : String) :
    (candidates : Nat) → List Authority → Except AdmissionError Credential
  | candidates, [] => .error (if candidates = 0 then .noAuthorityForRole want else .badSignature)
  | candidates, authority :: rest =>
    if authority.admits want = false then
      Verifier.search signed now want subject candidates rest
    else
      match parse verifier.scheme authority.pub signed with
      | .error .badSignature => Verifier.search signed now want subject (candidates + 1) rest
      | .error failure => .error failure
      | .ok cred =>
        match accept cred now want subject revoked with
        | .error failure => .error failure
        | .ok _ => .ok cred

/-- Decode, find the authority, and check the claims. -/
def Verifier.verify (encoded : String) (now : Time) (want : Role) (subject : String) :
    Except AdmissionError Credential :=
  match decode encoded with
  | .error failure => .error failure
  | .ok signed => verifier.search revoked signed now want subject 0 verifier.authorities

/-- A credential that passes the policy. -/
structure Accepted (cred : Credential) (now : Time) (want : Role) (subject : String) :
    Prop where
  standing : revoked cred.serial = false
  begun : cred.notBefore - clockSkew ≤ now
  unexpired : now < cred.notAfter
  authorised : cred.hasRole want
  bound : subject = "" ∨ cred.subject = subject

variable {revoked} {cred : Credential} {now : Time} {want : Role} {subject : String}

/-- The checks pass exactly on what they are meant to accept. -/
theorem accept_eq_ok_iff :
    accept cred now want subject revoked = .ok () ↔
      Accepted revoked cred now want subject := by
  unfold accept
  constructor
  · intro accepted
    split_ifs at accepted with killed early late unauthorised unbound
    constructor
    · simpa using killed
    · exact Int.not_lt.mp early
    · exact Int.not_le.mp late
    · simpa using unauthorised
    · by_cases bearer : subject = ""
      · exact .inl bearer
      · by_contra mismatch
        exact unbound ⟨bearer, fun same => mismatch (.inr same.symm)⟩
  · rintro ⟨standing, begun, unexpired, authorised, bound⟩
    have matching : ¬ (subject ≠ "" ∧ subject ≠ cred.subject) := by
      rintro ⟨named, different⟩
      rcases bound with bearer | same
      · exact named bearer
      · exact different same.symm
    rw [if_neg (by simp [standing]), if_neg (Int.not_lt.mpr begun),
      if_neg (Int.not_le.mpr unexpired),
      if_neg (by simp [authorised]), if_neg matching]

variable {verifier} {authorities : List Authority}

theorem Verifier.accepted_of_search {signed : Bytes} {candidates : Nat}
    (found : verifier.search revoked signed now want subject candidates authorities =
      .ok cred) :
    (∃ authority ∈ authorities, authority.admits want ∧
      parse verifier.scheme authority.pub signed = .ok cred) ∧
      Accepted revoked cred now want subject := by
  induction authorities generalizing candidates with
  | nil => cases found
  | cons authority rest ih =>
    have later : ∀ {candidates : Nat},
        verifier.search revoked signed now want subject candidates rest = .ok cred →
        (∃ signer ∈ authority :: rest, signer.admits want ∧
          parse verifier.scheme signer.pub signed = .ok cred) ∧
          Accepted revoked cred now want subject := by
      intro candidates found
      obtain ⟨⟨other, member, signs⟩, accepted⟩ := ih found
      exact ⟨⟨other, mem_cons_of_mem _ member, signs⟩, accepted⟩
    unfold Verifier.search at found
    split at found
    · exact later found
    · next admitted =>
      split at found
      · exact later found
      · cases found
      · next signer parsed =>
        split at found
        · cases found
        · next passed =>
          cases found
          refine ⟨⟨authority, mem_cons_self, by simpa using admitted, parsed⟩, ?_⟩
          exact accept_eq_ok_iff.mp passed

/-- What `Verify` accepts was signed by an authority anchored for the role, and passes the
policy. -/
theorem Verifier.accepted_of_verify {encoded : String}
    (verified : verifier.verify revoked encoded now want subject = .ok cred) :
    (∃ signed, decode encoded = .ok signed ∧ ∃ authority ∈ verifier.authorities,
      authority.admits want ∧ parse verifier.scheme authority.pub signed = .ok cred) ∧
      Accepted revoked cred now want subject := by
  unfold Verifier.verify at verified
  split at verified
  · cases verified
  · next signed decoded =>
    obtain ⟨signs, accepted⟩ := Verifier.accepted_of_search verified
    exact ⟨⟨signed, decoded, signs⟩, accepted⟩

def allRoles : List Role := [roleClient, roleRelay, roleExit]

/-- Why a set of authorities is refused; each is named by its place, from one. -/
inductive AnchorError where
  | nobody
  | keyLength (place length : Nat)
  | noRoles (place : Nat)
  | unknownRole (place : Nat) (role : Role)
  | sameKey (place first : Nat)

/-- The checks on one authority, given those before it. -/
def Authority.check (earlier : List Authority) (authority : Authority) : Except AnchorError Unit :=
  let place := earlier.length + 1
  if authority.pub.length ≠ 32 then .error (.keyLength place authority.pub.length)
  else if authority.roles = [] then .error (.noRoles place)
  else
    match authority.roles.find? fun role => role ∉ allRoles with
    | some role => .error (.unknownRole place role)
    | none =>
      match earlier.findIdx? fun other => other.pub = authority.pub with
      | some first => .error (.sameKey place (first + 1))
      | none => .ok ()

def checkAuthorities (earlier : List Authority) : List Authority → Except AnchorError Unit
  | [] => .ok ()
  | authority :: rest => do
    authority.check earlier
    checkAuthorities (earlier ++ [authority]) rest

def newAuthoritySetVerifier (scheme : Scheme) (authorities : List Authority) :
    Except AnchorError Verifier := do
  if authorities = [] then throw .nobody
  checkAuthorities [] authorities
  return ⟨scheme, authorities⟩

/-- One key for every role, taken as it is. -/
def newVerifier (scheme : Scheme) (pub : Bytes) : Verifier := ⟨scheme, [⟨pub, allRoles⟩]⟩

/-- A verifier that one of the two constructors returned. -/
inductive Verifier.Made : Verifier → Prop
  | set {scheme : Scheme} {authorities : List Authority} {verifier : Verifier}
      (built : newAuthoritySetVerifier scheme authorities = .ok verifier) : Made verifier
  | single (scheme : Scheme) (pub : Bytes) : Made (newVerifier scheme pub)

theorem sized_of_check {earlier : List Authority}
    (passed : checkAuthorities earlier authorities = .ok ()) :
    ∀ authority ∈ authorities, authority.pub.length = 32 := by
  induction authorities generalizing earlier with
  | nil => exact nofun
  | cons authority rest ih =>
    obtain ⟨_, checked, passed⟩ := bind_eq_ok_iff.mp passed
    refine forall_mem_cons.mpr ⟨?_, ih passed⟩
    unfold Authority.check at checked
    by_contra other
    rw [if_pos other] at checked
    cases checked

variable {signed : Bytes} {authority : Authority}

/-- Under another key a good credential has a bad signature, or is the same. -/
theorem parse_agrees {scheme : Scheme} {pub other : Bytes} (sized : pub.length = 32)
    (parsed : parse scheme other signed = .ok cred) :
    parse scheme pub signed = .error .badSignature ∨ parse scheme pub signed = .ok cred := by
  grind [parse]

/-- A key of the wrong length is anchored alone or not at all. -/
theorem Verifier.Made.sized (made : verifier.Made) (member : authority ∈ verifier.authorities)
    (parsed : parse verifier.scheme authority.pub signed = .ok cred) :
    ∀ other ∈ verifier.authorities, other.pub.length = 32 := by
  cases made with
  | set built =>
    simp only [newAuthoritySetVerifier, refused_bind_eq_ok_iff, bind_eq_ok_iff] at built
    obtain ⟨_, _, passed, same⟩ := built
    cases same
    exact sized_of_check passed
  | single =>
    intro other known
    obtain rfl := mem_singleton.mp member
    obtain rfl := mem_singleton.mp known
    grind [parse]

theorem Verifier.search_of_accepted (verifier : Verifier)
    (sized : ∀ authority ∈ authorities, authority.pub.length = 32)
    (member : authority ∈ authorities) (admitted : authority.admits want)
    (parsed : parse verifier.scheme authority.pub signed = .ok cred)
    (accepted : Accepted revoked cred now want subject) (candidates : Nat) :
    verifier.search revoked signed now want subject candidates authorities = .ok cred := by
  induction authorities generalizing candidates with
  | nil => cases member
  | cons first rest ih =>
    obtain ⟨sizedFirst, sizedRest⟩ := forall_mem_cons.mp sized
    unfold Verifier.search
    by_cases skipped : first.admits want = false
    · rw [if_pos skipped]
      refine ih sizedRest ((mem_cons.mp member).resolve_left ?_) candidates
      rintro rfl
      cases skipped.symm.trans admitted
    · rw [if_neg skipped]
      rcases parse_agrees sizedFirst parsed with bad | same
      · rw [bad]
        refine ih sizedRest ((mem_cons.mp member).resolve_left ?_) (candidates + 1)
        rintro rfl
        cases bad.symm.trans parsed
      · simp only [same, accept_eq_ok_iff.mpr accepted]

/-- An authority anchored for the role signed the credential. -/
def Verifier.Signed (verifier : Verifier) (encoded : String) (want : Role)
    (cred : Credential) : Prop :=
  ∃ signed, decode encoded = .ok signed ∧ ∃ authority ∈ verifier.authorities,
    authority.admits want ∧ parse verifier.scheme authority.pub signed = .ok cred

/-- The verifier accepts what an authority anchored for the role signed and the policy passes, in
whatever order the authorities stand; an authority for clients makes nobody a relay or an exit. -/
theorem verify_exact (made : verifier.Made) (revoked : String → Bool) (encoded : String)
    (now : Time) (want : Role) (subject : String) :
    (∀ cred, verifier.verify revoked encoded now want subject = .ok cred ↔
      verifier.Signed encoded want cred ∧ Accepted revoked cred now want subject) ∧
    (∀ others, others.Perm verifier.authorities → ∀ cred,
      { verifier with authorities := others }.verify revoked encoded now want subject =
        .ok cred ↔ verifier.verify revoked encoded now want subject = .ok cred) ∧
    ((∀ authority ∈ verifier.authorities, ∀ signed cred, decode encoded = .ok signed →
        parse verifier.scheme authority.pub signed = .ok cred →
          ∀ role ∈ authority.roles, role = roleClient) →
      want = roleRelay ∨ want = roleExit → ∀ cred,
        verifier.verify revoked encoded now want subject ≠ .ok cred) := by
  have exactly : ∀ others, others.Perm verifier.authorities → ∀ cred,
      { verifier with authorities := others }.verify revoked encoded now want subject =
        .ok cred ↔
      verifier.Signed encoded want cred ∧ Accepted revoked cred now want subject := by
    intro others permuted cred
    simp only [Verifier.Signed, ← permuted.mem_iff]
    refine ⟨Verifier.accepted_of_verify, ?_⟩
    rintro ⟨⟨signed, decoded, authority, member, admitted, parsed⟩, accepted⟩
    have sized := made.sized (permuted.mem_iff.mp member) parsed
    simp only [← permuted.mem_iff] at sized
    rw [Verifier.verify, decoded]
    exact Verifier.search_of_accepted ⟨_, others⟩ sized member admitted parsed accepted 0
  refine ⟨exactly _ (.refl _), fun others permuted cred => ?_, ?_⟩
  · exact (exactly others permuted cred).trans (exactly _ (.refl _) cred).symm
  · rintro clients serving cred verified
    obtain ⟨⟨signed, decoded, authority, member, admitted, parsed⟩, _⟩ :=
      (exactly _ (.refl _) cred).mp verified
    obtain rfl := clients authority member signed cred decoded parsed want
      (of_decide_eq_true admitted)
    revert serving
    decide

def anyCredential : Credential := ⟨1, "01", "", [roleExit], 0, 1, "", false, "", ""⟩

/-- The operator's key signs, behind the account service's in the set. -/
def operatorScheme : Scheme := ⟨fun pub _ _ => pub == replicate 32 1, fun _ => anyCredential⟩

/-- An exit credential under the operator's key of that role. -/
theorem verify_exact_of_operator :
    ∃ verifier, newAuthoritySetVerifier operatorScheme
        [⟨List.replicate 32 0, [roleClient]⟩, ⟨List.replicate 32 1, [roleExit]⟩] = .ok verifier ∧
      verifier.verify (fun _ => false) (.ofList (credPrefix.toList ++ List.replicate 87 'A'))
        0 roleExit "" = .ok anyCredential := by
  have built : newAuthoritySetVerifier operatorScheme
      [⟨replicate 32 0, [roleClient]⟩, ⟨replicate 32 1, [roleExit]⟩] = .ok _ := rfl
  refine ⟨_, built, ((verify_exact (.set built) _ _ _ _ _).1 anyCredential).mpr ⟨?_, ?_⟩⟩
  · exact ⟨replicate 65 0, by decide, _, .tail _ (.head _), by decide, by decide⟩
  · constructor <;> decide

end Bacchus.Admission
