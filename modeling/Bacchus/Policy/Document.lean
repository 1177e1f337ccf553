import Bacchus.Coordinator.Registry
import Bacchus.Delegation.Cert
import Bacchus.Text.Json
import Bacchus.Update.Manifest

/-!
# Signed policy documents

`core/policy`: a document of limits that the root's delegate signs, its structural checks, and
the offline verification of a bundle. Decoders and signatures are parameters.
-/

namespace Bacchus.SignedPolicy

open Delegation

open Admission (Time)
open Coordinator (ServeFloor)
open Delegation (Cert DelegationError)

/-- The policy format this build knows. -/
def policyVersion : Int := 1

structure Vouch where
  k : Int
  budget : Int
  period : Time
  tenure : Time
  admitCapPerPeriod : Int
deriving DecidableEq

structure TierLimit where
  trust : String
  plan : String
  speedCapBps : Nat
  priority : Int
  endpointQuality : Int
deriving DecidableEq

/-- `Policy`, without the note and the unchecked back-pressure limits. -/
structure Policy where
  version : Int
  seq : Nat
  issued : Time
  expires : Time
  grace : Time
  serveFloor : ServeFloor
  vouch : Vouch
  tiers : List TierLimit
deriving DecidableEq

/-- `Deadline`: how long the policy may be enforced. -/
def Policy.deadline (policy : Policy) : Time := policy.expires + policy.grace

def Policy.limits (policy : Policy) (trust plan : String) : Option TierLimit :=
  policy.tiers.find? fun tier => tier.trust = trust ∧ tier.plan = plan

/-- Why a policy is refused. -/
inductive PolicyError where
  | malformed
  | delegation (failure : DelegationError)
  | document (failure : DelegationError)
  | unsupportedVersion (version : Int)
  | seqZero
  | windowRequired
  | emptyWindow (issued expires : Time)
  | negativeGrace (grace : Time)
  | servingVersion (fault : Version.Fault)
  | vouchK (k : Int)
  | negativeBudget (budget : Int)
  | vouchPeriod (period : Time)
  | negativeTenure (tenure : Time)
  | negativeAdmitCap (cap : Int)
  | noTiers
  | unknownTrust (trust : String)
  | negativePriority (trust plan : String)
  | negativeQuality (trust plan : String)
  | duplicateTier (trust plan : String)
  | notYetIssued (issued now : Time)
  | stale (expires grace now : Time)
  | rollback (seq floor : Nat)

def checkServingVersion (text : String) : Except PolicyError Unit :=
  Version.check .servingVersion text

def trusts : List String := ["ephemeral", "stable"]

/-- The checks on one row, given the rows before it. -/
def TierLimit.validate (seen : List TierLimit) (tier : TierLimit) : Except PolicyError Unit :=
  if tier.trust ∉ trusts then .error (.unknownTrust tier.trust)
  else if tier.priority < 0 then .error (.negativePriority tier.trust tier.plan)
  else if tier.endpointQuality < 0 then .error (.negativeQuality tier.trust tier.plan)
  else if seen.any fun other => other.trust = tier.trust ∧ other.plan = tier.plan then
    .error (.duplicateTier tier.trust tier.plan)
  else .ok ()

/-- The loop over the rows. -/
def validateTiers (seen : List TierLimit) : List TierLimit → Except PolicyError Unit
  | [] => .ok ()
  | tier :: rest => do
      tier.validate seen
      validateTiers (tier :: seen) rest

/-- The checks of a document. -/
def Policy.validate (policy : Policy) : Except PolicyError Unit := do
  if policy.version ≠ policyVersion then throw (.unsupportedVersion policy.version)
  if policy.seq = 0 then throw .seqZero
  if policy.issued = Json.zeroTime ∨ policy.expires = Json.zeroTime then throw .windowRequired
  if policy.expires ≤ policy.issued then throw (.emptyWindow policy.issued policy.expires)
  if policy.grace < 0 then throw (.negativeGrace policy.grace)
  checkServingVersion policy.serveFloor.minServingVersion
  if policy.vouch.k < 1 then throw (.vouchK policy.vouch.k)
  if policy.vouch.budget < 0 then throw (.negativeBudget policy.vouch.budget)
  if policy.vouch.period ≤ 0 then throw (.vouchPeriod policy.vouch.period)
  if policy.vouch.tenure < 0 then throw (.negativeTenure policy.vouch.tenure)
  if policy.vouch.admitCapPerPeriod < 0 then
    throw (.negativeAdmitCap policy.vouch.admitCapPerPeriod)
  if policy.tiers = [] then throw .noTiers
  validateTiers [] policy.tiers

/-- The release check and the serving-version check pass the same texts, three numerals below 2³¹,
each read as the version it writes. -/
theorem release_checks_agree (text : String) :
    (Update.checkRelease text = .ok () ↔ Version.Canonical (2 ^ 31) text) ∧
      (checkServingVersion text = .ok () ↔ Version.Canonical (2 ^ 31) text) ∧
      (Version.Canonical (2 ^ 31) text →
        ∃ version, Version.parse text = .ok version ∧ version.string = text) := by
  refine ⟨Version.check_eq_ok_iff, Version.check_eq_ok_iff, fun canonical => ?_⟩
  obtain ⟨version, parsed⟩ := Version.exists_parse_iff.mpr canonical.readable
  exact ⟨version, parsed, Version.string_of_parse canonical parsed⟩

theorem unambiguous_limits {policy : Policy} (valid : policy.validate = .ok ())
    (trust plan : String) :
    Unambiguous policy.tiers (fun tier => tier.trust = trust ∧ tier.plan = plan)
      fun tiers => { policy with tiers }.limits trust plan := by
  unfold Policy.validate at valid
  simp only [refused_bind_eq_ok_iff, bind_eq_ok_iff] at valid
  obtain ⟨_, _, _, _, _, _, _, _, _, _, _, _, _, passed⟩ := valid
  have fresh : ∀ {seen tier}, TierLimit.validate seen tier = .ok () → ∀ other ∈ seen,
      (other.trust, other.plan) ≠ (tier.trust, tier.plan) := by
    intro seen tier checked other member same
    unfold TierLimit.validate at checked
    split_ifs at checked with _ _ _ unseen
    exact unseen (List.any_eq_true.mpr ⟨other, member, by simpa using same⟩)
  have distinct := (nodup_of_loop (fun _ _ _ => rfl) fresh passed).1
  simpa [Policy.limits] using unambiguous_of_nodup distinct (trust, plan)

/-- No lookup in a document that passes depends on the order of rows. -/
theorem lookups_unambiguous :
    (∀ manifest : Update.Manifest, manifest.validate = .ok () → ∀ os arch role : String,
      Unambiguous manifest.artifacts (·.matchesBuild os arch role)
        fun artifacts => { manifest with artifacts }.find os arch role) ∧
    ∀ policy : Policy, policy.validate = .ok () → ∀ trust plan : String,
      Unambiguous policy.tiers (fun tier => tier.trust = trust ∧ tier.plan = plan)
        fun tiers => { policy with tiers }.limits trust plan :=
  ⟨fun _ valid => Update.unambiguous_find valid, fun _ valid => unambiguous_limits valid⟩

/-- A manifest for two systems. -/
def twoSystems : Update.Manifest where
  version := Update.manifestVersion
  seq := 1
  release := "1.2.3"
  issued := 1
  expires := 2
  artifacts := [⟨"linux", "amd64", "node", 1, .replicate 32 0⟩,
    ⟨"windows", "amd64", "node", 1, .replicate 32 1⟩]

/-- A policy with a row for each trust. -/
def twoTrusts : Policy where
  version := policyVersion
  seq := 1
  issued := 0
  expires := 1
  grace := 0
  serveFloor := ⟨"0.0.0", 0, 0⟩
  vouch := ⟨1, 0, 1, 0, 0⟩
  tiers := [⟨"stable", "", 0, 0, 0⟩, ⟨"ephemeral", "", 0, 0, 0⟩]

/-- Two rows and two tiers. -/
theorem two_rows_unambiguous :
    Unambiguous twoSystems.artifacts (·.matchesBuild "linux" "amd64" "node")
        (fun artifacts => { twoSystems with artifacts }.find "linux" "amd64" "node") ∧
      Unambiguous twoTrusts.tiers (fun tier => tier.trust = "stable" ∧ tier.plan = "")
        fun tiers => { twoTrusts with tiers }.limits "stable" "" :=
  ⟨lookups_unambiguous.1 twoSystems rfl _ _ _, lookups_unambiguous.2 twoTrusts rfl _ _⟩

structure Bundle where
  doc : Bytes
  cert : Bytes

/-- What verification takes from the libraries, and its root. -/
structure Verifier where
  scheme : Delegation.Scheme
  decodeBundle : Bytes → Option Bundle
  unmarshal : Bytes → Option Policy
  rootPub : Bytes

def Verifier.parseBundle (verifier : Verifier) (data : Bytes) : Except PolicyError Bundle :=
  match verifier.decodeBundle data with
  | none => .error .malformed
  | some bundle => if bundle.doc = [] ∨ bundle.cert = [] then .error .malformed else .ok bundle

/-- The document a bundle holds, once its signature is good under the delegate's key. -/
def Verifier.open (verifier : Verifier) (cert : Cert) (doc : Bytes) : Except PolicyError Policy :=
  match openSigned verifier.scheme cert.pub tagPolicyDoc doc with
  | .error .malformed => .error .malformed
  | .error failure => .error (.document failure)
  | .ok body =>
    match verifier.unmarshal body with
    | none => .error .malformed
    | some policy => .ok policy

/-- Structure, then freshness, then rollback. -/
def Policy.acceptable (policy : Policy) (now : Time) (minSeq : Nat) : Except PolicyError Unit :=
  match policy.validate with
  | .error failure => .error failure
  | .ok _ =>
    if now < policy.issued - clockSkew then .error (.notYetIssued policy.issued now)
    else if policy.deadline ≤ now then .error (.stale policy.expires policy.grace now)
    else if policy.seq < minSeq then .error (.rollback policy.seq minSeq)
    else .ok ()

/-- A policy with the certificate of the key that signed it. -/
structure Authorised where
  policy : Policy
  cert : Cert
deriving DecidableEq

/-- `Verifier.Verify`, with the certificate for the statements. -/
def Verifier.verify (verifier : Verifier) (bundle : Bundle) (now : Time) (minSeq : Nat)
    (revoked : String → Bool) : Except PolicyError Authorised :=
  match verifyDelegationCert verifier.scheme verifier.rootPub bundle.cert
      rolePolicy now revoked with
  | .error failure => .error (.delegation failure)
  | .ok cert =>
    match verifier.open cert bundle.doc with
    | .error failure => .error failure
    | .ok policy =>
      match policy.acceptable now minSeq with
      | .error failure => .error failure
      | .ok _ => .ok ⟨policy, cert⟩

/-- A fetched bundle, read and verified. -/
def Verifier.accept (verifier : Verifier) (data : Bytes) (now : Time) (minSeq : Nat)
    (revoked : String → Bool) : Except PolicyError Authorised :=
  match verifier.parseBundle data with
  | .error failure => .error failure
  | .ok bundle => verifier.verify bundle now minSeq revoked

/-- What a bundle that was accepted at a time is. -/
structure Accepted (verifier : Verifier) (data : Bytes) (now : Time) (minSeq : Nat)
    (revoked : String → Bool) (authorised : Authorised) : Prop where
  /-- The bundle alone decides which policy it is. -/
  held : ∃ bundle, verifier.parseBundle data = .ok bundle ∧
    parseCert verifier.scheme verifier.rootPub bundle.cert = .ok authorised.cert ∧
    verifier.open authorised.cert bundle.doc = .ok authorised.policy
  live : authorised.cert.Live now revoked
  valid : authorised.policy.validate = .ok ()
  enforceable : now < authorised.policy.deadline
  floored : minSeq ≤ authorised.policy.seq

variable {verifier : Verifier} {data : Bytes} {now : Time} {minSeq : Nat} {revoked : String → Bool}
  {authorised : Authorised}

/-- What is accepted passed every check. -/
theorem accepted_of_accept (accepted : verifier.accept data now minSeq revoked = .ok authorised) :
    Accepted verifier data now minSeq revoked authorised := by
  unfold Verifier.accept at accepted
  split at accepted
  · cases accepted
  · next bundle parsed =>
    unfold Verifier.verify at accepted
    split at accepted
    · cases accepted
    · next cert verified =>
      obtain ⟨_, certified, _, live⟩ := verifyDelegationCert_eq_ok_iff.mp verified
      split at accepted
      · cases accepted
      · next policy opened =>
        unfold Policy.acceptable at accepted
        split at accepted
        · cases accepted
        · next passed =>
          cases accepted
          split at passed
          · cases passed
          · next valid =>
            split_ifs at passed with early late below
            exact ⟨⟨bundle, parsed, certified, opened⟩, live, valid, Int.not_le.mp late,
              Nat.not_lt.mp below⟩

/-- One bundle is accepted as one policy, whenever it is. -/
theorem Accepted.unique {earlier : Time} {floor : Nat} {others : String → Bool} {other : Authorised}
    (first : Accepted verifier data now minSeq revoked authorised)
    (second : Accepted verifier data earlier floor others other) : authorised = other := by
  obtain ⟨_, parsed, certified, opened⟩ := first.held
  obtain ⟨_, parsedAgain, certifiedAgain, openedAgain⟩ := second.held
  cases parsed.symm.trans parsedAgain
  have cert : authorised.cert = other.cert := Except.ok.inj (certified.symm.trans certifiedAgain)
  rw [cert] at opened
  have policy : authorised.policy = other.policy := Except.ok.inj (opened.symm.trans openedAgain)
  cases authorised
  congr

end Bacchus.SignedPolicy
