import Bacchus.Update.Apply
import Bacchus.Version

/-!
# Release manifests

The signed description of a release, its structural checks, and the offline verification of a
fetched bundle. Signatures, decoders and the digest are the fields of `Trust`. Times are counted
from Go's zero time.
-/

namespace Bacchus.Update

abbrev Time := Int

def maxArtifactBytes : Int := 512 * 2 ^ 20

/-- `sha256.Size`. -/
def digestSize : Nat := 32

/-- The manifest format this build knows. -/
def manifestVersion : Int := 1

def roles : List String := ["node", "coordinator", "netd", "client"]

/-- A release and its artifacts. -/
structure Manifest where
  version : Int := 0
  seq : Nat := 0
  release : String := ""
  issued : Time := 0
  expires : Time := 0
  artifacts : List Artifact := []

/-- `Artifact.Matches`. -/
def Artifact.matchesBuild (artifact : Artifact) (os arch role : String) : Bool :=
  artifact.os = os ∧ artifact.arch = arch ∧ artifact.role = role

def Manifest.find (manifest : Manifest) (os arch role : String) : Option Artifact :=
  manifest.artifacts.find? fun artifact => artifact.matchesBuild os arch role

/-- Why a manifest is refused. -/
inductive ManifestError where
  | unsupportedVersion (version : Int)
  | seqZero
  | release (fault : Version.Fault)
  | windowRequired
  | emptyWindow (issued expires : Time)
  | noArtifacts
  | tokenEmpty (field : String)
  | tokenTooLong (field token : String)
  | tokenContains (field token : String) (byte : Nat)
  | unknownRole (role : String)
  | declaresSize (os arch role : String) (size : Int)
  | overCap (os arch role : String) (size : Int)
  | digestLength (os arch role : String) (length : Nat)
  | duplicateRow (os arch role : String)

def checkRelease (release : String) : Except ManifestError Unit := Version.check .release release

/-- Lowercase ASCII letters, digits and underscore. -/
def tokenChar (char : Char) : Bool :=
  'a' ≤ char && char ≤ 'z' || '0' ≤ char && char ≤ '9' || char = '_'

/-- The first byte of a character's UTF-8 encoding. -/
def leadByte (char : Char) : Nat :=
  let code := char.toNat
  if code < 0x80 then code
  else if code < 0x800 then 0xC0 + code / 0x40
  else if code < 0x10000 then 0xE0 + code / 0x1000
  else 0xF0 + code / 0x40000

def checkToken (field token : String) : Except ManifestError Unit :=
  if token = "" then .error (.tokenEmpty field)
  else if 32 < token.utf8ByteSize then .error (.tokenTooLong field token)
  else
    match token.toList.find? fun char => !tokenChar char with
    | some char => .error (.tokenContains field token (leadByte char))
    | none => .ok ()

/-- The checks on one row, given the builds of the rows before it. -/
def Artifact.validate (seen : List Artifact) (artifact : Artifact) : Except ManifestError Unit := do
  let ⟨os, arch, role, size, sha256⟩ := artifact
  checkToken "os" os
  checkToken "arch" arch
  if role ∉ roles then throw (.unknownRole role)
  if size ≤ 0 then throw (.declaresSize os arch role size)
  if maxArtifactBytes < size then throw (.overCap os arch role size)
  if sha256.length ≠ digestSize then throw (.digestLength os arch role sha256.length)
  if seen.any fun other => other.matchesBuild os arch role then throw (.duplicateRow os arch role)

/-- The loop over the rows. -/
def validateRows (seen : List Artifact) : List Artifact → Except ManifestError Unit
  | [] => .ok ()
  | artifact :: rest => do
      artifact.validate seen
      validateRows (artifact :: seen) rest

/-- The checks of a manifest. -/
def Manifest.validate (manifest : Manifest) : Except ManifestError Unit := do
  if manifest.version ≠ manifestVersion then throw (.unsupportedVersion manifest.version)
  if manifest.seq = 0 then throw .seqZero
  checkRelease manifest.release
  if manifest.issued = 0 ∨ manifest.expires = 0 then throw .windowRequired
  if manifest.expires ≤ manifest.issued then throw (.emptyWindow manifest.issued manifest.expires)
  if manifest.artifacts = [] then throw .noArtifacts
  validateRows [] manifest.artifacts

variable {manifest : Manifest}

/-- One row for a build. -/
theorem unambiguous_find (valid : manifest.validate = .ok ()) (os arch role : String) :
    Unambiguous manifest.artifacts (·.matchesBuild os arch role)
      fun artifacts => { manifest with artifacts }.find os arch role := by
  unfold Manifest.validate at valid
  simp only [refused_bind_eq_ok_iff, bind_eq_ok_iff] at valid
  obtain ⟨_, _, _, _, _, _, _, passed⟩ := valid
  have fresh : ∀ {seen artifact}, Artifact.validate seen artifact = .ok () → ∀ other ∈ seen,
      (other.os, other.arch, other.role) ≠ (artifact.os, artifact.arch, artifact.role) := by
    intro seen artifact checked other member same
    unfold Artifact.validate at checked
    simp only [refused_bind_eq_ok_iff, bind_eq_ok_iff] at checked
    obtain ⟨_, _, _, _, _, _, _, _, unseen⟩ := checked
    rw [if_pos (List.any_eq_true.mpr ⟨other, member, by simpa [Artifact.matchesBuild] using same⟩)]
      at unseen
    cases unseen
  have distinct := (nodup_of_loop (fun _ _ _ => rfl) fresh passed).1
  have keyed : (Artifact.matchesBuild · os arch role) =
      fun artifact => decide ((artifact.os, artifact.arch, artifact.role) = (os, arch, role)) := by
    funext artifact
    simp [Artifact.matchesBuild]
  unfold Manifest.find
  rw [keyed]
  exact unambiguous_of_nodup distinct (os, arch, role)

structure Bundle where
  manifest : Bytes
  cert : Bytes

inductive OpenError where
  | malformed
  | badSignature

/-- What the verification takes from the libraries. -/
structure Trust where
  decodeBundle : Bytes → Option Bundle
  /-- `VerifyDelegationCert` for the update role: the key the root delegates to at that time. -/
  delegate : Bytes → Time → Option Bytes
  /-- `OpenSigned` under the tag of update manifests. -/
  openSigned : (key signed : Bytes) → Except OpenError Bytes
  decodeManifest : Bytes → Option Manifest
  digest : Bytes → Bytes

/-- `delegation.ClockSkew`: two minutes, in nanoseconds. -/
def clockSkew : Time := 120000000000

inductive VerifyError where
  | malformedBundle
  | delegation
  | signature
  | malformed
  | invalid (error : ManifestError)
  | notYetIssued (issued now : Time)
  | expired (expires now : Time)
  | rollback (seq floor : Nat)

/-- A manifest that cannot be opened at all is malformed; otherwise its signature is bad. -/
def VerifyError.ofOpen : OpenError → VerifyError
  | .malformed => .malformed
  | .badSignature => .signature

def parseBundle (trust : Trust) (data : Bytes) : Except VerifyError Bundle :=
  match trust.decodeBundle data with
  | none => .error .malformedBundle
  | some bundle =>
    if bundle.manifest = [] ∨ bundle.cert = [] then .error .malformedBundle else .ok bundle

/-- The first tiers of `Verify`: the delegation, the signature, and only then the body. -/
def openManifest (trust : Trust) (bundle : Bundle) (now : Time) : Except VerifyError Manifest :=
  match trust.delegate bundle.cert now with
  | none => .error .delegation
  | some key =>
    match trust.openSigned key bundle.manifest with
    | .error error => .error (.ofOpen error)
    | .ok body =>
      match trust.decodeManifest body with
      | none => .error .malformed
      | some manifest => .ok manifest

/-- The last tier: structure, then freshness, then rollback. -/
def Manifest.acceptable (manifest : Manifest) (now : Time) (minSeq : Nat) :
    Except VerifyError Unit :=
  match manifest.validate with
  | .error error => .error (.invalid error)
  | .ok _ =>
    if now < manifest.issued - clockSkew then .error (.notYetIssued manifest.issued now)
    else if manifest.expires ≤ now then .error (.expired manifest.expires now)
    else if manifest.seq < minSeq then .error (.rollback manifest.seq minSeq)
    else .ok ()

def verify (trust : Trust) (bundle : Bundle) (now : Time) (minSeq : Nat) :
    Except VerifyError Manifest := do
  let manifest ← openManifest trust bundle now
  manifest.acceptable now minSeq
  return manifest

/-- A manifest that verifies is the one its bundle holds, and is acceptable. -/
theorem verify_ok {trust : Trust} {bundle : Bundle} {now : Time} {minSeq : Nat}
    (verified : verify trust bundle now minSeq = .ok manifest) :
    openManifest trust bundle now = .ok manifest ∧ manifest.acceptable now minSeq = .ok () := by
  obtain ⟨_, opened, accepted⟩ := bind_eq_ok_iff.mp verified
  obtain ⟨_, accepted, same⟩ := bind_eq_ok_iff.mp accepted
  cases same
  exact ⟨opened, accepted⟩

/-- An acceptable manifest is not below the floor. -/
theorem le_seq_of_acceptable {now : Time} {minSeq : Nat}
    (acceptable : manifest.acceptable now minSeq = .ok ()) : minSeq ≤ manifest.seq := by
  unfold Manifest.acceptable at acceptable
  split at acceptable
  · cases acceptable
  · split_ifs at acceptable with early expired below
    exact Nat.le_of_not_lt below

end Bacchus.Update
