import Bacchus.Accounting.Receipt
import Bacchus.Device.Credential
import Bacchus.Update.Sign

/-!
# What one signature cannot be taken for

The bytes signed tell objects under a tag, assertions of a device, receipts and reports apart: two
equal messages are of one kind and have the same fields.
-/

namespace Bacchus.Delegation

open List Option Framing

/-- `signingMessage` of a tag of any bytes, as a Go string may be. -/
def frame (tag body : Bytes) : Bytes := tag ++ 0 :: body

theorem signingMessage_eq_frame (tag : String) (body : Bytes) :
    signingMessage tag body = frame tag.toUTF8.toList body := rfl

theorem frame_inj {tag tag' body body' : Bytes} (unmarked : 0 ∉ tag) (unmarked' : 0 ∉ tag') :
    frame tag body = frame tag' body' ↔ tag = tag' ∧ body = body' :=
  terminated_append_inj unmarked unmarked'

theorem signingMessage_inj {tag tag' : String} {body body' : Bytes}
    (unmarked : 0 ∉ tag.toUTF8.toList) (unmarked' : 0 ∉ tag'.toUTF8.toList) :
    signingMessage tag body = signingMessage tag' body' ↔ tag = tag' ∧ body = body' := by
  rw [signingMessage_eq_frame, signingMessage_eq_frame, frame_inj unmarked unmarked', Text.utf8_inj]

/-- The tags of this repository, read together. -/
def registeredTags : List String :=
  [tagDelegationCert, tagPolicyDoc, tagIssuerCert, tagDeviceCred, tagRevocationsDoc,
    tagUpdateManifest]

open Accounting (Claim Receipt)

inductive SignedMessage where
  /-- An object under a tag. -/
  | object (tag : String) (body : Bytes)
  /-- A device's assertion on connect. -/
  | assertion (audience challenge : Bytes)
  | receipt (claim : Claim)
  | report (attested : Receipt)

namespace SignedMessage

def bytes : SignedMessage → Bytes
  | .object tag body => signingMessage tag body
  | .assertion audience challenge =>
    DeviceCred.assertionMessage DeviceCred.purposeConnect audience challenge
  | .receipt claim => claim.canonical
  | .report attested => attested.reportCanonical

/-- The messages that are signed: registered tags, and fields of known lengths. -/
def Registered : SignedMessage → Prop
  | .object tag _ => tag ∈ registeredTags
  | .assertion audience _ => audience.length < 2 ^ 32
  | .receipt claim => claim.Short
  | .report attested => attested.Short

/-- The tag of a report, without the byte that ends it. -/
def reportTag : Bytes := "bacchus-capacity-report".toUTF8.toList

/-- What stands before the first zero byte of a message, if framed so. -/
def tag : SignedMessage → Option Bytes
  | .object tag _ => some tag.toUTF8.toList
  | .assertion _ _ => some DeviceCred.purposeConnect
  | .receipt _ => none
  | .report _ => some reportTag

/-- What stands behind it. -/
def payload : SignedMessage → Bytes
  | .object _ body => body
  | .assertion audience challenge =>
    fixed 4 audience.length ++
      (audience ++ (fixed 4 challenge.length ++ challenge))
  | .receipt _ => []
  | .report attested => attested.canonical ++ [if attested.saturated then 1 else 0]

variable {msg other : SignedMessage} {front : Bytes}

theorem bytes_of_tag (tagged : msg.tag = some front) : msg.bytes = frame front msg.payload := by
  cases msg with
  | object | assertion =>
    obtain ⟨rfl⟩ := tagged
    rfl
  | receipt => cases tagged
  | report =>
    obtain ⟨rfl⟩ := tagged
    have domain : Accounting.capacityReportDomain = reportTag ++ [0] := by decide +kernel
    rw [bytes, Accounting.Receipt.reportCanonical, domain, append_assoc]
    rfl

/-- The tags in use hold no zero byte, and all start alike. -/
theorem spec_of_tag (registered : msg.Registered) (tagged : msg.tag = some front) :
    0 ∉ front ∧ front.take 4 = [0x62, 0x61, 0x63, 0x63] ∧ 4 ≤ front.length := by
  have objects : ∀ tag ∈ registeredTags, 0 ∉ tag.toUTF8.toList ∧
      tag.toUTF8.toList.take 4 = [0x62, 0x61, 0x63, 0x63] ∧ 4 ≤ tag.toUTF8.toList.length := by
    decide +kernel
  cases msg with
  | object tag =>
    obtain ⟨rfl⟩ := tagged
    exact objects tag registered
  | assertion | report =>
    obtain ⟨rfl⟩ := tagged
    decide +kernel
  | receipt => cases tagged

/-- Messages of different kinds have different tags. -/
theorem tags_differ :
    (∀ tag ∈ registeredTags, tag.toUTF8.toList ≠ DeviceCred.purposeConnect ∧
      tag.toUTF8.toList ≠ reportTag) ∧ DeviceCred.purposeConnect ≠ reportTag := by
  decide +kernel

/-- A message without a tag is a receipt. -/
theorem receipt_of_tag (untagged : msg.tag = none) : ∃ claim, msg = .receipt claim := by
  cases msg with
  | object | assertion | report => cases untagged
  | receipt claim => exact ⟨claim, rfl⟩

/-- A receipt of a short session is no message with a tag. -/
theorem canonical_ne_bytes {claim : Claim} (short : claim.Short) (registered : msg.Registered)
    (tagged : msg.tag = some front) : claim.canonical ≠ msg.bytes := by
  obtain ⟨-, starts, long⟩ := spec_of_tag registered tagged
  rw [bytes_of_tag tagged]
  apply Accounting.canonical_ne_of_bacc short
  rw [frame, take_append_of_le_length long, starts]

/-- Messages with one tag are of one kind; the other bytes tell their fields. -/
theorem eq_of_payload (registered : msg.Registered) (registered' : other.Registered)
    (tagged : msg.tag = some front) (tagged' : other.tag = some front)
    (same : msg.payload = other.payload) : msg = other := by
  obtain ⟨objects, others⟩ := tags_differ
  have tags : msg.tag = other.tag := tagged.trans tagged'.symm
  have whole : msg.bytes = other.bytes := by
    rw [bytes_of_tag tagged, bytes_of_tag tagged', same]
  cases msg with
  | object tag body =>
    cases other with
    | object tag' body' => rw [Text.utf8_inj.mp (some.inj tags), show body = body' from same]
    | assertion => exact absurd (some.inj tags) (objects tag registered).1
    | receipt => cases tagged'
    | report => exact absurd (some.inj tags) (objects tag registered).2
  | assertion =>
    cases other with
    | object tag' => exact absurd (some.inj tags).symm (objects tag' registered').1
    | assertion =>
      have connect := (spec_of_tag registered rfl).1
      obtain ⟨-, rfl, rfl⟩ :=
        (DeviceCred.assertionMessage_inj connect connect registered registered').mp whole
      rfl
    | receipt => cases tagged'
    | report => exact absurd (some.inj tags) others
  | receipt => cases tagged
  | report =>
    cases other with
    | object tag' => exact absurd (some.inj tags).symm (objects tag' registered').2
    | assertion => exact absurd (some.inj tags).symm others
    | receipt => cases tagged'
    | report =>
      have short := Claim.Short.lt registered
      have short' := Claim.Short.lt registered'
      rw [(Accounting.reportCanonical_inj short short').mp whole]

/-- Equal bytes are of one kind, and of the same fields. -/
theorem eq_of_bytes (registered : msg.Registered) (registered' : other.Registered)
    (same : msg.bytes = other.bytes) : msg = other := by
  cases tagged : msg.tag with
  | none =>
    obtain ⟨_, rfl⟩ := receipt_of_tag tagged
    cases tagged' : other.tag with
    | none =>
      obtain ⟨claim', rfl⟩ := receipt_of_tag tagged'
      have short := Claim.Short.lt registered
      have short' := Claim.Short.lt registered'
      rw [(Accounting.canonical_inj short short').mp same]
    | some => exact absurd same (canonical_ne_bytes registered registered' tagged')
  | some =>
    cases tagged' : other.tag with
    | none =>
      obtain ⟨claim', rfl⟩ := receipt_of_tag tagged'
      exact absurd same.symm (canonical_ne_bytes registered' registered tagged)
    | some =>
      have unmarked := (spec_of_tag registered tagged).1
      have unmarked' := (spec_of_tag registered' tagged').1
      rw [bytes_of_tag tagged, bytes_of_tag tagged', frame_inj unmarked unmarked'] at same
      obtain ⟨rfl, payloads⟩ := same
      exact eq_of_payload registered registered' tagged tagged' payloads

end SignedMessage

/-- Under tags that hold no zero byte, two messages are equal only if tags and bodies are. What the
update signer signs opens to itself. Assertions whose purposes hold no zero byte, receipts and
reports are told apart by their fields, and so are all the messages of this repository. -/
theorem framings_separated :
    (∀ tag tag' body body' : Bytes, 0 ∉ tag → 0 ∉ tag' → frame tag body = frame tag' body' →
      tag = tag' ∧ body = body') ∧
    (∀ (tag tag' : String) (body body' : Bytes), 0 ∉ tag.toUTF8.toList → 0 ∉ tag'.toUTF8.toList →
      signingMessage tag body = signingMessage tag' body' → tag = tag' ∧ body = body') ∧
    (∀ tag body, Update.signingMessage tag body = signingMessage tag body) ∧
    (∀ scheme (signer : Update.Signer scheme) codec priv body signed,
      Update.signBody signer codec priv body = .ok signed →
        openSigned scheme (signer.publicKey priv) tagUpdateManifest signed = .ok body) ∧
    (∀ scheme (signer : Update.Signer scheme) codec priv manifest signed,
      Update.sign signer codec priv manifest = .ok signed →
        ∃ body, codec.marshal manifest = some body ∧
          openSigned scheme (signer.publicKey priv) tagUpdateManifest signed = .ok body) ∧
    (∀ purpose audience challenge purpose' audience' challenge' : Bytes,
      0 ∉ purpose → 0 ∉ purpose' → audience.length < 2 ^ 32 → audience'.length < 2 ^ 32 →
      DeviceCred.assertionMessage purpose audience challenge =
        DeviceCred.assertionMessage purpose' audience' challenge' →
      purpose = purpose' ∧ audience = audience' ∧ challenge = challenge') ∧
    (∀ claim claim' : Claim, claim.Short → claim'.Short → claim.canonical = claim'.canonical →
      claim = claim') ∧
    (∀ attested attested' : Receipt, attested.Short → attested'.Short →
      attested.reportCanonical = attested'.reportCanonical → attested = attested') ∧
    (∀ (claim : Claim) (attested : Receipt), claim.Short →
      claim.canonical ≠ attested.reportCanonical) ∧
    ∀ msg other : SignedMessage, msg.Registered → other.Registered →
      msg.bytes = other.bytes → msg = other := by
  refine ⟨?_, ?_, Update.signingMessage_eq, ?_, ?_, ?_, ?_, ?_, ?_, ?_⟩
  · intro tag tag' body body' unmarked unmarked' same
    exact (frame_inj unmarked unmarked').mp same
  · intro tag tag' body body' unmarked unmarked' same
    exact (signingMessage_inj unmarked unmarked').mp same
  · intro scheme signer codec priv body signed done
    exact Update.openSigned_signBody done
  · intro scheme signer codec priv manifest signed done
    exact Update.openSigned_sign done
  · intro purpose audience challenge purpose' audience' challenge' unmarked unmarked'
      short short' same
    exact (DeviceCred.assertionMessage_inj unmarked unmarked' short short').mp same
  · intro claim claim' short short' same
    exact (Accounting.canonical_inj short.lt short'.lt).mp same
  · intro attested attested' short short' same
    exact (Accounting.reportCanonical_inj short.lt short'.lt).mp same
  · intro claim attested short
    exact Accounting.canonical_ne_reportCanonical short attested
  · intro msg other registered registered' same
    exact SignedMessage.eq_of_bytes registered registered' same

/-- A scheme that takes any signature, a signer, and a codec that takes any body. -/
def anyScheme : Scheme where
  verify _ _ _ := true
  unmarshal _ := none

def anySigner : Update.Signer anyScheme where
  sign _ _ := replicate 64 0
  publicKey _ := replicate 32 0
  length_sign _ _ := length_replicate
  length_publicKey _ _ := length_replicate
  verify_sign _ _ _ := rfl

/-- A release of one artifact. -/
def oneRelease : Update.Manifest where
  version := 1
  seq := 1
  release := "1.0.0"
  issued := 1
  expires := 2
  artifacts := [⟨"linux", "amd64", "node", 1, replicate 32 0⟩]

def anyCodec : Update.ManifestCodec where
  marshal _ := some [1]
  unmarshal _ := some oneRelease
  known body := !body.isEmpty
  known_nil := rfl

def oneClaim (seq : UInt64) : Claim := ⟨[1], seq, 60, 1000, [2]⟩

/-- Messages of some of the framings. -/
theorem some_framings_separated :
    signingMessage tagPolicyDoc [1] ≠ signingMessage tagDeviceCred [1] ∧
    (∃ signed, Update.signBody anySigner anyCodec (List.replicate 64 0) [1] = .ok signed ∧
      openSigned anyScheme (anySigner.publicKey (List.replicate 64 0)) tagUpdateManifest signed =
        .ok [1]) ∧
    DeviceCred.assertionMessage DeviceCred.purposeConnect [1, 2] [3] ≠
      DeviceCred.assertionMessage DeviceCred.purposeConnect [1] [2, 3] ∧
    (oneClaim 1).canonical ≠ (oneClaim 2).canonical ∧
    Receipt.reportCanonical ⟨oneClaim 1, true⟩ ≠ Receipt.reportCanonical ⟨oneClaim 1, false⟩ ∧
    (oneClaim 1).canonical ≠ Receipt.reportCanonical ⟨oneClaim 1, true⟩ := by
  obtain ⟨-, objects, -, signs, -, assertions, claims, reports, apart, -⟩ := framings_separated
  have short : ∀ seq, (oneClaim seq).Short := fun seq => (by decide : 1 < 0x62616363)
  have connect : 0 ∉ DeviceCred.purposeConnect := by decide +kernel
  have signed : Update.signBody anySigner anyCodec (replicate 64 0) [1] =
      .ok ([1] ++ replicate 64 0) := rfl
  refine ⟨fun same => ?_, ⟨_, signed, signs _ _ _ _ _ _ signed⟩, fun same => ?_, fun same => ?_,
    fun same => ?_, apart _ _ (short 1)⟩
  · exact absurd (objects _ _ _ _ (by decide +kernel) (by decide +kernel) same).1 (by decide)
  · exact absurd (assertions _ _ _ _ _ _ connect connect (by decide) (by decide) same).2.1
      (by decide)
  · exact absurd (claims _ _ (short 1) (short 2) same) (by decide)
  · exact absurd (reports _ _ (short 1) (short 1) same) (by decide)

/-- A challenge that reads like the end of an assertion. -/
def nestedChallenge : Bytes :=
  0 :: (fixed 4 0 ++ (fixed 4 16 ++ DeviceCred.oneChallenge))

/-- A purpose that holds the byte that ends it. -/
def nestedPurpose : Bytes :=
  DeviceCred.purposeConnect ++ 0 :: (fixed 4 0 ++ fixed 4 25)

/-- The connect purpose with one challenge and another with another are one message. -/
theorem nested_purpose_collides :
    DeviceCred.purposeConnect ≠ nestedPurpose ∧ nestedChallenge ≠ DeviceCred.oneChallenge ∧
    nestedPurpose.length < 2 ^ 32 ∧ nestedChallenge.length < 2 ^ 32 ∧
    DeviceCred.assertionMessage DeviceCred.purposeConnect [] nestedChallenge =
      DeviceCred.assertionMessage nestedPurpose [] DeviceCred.oneChallenge := by
  decide +kernel

end Bacchus.Delegation
