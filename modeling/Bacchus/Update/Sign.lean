import Bacchus.Delegation.Cert
import Bacchus.Update.Manifest

/-!
# Signing a manifest

`core/update`'s authoring half. It frames what it signs with a copy of its own. Keys, signatures
and the JSON of a manifest are those of the libraries.
-/

namespace Bacchus.Update

open Delegation

/-- `signingMessage` of the signer: tag, zero byte, body. -/
def signingMessage (tag : String) (body : Bytes) : Bytes := (tag.toUTF8.toList ++ [0]) ++ body

/-- Both halves frame alike. -/
theorem signingMessage_eq (tag : String) (body : Bytes) :
    signingMessage tag body = Delegation.signingMessage tag body :=
  List.append_assoc _ _ _

/-- The signing half of a scheme: what a private key signs verifies under its public key. -/
structure Signer (scheme : Delegation.Scheme) where
  sign : (priv msg : Bytes) → Bytes
  publicKey : (priv : Bytes) → Bytes
  length_sign : ∀ priv msg, (sign priv msg).length = 64
  length_publicKey : ∀ priv, priv.length = 64 → (publicKey priv).length = 32
  verify_sign : ∀ priv msg, priv.length = 64 →
    scheme.verify (publicKey priv) msg (sign priv msg)

/-- The JSON of a manifest. A strict decoder finds nothing in an empty input. -/
structure ManifestCodec where
  marshal : Manifest → Option Bytes
  unmarshal : Bytes → Option Manifest
  /-- `checkNoUnknownFields`. -/
  known : Bytes → Bool
  known_nil : known [] = false

inductive SignError where
  | keyLength (length : Nat)
  | malformed
  | invalid (error : ManifestError)
  | marshal
  | unknownField

variable {scheme : Delegation.Scheme} (signer : Signer scheme) (codec : ManifestCodec)

/-- The last step of both: nothing but known fields is signed. -/
def signKnown (priv body : Bytes) : Except SignError Bytes :=
  if codec.known body = false then .error .unknownField
  else .ok (body ++ signer.sign priv (signingMessage tagUpdateManifest body))

def sign (priv : Bytes) (manifest : Manifest) : Except SignError Bytes :=
  if priv.length ≠ 64 then .error (.keyLength priv.length)
  else
    match manifest.validate with
    | .error error => .error (.invalid error)
    | .ok _ =>
      match codec.marshal manifest with
      | none => .error .marshal
      | some body => signKnown signer codec priv body

def signBody (priv body : Bytes) : Except SignError Bytes :=
  if priv.length ≠ 64 then .error (.keyLength priv.length)
  else
    match codec.unmarshal body with
    | none => .error .malformed
    | some manifest =>
      match manifest.validate with
      | .error error => .error (.invalid error)
      | .ok _ => signKnown signer codec priv body

variable {signer codec} {priv body signed : Bytes} {manifest : Manifest}

theorem openSigned_signKnown (key : priv.length = 64)
    (done : signKnown signer codec priv body = .ok signed) :
    openSigned scheme (signer.publicKey priv) tagUpdateManifest signed =
      .ok body := by
  unfold signKnown at done
  split_ifs at done with unknown
  obtain ⟨rfl⟩ := done
  refine openSigned_eq_ok_iff.mpr
    ⟨signer.length_publicKey priv key, ?_, _, signer.length_sign _ _, rfl, ?_⟩
  · rintro rfl
    exact unknown codec.known_nil
  · rw [signingMessage_eq]
    exact signer.verify_sign _ _ key

/-- A signed body is opened again. -/
theorem openSigned_signBody (done : signBody signer codec priv body = .ok signed) :
    openSigned scheme (signer.publicKey priv) tagUpdateManifest signed =
      .ok body := by
  unfold signBody at done
  split_ifs at done with key
  split at done
  · cases done
  · split at done
    · cases done
    · exact openSigned_signKnown (not_not.mp key) done

/-- A signed manifest is opened again. -/
theorem openSigned_sign (done : sign signer codec priv manifest = .ok signed) :
    ∃ body, codec.marshal manifest = some body ∧
      openSigned scheme (signer.publicKey priv) tagUpdateManifest signed =
        .ok body := by
  unfold sign at done
  split_ifs at done with key
  split at done
  · cases done
  · split at done
    · cases done
    · next body rendered => exact ⟨body, rendered, openSigned_signKnown (not_not.mp key) done⟩

end Bacchus.Update
