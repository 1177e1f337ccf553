import Bacchus.Coldstart.Bootstrap

/-!
# Invites

The text an operator hands to a new client. The decoder wants a coordinator's address, which the
encoder does not look at.
-/

namespace Bacchus.Coldstart

open Text List

def secretLen : Nat := 32

def publicKeySize : Nat := 32

def maxCRLLen : Nat := 65535

/-- An invite; a nil key or list is empty. -/
structure Invite where
  coordinator : Bytes
  secretID : String
  secret : Bytes
  publicKey : Bytes
  admissionKey : Bytes := []
  crl : Bytes := []

inductive InviteError where
  | secretID | secretLength | publicKeyLength | unanchored | admissionKeyLength | crlTooLarge
  | missingPrefix | base64 | empty
  | version (found : UInt8)
  | length | truncatedCRLLength | truncatedCRL

/-- The texts behind "coldstart: malformed invite: "; the decoder's own for broken base64. -/
def InviteError.text : InviteError → String
  | .secretID => "bad secret id"
  | .secretLength => "bad secret length"
  | .publicKeyLength => "bad public key length"
  | .unanchored => "a CRL requires an admission anchor"
  | .admissionKeyLength => "bad admission key length"
  | .crlTooLarge => "CRL too large"
  | .missingPrefix => "missing prefix"
  | .base64 => "illegal base64 data"
  | .empty => "empty"
  | .version found => "unsupported version " ++ toString found
  | .length => "bad length"
  | .truncatedCRLLength => "truncated CRL length"
  | .truncatedCRL => "truncated CRL"

def invitePrefix : String := "bacchus1:"

def Invite.version (invite : Invite) : UInt8 :=
  if invite.crl ≠ [] then 3 else if invite.admissionKey ≠ [] then 2 else 1

/-- The CRL on the wire, of version 3 only. -/
def Invite.crlField (invite : Invite) : Bytes :=
  if invite.crl ≠ [] then putUint16 invite.crl.length ++ invite.crl else []

def encodeInvite (invite : Invite) : Except InviteError String :=
  match hexDecode invite.secretID with
  | none => .error .secretID
  | some id =>
    if id.length ≠ secretIDLen then .error .secretID
    else if invite.secret.length ≠ secretLen then .error .secretLength
    else if invite.publicKey.length ≠ publicKeySize then .error .publicKeyLength
    else if invite.crl ≠ [] ∧ invite.admissionKey = [] then .error .unanchored
    else if invite.admissionKey ≠ [] ∧ invite.admissionKey.length ≠ publicKeySize then
      .error .admissionKeyLength
    else if invite.crl.length > maxCRLLen then .error .crlTooLarge
    else .ok (invitePrefix ++ base64Encode (invite.version :: (id ++ (invite.secret ++
      (invite.publicKey ++ (invite.admissionKey ++ (invite.crlField ++ invite.coordinator)))))))

/-- The length of the admission anchor that a version carries, and whether a CRL follows. -/
def inviteFields (version : UInt8) : Except InviteError (Nat × Bool) :=
  if version = 1 then .ok (0, false)
  else if version = 2 then .ok (publicKeySize, false)
  else if version = 3 then .ok (publicKeySize, true)
  else .error (.version version)

/-- The CRL and what follows it. -/
def takeCRL (hasCRL : Bool) (rest : Bytes) : Except InviteError (Bytes × Bytes) :=
  if !hasCRL then .ok ([], rest)
  else if rest.length < 2 then .error .truncatedCRLLength
  else if (rest.drop 2).length < uint16 rest 0 then .error .truncatedCRL
  else .ok ((rest.drop 2).take (uint16 rest 0), (rest.drop 2).drop (uint16 rest 0))

/-- The fields behind the version byte. -/
def takeFields (admissionLen : Nat) (hasCRL : Bool) (rest : Bytes) : Except InviteError Invite :=
  if rest.length < secretIDLen + secretLen + publicKeySize + admissionLen then .error .length
  else do
    let (id, rest) := rest.splitAt secretIDLen
    let (secret, rest) := rest.splitAt secretLen
    let (publicKey, rest) := rest.splitAt publicKeySize
    let (admissionKey, rest) := rest.splitAt admissionLen
    let (crl, coordinator) ← takeCRL hasCRL rest
    if coordinator = [] then .error .length
    else .ok { coordinator, secretID := hexEncode id, secret, publicKey, admissionKey, crl }

def decodeInvite (text : String) : Except InviteError Invite :=
  let chars := text.toList
  if chars.length ≤ invitePrefix.length ∨ chars.take invitePrefix.length ≠ invitePrefix.toList then
    .error .missingPrefix
  else
    match base64Decode (.ofList (chars.drop invitePrefix.length)) with
    | none => .error .base64
    | some [] => .error .empty
    | some (version :: rest) => do
        let (admissionLen, hasCRL) ← inviteFields version
        takeFields admissionLen hasCRL rest

/-- A field of its own length is split off as it was put. -/
theorem splitAt_field {field rest : Bytes} {size : Nat} (sized : field.length = size) :
    (field ++ rest).splitAt size = (field, rest) := by
  rw [splitAt_eq, take_left' sized, drop_left' sized]

variable {invite : Invite}

theorem takeCRL_crlField (small : invite.crl.length ≤ maxCRLLen) (rest : Bytes) :
    takeCRL (invite.crl ≠ []) (invite.crlField ++ rest) = .ok (invite.crl, rest) := by
  by_cases listed : invite.crl = []
  · simp [takeCRL, Invite.crlField, listed]
  · have size : uint16 (putUint16 invite.crl.length ++ (invite.crl ++ rest)) 0 =
        invite.crl.length := uint16_putUint16 (Nat.lt_succ_of_le small) _
    have behind : (putUint16 invite.crl.length ++ (invite.crl ++ rest)).drop 2 =
        invite.crl ++ rest := rfl
    have long : ¬(putUint16 invite.crl.length ++ (invite.crl ++ rest)).length < 2 := by
      rw [length_append, length_putUint16]
      omega
    have whole : ¬(invite.crl ++ rest).length < invite.crl.length := by
      rw [length_append]
      omega
    simp only [takeCRL, Invite.crlField, ne_eq, listed, not_false_eq_true, decide_true,
      Bool.not_true, Bool.false_eq_true, if_false, if_true, append_assoc, size, behind, long,
      whole, take_left, drop_left]

theorem decodeInvite_text {version : UInt8} {rest : Bytes} :
    decodeInvite (invitePrefix ++ base64Encode (version :: rest)) = (do
      let (admissionLen, hasCRL) ← inviteFields version
      takeFields admissionLen hasCRL rest) := by
  have some := length_pos_iff.mpr (base64Encode_ne_nil (cons_ne_nil version rest))
  have long : ¬(invitePrefix.toList ++ (base64Encode (version :: rest)).toList).length ≤
      invitePrefix.toList.length := by
    rw [length_append]
    omega
  have size : invitePrefix.length = invitePrefix.toList.length := rfl
  simp only [decodeInvite, String.toList_append, size, long, take_left, ne_eq,
    not_true_eq_false, or_self, if_false, drop_left, String.ofList_toList,
    base64Decode_base64Encode]

/-- What the encoder has checked. -/
structure Invite.Encodable (invite : Invite) (id : Bytes) : Prop where
  decoded : hexDecode invite.secretID = some id
  id : id.length = secretIDLen
  secret : invite.secret.length = secretLen
  publicKey : invite.publicKey.length = publicKeySize
  anchored : invite.crl ≠ [] → invite.admissionKey ≠ []
  admissionKey : invite.admissionKey ≠ [] → invite.admissionKey.length = publicKeySize
  crl : invite.crl.length ≤ maxCRLLen

theorem encodable_of_encodeInvite {text : String} (encoded : encodeInvite invite = .ok text) :
    ∃ id, invite.Encodable id ∧
      text = invitePrefix ++ base64Encode (invite.version :: (id ++ (invite.secret ++
        (invite.publicKey ++ (invite.admissionKey ++
          (invite.crlField ++ invite.coordinator)))))) := by
  unfold encodeInvite at encoded
  split at encoded
  · cases encoded
  next id decoded =>
    split_ifs at encoded with badID badSecret badKey bare badAnchor large
    obtain rfl := Except.ok.inj encoded
    refine ⟨id, ⟨decoded, not_not.mp badID, not_not.mp badSecret, not_not.mp badKey, ?_, ?_, ?_⟩,
      rfl⟩
    · exact fun listed unanchored => bare ⟨listed, unanchored⟩
    · exact fun anchored => not_not.mp fun wrong => badAnchor ⟨anchored, wrong⟩
    · exact Nat.le_of_not_lt large

/-- The version tells the decoder which fields the encoder has written. -/
theorem Invite.Encodable.fields {id : Bytes} (encodable : invite.Encodable id) :
    inviteFields invite.version = .ok (invite.admissionKey.length, decide (invite.crl ≠ [])) := by
  by_cases listed : invite.crl = []
  · by_cases anchored : invite.admissionKey = []
    · simp [Invite.version, inviteFields, listed, anchored]
    · simp [Invite.version, inviteFields, listed, anchored, encodable.admissionKey anchored]
  · simp [Invite.version, inviteFields, listed, encodable.admissionKey (encodable.anchored listed)]

theorem decodeInvite_encodeInvite {text : String} (encoded : encodeInvite invite = .ok text) :
    decodeInvite text = if invite.coordinator = [] then .error .length
      else .ok { invite with secretID := invite.secretID.toLower } := by
  obtain ⟨id, encodable, rfl⟩ := encodable_of_encodeInvite encoded
  have long : ¬(id ++ (invite.secret ++ (invite.publicKey ++ (invite.admissionKey ++
      (invite.crlField ++ invite.coordinator))))).length <
        secretIDLen + secretLen + publicKeySize + invite.admissionKey.length := by
    simp only [length_append, encodable.id, encodable.secret, encodable.publicKey]
    omega
  rw [decodeInvite_text, encodable.fields]
  change takeFields _ _ _ = _
  simp only [takeFields, if_neg long, splitAt_field encodable.id, splitAt_field encodable.secret,
    splitAt_field encodable.publicKey, splitAt_field rfl, takeCRL_crlField encodable.crl,
    hexEncode_of_hexDecode encodable.decoded]
  rfl

/-- An encoded invite is decoded again, with the secret id in lower case, exactly when it names a
coordinator. -/
theorem invite_survives_iff {invite : Invite} {text : String}
    (encoded : encodeInvite invite = .ok text) :
    decodeInvite text = .ok { invite with secretID := invite.secretID.toLower } ↔
      invite.coordinator ≠ [] := by
  rw [decodeInvite_encodeInvite encoded]
  by_cases absent : invite.coordinator = []
  · simp [absent]
  · simp [absent]

/-- An invite with every field; its secret id is written in upper case. -/
def fullInvite : Invite where
  coordinator := [49, 58, 50]
  secretID := "AB00000000000000"
  secret := .replicate 32 1
  publicKey := .replicate 32 2
  admissionKey := .replicate 32 3
  crl := [4]

/-- An invite with every field set. -/
theorem fullInvite_survives : ∃ text, encodeInvite fullInvite = .ok text ∧
    decodeInvite text = .ok { fullInvite with secretID := fullInvite.secretID.toLower } := by
  have encoded : encodeInvite fullInvite = .ok _ := rfl
  exact ⟨_, encoded, (invite_survives_iff encoded).mpr (by decide)⟩

/-- An invite without a coordinator is encoded, and never decoded. -/
theorem unaddressed_invite_is_lost : ∃ text,
    encodeInvite { fullInvite with coordinator := [] } = .ok text ∧
      decodeInvite text = .error .length := by
  have encoded : encodeInvite { fullInvite with coordinator := [] } = .ok _ := rfl
  exact ⟨_, encoded, decodeInvite_encodeInvite encoded⟩

end Bacchus.Coldstart
