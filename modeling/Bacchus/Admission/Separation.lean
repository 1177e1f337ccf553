import Bacchus.Admission.Crl

/-!
# Credentials and revocation lists under one key

A document is told apart by its tag only. What a reader of one kind makes of the other kind.
-/

namespace Bacchus.Admission

open List Json Text Option

variable (codec : Json.Codec) (signer : Signer)

/-! ## Tags

A tag is what stands in front of the payload, up to its colon if it has one. -/

def IsTag (tag : String) : Prop := ':' ∈ tag.toList → tag.toList.getLast? = some ':'

instance (tag : String) : Decidable (IsTag tag) := inferInstanceAs (Decidable (_ → _))

/-- A document under a tag. -/
def tagged (tag : String) (signed : Bytes) : String := tag ++ base64Encode signed

theorem colon_not_mem_base64Encode (bytes : Bytes) : ':' ∉ (base64Encode bytes).toList := by
  intro member
  obtain ⟨value, small, equal⟩ := base64Value_of_mem_base64Encode member
  have never : ∀ value < 64, ':' ≠ base64Digit value := by decide
  exact never value small equal

theorem isSpace_of_mem_base64Encode {bytes : Bytes} {char : Char}
    (member : char ∈ (base64Encode bytes).toList) : Netip.isSpace char = false := by
  obtain ⟨value, small, rfl⟩ := base64Value_of_mem_base64Encode member
  have never : ∀ value < 64, Netip.isSpace (base64Digit value) = false := by decide
  exact never value small

variable {signed : Bytes}

/-- Only the tag loses white space. -/
theorem trimSpace_tagged (tag : String) (nonempty : signed ≠ []) :
    (Netip.trimSpace (tagged tag signed)).toList =
      tag.toList.dropWhile Netip.isSpace ++ (base64Encode signed).toList := by
  have dropNone : ∀ {chars : List Char}, (∀ char ∈ chars, Netip.isSpace char = false) →
      ∀ rest, chars ≠ [] → (chars ++ rest).dropWhile Netip.isSpace = chars ++ rest := by
    intro chars clean rest filled
    cases chars with
    | nil => exact absurd rfl filled
    | cons head => rw [cons_append, dropWhile_cons_of_neg (by simp [clean head (.head _)])]
  have clean : ∀ char ∈ (base64Encode signed).toList, Netip.isSpace char = false :=
    fun _ => isSpace_of_mem_base64Encode
  have filled := base64Encode_ne_nil nonempty
  have left : (tagged tag signed).toList.dropWhile Netip.isSpace =
      tag.toList.dropWhile Netip.isSpace ++ (base64Encode signed).toList := by
    rw [tagged, String.toList_append, dropWhile_append]
    split
    · next blank =>
      have whole := dropNone clean [] filled
      rw [append_nil] at whole
      rw [whole, isEmpty_iff.mp blank, nil_append]
    · rfl
  have right := @dropNone (base64Encode signed).toList.reverse
    (fun char member => clean char (mem_reverse.mp member))
    (tag.toList.dropWhile Netip.isSpace).reverse (by simpa using filled)
  rw [Netip.trimSpace, String.toList_ofList, left, reverse_append, right,
    ← reverse_append, reverse_reverse]

variable {name : List Char}

/-- A text that ends in a colon and starts a tagged payload starts the tag. -/
theorem prefix_of_colon {front digits : List Char} (clean : ':' ∉ digits)
    (found : name ++ [':'] <+: front ++ digits) : name ++ [':'] <+: front := by
  obtain ⟨_, whole⟩ := found
  rcases append_eq_append_iff.mp whole with ⟨more, within, _⟩ | ⟨more, beyond, inDigits⟩
  · exact ⟨more, within.symm⟩
  · rcases eq_nil_or_concat more with rfl | ⟨start, last, rfl⟩
    · exact ⟨[], by simpa using beyond⟩
    · have colon : ':' = last := by
        have ends := congrArg getLast? beyond
        simpa using ends
      rw [inDigits, ← colon] at clean
      simp at clean

variable {tag : String}

/-- What follows the first colon of a tag ends in a colon too, if anything. -/
theorem colon_mem_of_isTag {more : List Char} (isTag : IsTag tag)
    (trimmed : tag.toList.dropWhile Netip.isSpace = name ++ [':'] ++ more) (longer : more ≠ []) :
    ':' ∈ more := by
  have suffix : name ++ [':'] ++ more <:+ tag.toList := trimmed ▸ dropWhile_suffix _
  have ended := isTag (suffix.subset (by simp))
  obtain ⟨_, split⟩ := suffix
  rcases eq_nil_or_concat more with rfl | ⟨start, last, rfl⟩
  · exact absurd rfl longer
  · rw [← split] at ended
    simp only [concat_eq_append, ← append_assoc, getLast?_concat, some.injEq] at ended
    simp [ended]

/-- A reader of the tag `name:` finds the document under that tag, up to white space before it, and
nothing under another. -/
theorem payload_tagged (name : String) (isTag : IsTag tag) (nonempty : signed ≠ []) :
    payload (name ++ ":") (tagged tag signed) =
      if tag.toList.dropWhile Netip.isSpace = (name ++ ":").toList then some signed else none := by
  have wanted : (name ++ ":").toList = name.toList ++ [':'] := by rw [String.toList_append]; rfl
  have size : (name ++ ":").length = (name.toList ++ [':']).length := by
    rw [← wanted, String.length_toList]
  unfold payload
  simp only [trimSpace_tagged tag nonempty, wanted, size]
  split
  · next found =>
    have begins := prefix_of_colon (colon_not_mem_base64Encode signed)
      (List.isPrefixOf_iff_prefix.mp found)
    obtain ⟨more, trimmed⟩ := begins
    rw [← trimmed, append_assoc, drop_left]
    by_cases exactly : more = []
    · rw [exactly, nil_append, String.ofList_toList, base64Decode_base64Encode,
        if_pos (append_nil _)]
    · have colon : ':' ∈ (String.ofList (more ++ (base64Encode signed).toList)).toList := by
        rw [String.toList_ofList]
        exact mem_append_left _ (colon_mem_of_isTag isTag trimmed.symm exactly)
      rw [base64Decode_eq_none colon (by decide) (by decide), if_neg]
      intro same
      exact exactly (by simpa using same)
  · next missing =>
    rw [if_neg]
    intro same
    rw [same] at missing
    exact missing (List.isPrefixOf_iff_prefix.mpr (prefix_append _ _))

theorem Signer.seal_long (object : Json.Object) : 64 < (signer.seal codec object).length := by
  have body := length_pos_iff.mpr (codec.render_ne_nil object)
  rw [Signer.seal, length_append, signer.length_sign]
  omega

theorem Signer.seal_ne_nil (object : Json.Object) : signer.seal codec object ≠ [] := by
  have long := signer.seal_long codec object
  exact length_pos_iff.mp (by omega)

/-- The signature is the last 64 bytes. -/
theorem Signer.split_seal (object : Json.Object) :
    (signer.seal codec object).take ((signer.seal codec object).length - 64) = codec.render object ∧
      (signer.seal codec object).drop ((signer.seal codec object).length - 64) =
        signer.sign (codec.render object) := by
  have cut : (signer.seal codec object).length - 64 = (codec.render object).length := by
    rw [Signer.seal, length_append, signer.length_sign, Nat.add_sub_cancel]
  rw [cut]
  exact ⟨take_left, drop_left⟩

variable {encoded : String}

/-- `Decode` hands out the payload behind the tag of a credential. -/
theorem decode_eq_payload (decoded : decode encoded = .ok signed) :
    payload credPrefix encoded = some signed := by
  unfold payload
  unfold decode at decoded
  by_cases tagged : credPrefix.toList.isPrefixOf (Netip.trimSpace encoded).toList
  · simp only [if_pos tagged] at decoded ⊢
    generalize base64Decode _ = read at decoded
    cases read with
    | none => cases decoded
    | some => exact congrArg some (Except.ok.inj decoded)
  · simp only [if_neg tagged] at decoded
    cases decoded

variable {cred : Credential}

theorem unmarshal_of_parse {scheme : Scheme} {pub : Bytes}
    (parsed : parse scheme pub signed = .ok cred) :
    scheme.unmarshal (signed.take (signed.length - 64)) = some cred := by
  simp only [parse] at parsed
  split_ifs at parsed
  split at parsed
  · cases parsed
  · next found =>
    split_ifs at parsed
    rwa [← Except.ok.inj parsed]

/-- A sealed document under the list tag is whatever list its members spell. -/
theorem parseCrl_tagged (isTag : IsTag tag) (object : Json.Object) (crl : Crl) :
    parseCrl codec signer signer.pub (tagged tag (signer.seal codec object)) = .ok crl ↔
      tag.toList.dropWhile Netip.isSpace = crlPrefix.toList ∧
        Crl.unmarshal codec object = some crl ∧ crl.version = crlVersion := by
  have named : crlPrefix = "bacchusr1" ++ ":" := rfl
  obtain ⟨body, sig⟩ := signer.split_seal codec object
  unfold parseCrl
  rw [named, payload_tagged "bacchusr1" isTag (signer.seal_ne_nil codec object), ← named]
  by_cases right : tag.toList.dropWhile Netip.isSpace = crlPrefix.toList
  · have long : ¬ (signer.pub.length ≠ 32 ∨ (signer.seal codec object).length ≤ 64) := by
      have long := signer.seal_long codec object
      have keyed := signer.length_pub
      omega
    simp only [right, if_true, body, sig, signer.verify_sign, if_neg long,
      codec.read_render, bind_some, true_and]
    cases spelt : Crl.unmarshal codec object with
    | none => simp
    | some found =>
      by_cases current : found.version = crlVersion
      · simp only [current, ne_eq, not_true, if_false, Bool.true_eq_false, Except.ok.injEq,
          some.injEq]
        constructor
        · rintro rfl
          exact ⟨rfl, current⟩
        · exact fun same => same.1
      · simp only [ne_eq, current, not_false_iff, if_true, Bool.true_eq_false, if_false,
          reduceCtorEq, some.injEq, false_iff, not_and]
        rintro rfl
        exact current
  · simp [right]

theorem Credential.name_of_mem_optional {entry : String × Json.Value}
    (member : entry ∈ cred.optional) : entry.1 ∈ ["note", "vouched", "trust", "plan"] := by
  simp only [Credential.optional, mem_append] at member
  rcases member with ((member | member) | member) | member
  · simp [name_of_mem_omitText member]
  · simp [name_of_mem_omitBool member]
  · simp [name_of_mem_omitText member]
  · simp [name_of_mem_omitText member]

variable {object : Json.Object}

/-- A credential's members spell a list without serials. -/
theorem Crl.unmarshal_credential (written : cred.marshal codec = some object) :
    Crl.unmarshal codec object = (readInt 0 (.number cred.version)).map fun version =>
        ⟨version, zeroTime, cred.notAfter, []⟩ := by
  simp only [Credential.marshal, bind_eq_bind, Option.pure_def, bind_eq_some_iff,
    some.injEq] at written
  obtain ⟨_, _, notAfter, formatted, rfl⟩ := written
  have parsed := codec.parseTime_of_formatTime formatted
  have foreign : ∀ name ∈ ["v", "iat", "exp", "revoked"],
    ∀ key ∈ ["note", "vouched", "trust", "plan"],
      sameName key name = false := by decide
  have skip : ∀ {α : Type} (name : String) (read : α → Json.Value → Option α) (held : α)
      (object : Json.Object), name ∈ ["v", "iat", "exp", "revoked"] →
      member name read held (object ++ cred.optional) =
        member name read held object :=
    fun name read held object known => member_append_of_foreign name read fun entry member =>
      foreign name known entry.1 (Credential.name_of_mem_optional member)
  unfold Crl.unmarshal
  rw [skip "v" _ _ _ (by decide), skip "iat" _ _ _ (by decide), skip "exp" _ _ _ (by decide),
    skip "revoked" _ _ _ (by decide)]
  simp +decide only [member_cons, member_nil, if_true, if_false, Json.Codec.readTime,
    parsed]
  cases readInt 0 (.number cred.version) <;> rfl

variable {crl : Crl}

/-- A list's members spell a credential without roles. -/
theorem Credential.roles_of_unmarshal_crl (written : crl.marshal codec = some object)
    (read : Credential.unmarshal codec object = some cred) : cred.roles = [] := by
  simp only [Crl.marshal, bind_eq_bind, Option.pure_def, bind_eq_some_iff,
    some.injEq] at written
  obtain ⟨_, _, _, _, rfl⟩ := written
  simp only [Credential.unmarshal, bind_eq_bind, Option.pure_def, Option.bind_eq_some_iff,
    Option.some.injEq] at read
  obtain ⟨_, _, _, _, _, _, roles, absent, _, _, _, _, _, _, _, _, _, _, _, _, rfl⟩ := read
  simp +decide only [member_cons, member_nil, if_false, some.injEq] at absent
  exact absent.symm

variable {codec signer}

/-- The list a signed credential of the current list version stands for. -/
def Credential.asCrl (cred : Credential) : Crl :=
  ⟨crlVersion, zeroTime, cred.notAfter, []⟩

theorem parseCrl_credential_iff {cred : Credential} {signed : Bytes} {tag : String}
    (isTag : IsTag tag) (produced : sign codec signer cred = some signed) :
    parseCrl codec signer signer.pub (tagged tag signed) = .ok crl ↔
      tag.toList.dropWhile Netip.isSpace = crlPrefix.toList ∧
        cred.version = crlVersion ∧ crl = cred.asCrl := by
  obtain ⟨_, written, rfl⟩ := map_eq_some_iff.mp produced
  rw [parseCrl_tagged codec signer isTag, Crl.unmarshal_credential codec written]
  apply and_congr_right
  intro _
  constructor
  · rintro ⟨spelt, current⟩
    obtain ⟨version, held, rfl⟩ := map_eq_some_iff.mp spelt
    have same : version = cred.version := eq_of_readInt_number held
    change version = crlVersion at current
    exact ⟨same ▸ current, by rw [current]; rfl⟩
  · rintro ⟨current, rfl⟩
    have held : readInt 0 (.number cred.version) = some crlVersion := by
      rw [current]
      rfl
    rw [held]
    exact ⟨rfl, rfl⟩

variable {now : Time}

theorem verifyCrl_eq_ok_iff {pub : Bytes} :
    verifyCrl codec signer pub encoded now = .ok crl ↔
      parseCrl codec signer pub encoded = .ok crl ∧ now < crl.expiresAt := by
  unfold verifyCrl
  cases parseCrl codec signer pub encoded with
  | error => simp
  | ok found =>
    by_cases fresh : now < found.expiresAt
    · simp only [if_pos fresh, Except.ok.injEq]
      exact (and_iff_left_of_imp fun same => same ▸ fresh).symm
    · simp only [if_neg fresh, reduceCtorEq, Except.ok.injEq, false_iff]
      rintro ⟨rfl, late⟩
      exact fresh late

theorem set_eq_none_iff {client : ClientCrl} :
    (client.set codec signer encoded now).2 = none ↔
      ∃ crl, verifyCrl codec signer client.pub encoded now = .ok crl := by
  unfold ClientCrl.set
  cases verifyCrl codec signer client.pub encoded now with
  | error | ok => simp

theorem verifyCrl_credential_iff {cred : Credential} {signed : Bytes} {tag : String}
    (isTag : IsTag tag) (produced : sign codec signer cred = some signed) :
    verifyCrl codec signer signer.pub (tagged tag signed) now = .ok crl ↔
      tag.toList.dropWhile Netip.isSpace = crlPrefix.toList ∧
        (cred.version = crlVersion ∧ now < cred.notAfter) ∧ crl = cred.asCrl := by
  rw [verifyCrl_eq_ok_iff, parseCrl_credential_iff isTag produced]
  constructor
  · rintro ⟨⟨right, current, rfl⟩, fresh⟩
    exact ⟨right, ⟨current, fresh⟩, rfl⟩
  · rintro ⟨right, ⟨current, fresh⟩, rfl⟩
    exact ⟨⟨right, current, rfl⟩, fresh⟩

/-- A revocation list under any tag verifies for no role. -/
theorem verify_crl_ne_ok {revoked : List String} {issued ttl : Time} {verifier : Verifier}
    (isTag : IsTag tag) (uses : verifier.scheme = signer.scheme codec)
    (produced : signCrl codec signer revoked issued ttl = some signed) (standing : String → Bool)
    (now : Time) (want : Role) (subject : String) (cred : Credential) :
    verifier.verify standing (tagged tag signed) now want subject ≠ .ok cred := by
  intro verified
  obtain ⟨object, written, rfl⟩ := map_eq_some_iff.mp produced
  obtain ⟨⟨found, decoded, _, _, _, parsed⟩, accepted⟩ := Verifier.accepted_of_verify verified
  have whole : found = signer.seal codec object := by
    have carried := payload_tagged "bacchusc1" isTag (signer.seal_ne_nil codec object)
    have same := decode_eq_payload decoded
    rw [show credPrefix = "bacchusc1" ++ ":" from rfl, carried] at same
    split at same
    · exact (some.inj same).symm
    · cases same
  rw [uses, whole] at parsed
  have read := unmarshal_of_parse parsed
  rw [(signer.split_seal codec object).1] at read
  change (codec.read (codec.render object)).bind (Credential.unmarshal codec) = _ at read
  rw [codec.read_render, bind_some] at read
  have unauthorised := accepted.authorised
  rw [Credential.hasRole, Credential.roles_of_unmarshal_crl codec written read] at unauthorised
  simp at unauthorised

/-- Under any tag, a signed credential is a revocation list exactly when its version is that of
lists: `ParseCRL` takes it always, `VerifyCRL` and `Set` until it expires. A signed list is never a
credential. -/
theorem signed_documents_separated (codec : Json.Codec) (signer : Signer) :
    (∀ cred signed, sign codec signer cred = some signed → ((∀ tag, IsTag tag → ∀ crl,
          parseCrl codec signer signer.pub (tagged tag signed) ≠ .ok crl) ↔
        cred.version ≠ crlVersion) ∧
      (∀ now, (∀ tag, IsTag tag → ∀ crl,
          verifyCrl codec signer signer.pub (tagged tag signed) now ≠ .ok crl) ↔
        cred.version ≠ crlVersion ∨ cred.notAfter ≤ now) ∧
      (∀ client : ClientCrl, client.pub = signer.pub → ∀ now,
        (∀ tag, IsTag tag → (client.set codec signer (tagged tag signed) now).2 ≠ none) ↔
          cred.version ≠ crlVersion ∨ cred.notAfter ≤ now)) ∧
    (∀ revoked issued ttl signed, signCrl codec signer revoked issued ttl = some signed →
      ∀ tag, IsTag tag → ∀ verifier : Verifier, verifier.scheme = signer.scheme codec →
        ∀ standing now want subject cred,
          verifier.verify standing (tagged tag signed) now want subject ≠ .ok cred) := by
  have listTag : IsTag crlPrefix := by decide
  have right : crlPrefix.toList.dropWhile Netip.isSpace = crlPrefix.toList := by decide
  -- Under the tag of lists the reader takes the credential if it is `Fit`, and under no other.
  have separates : ∀ {Taken : String → Crl → Prop} {Fit : Prop} {cred : Credential},
      (∀ {tag crl}, IsTag tag → (Taken tag crl ↔ tag.toList.dropWhile Netip.isSpace =
        crlPrefix.toList ∧ Fit ∧ crl = cred.asCrl)) →
      ((∀ tag, IsTag tag → ∀ crl, ¬ Taken tag crl) ↔ ¬ Fit) := by
    intro Taken Fit cred taken
    constructor
    · intro refused fit
      exact refused crlPrefix listTag _ ((taken listTag).mpr ⟨right, fit, rfl⟩)
    · intro unfit tag isTag crl accepted
      exact unfit ((taken isTag).mp accepted).2.1
  have late : ∀ (cred : Credential) (now : Time),
      ¬ (cred.version = crlVersion ∧ now < cred.notAfter) ↔
        cred.version ≠ crlVersion ∨ cred.notAfter ≤ now := by
    intro cred now
    rw [not_and_or, Int.not_lt]
  constructor
  · intro cred signed produced
    refine ⟨separates fun isTag => parseCrl_credential_iff isTag produced, ?_, ?_⟩
    · intro now
      rw [← late]
      exact separates fun isTag => verifyCrl_credential_iff isTag produced
    · intro client anchored now
      rw [← late]
      simp only [Ne, set_eq_none_iff, anchored, not_exists]
      exact separates fun isTag => verifyCrl_credential_iff isTag produced
  · intro revoked issued ttl signed produced tag isTag verifier uses
    exact verify_crl_ne_ok isTag uses produced

/-- The credential of an exit, good for a thousand seconds. -/
def exitCredential : Credential where
  version := credentialVersion
  serial := "01"
  subject := "n1"
  roles := [roleExit]
  notBefore := 0
  notAfter := 10 ^ 12

/-- A client that holds serial 07 revoked takes the exit's credential for a list, and then holds
nothing. -/
theorem credential_clears_revocations : ∃ cred : Credential,
    cred.roles = [roleExit] ∧ ∀ (codec : Json.Codec) (signer : Signer) (signed : Bytes),
      sign codec signer cred = some signed →
        let client : ClientCrl := ⟨signer.pub, some ⟨crlVersion, 0, 10 ^ 12, ["07"]⟩⟩
        let (after, failure) := client.set codec signer (tagged crlPrefix signed) 1
        client.revoked "07" ∧ failure = none ∧ ∀ serial, after.revoked serial = false := by
  refine ⟨exitCredential, rfl, ?_⟩
  intro codec signer signed produced
  have listTag : IsTag crlPrefix := by decide
  have fresh : (1 : Int) < exitCredential.notAfter := by decide
  have verified : verifyCrl codec signer signer.pub (tagged crlPrefix signed) 1 =
      .ok exitCredential.asCrl :=
    (verifyCrl_credential_iff listTag produced).mpr ⟨by decide, ⟨rfl, fresh⟩, rfl⟩
  simp only [ClientCrl.set, verified]
  exact ⟨rfl, trivial, fun _ => rfl⟩

/-- A key pair for tests: one signature for everything. -/
def constantSigner : Signer where
  pub := replicate 32 0
  sign _ := replicate 64 0
  verify _ _ sig := sig == replicate 64 0
  length_pub := length_replicate
  length_sign _ := length_replicate
  verify_sign _ := BEq.rfl

/-- A credential of a later version is read as no list under any tag. -/
theorem later_version_is_no_list : ∃ (codec : Json.Codec) (signed : Bytes),
    sign codec constantSigner { exitCredential with version := 2 } = some signed ∧
      ∀ tag, IsTag tag → ∀ crl,
        parseCrl codec constantSigner constantSigner.pub (tagged tag signed) ≠ .ok crl := by
  obtain ⟨codec, formats⟩ := exists_codec
  obtain ⟨_, started⟩ := isSome_iff_exists.mp (formats 0)
  obtain ⟨_, finished⟩ := isSome_iff_exists.mp (formats 1000000000000)
  have produced : ∃ signed,
      sign codec constantSigner { exitCredential with version := 2 } = some signed := by
    simp [sign, Credential.marshal, exitCredential, started, finished]
  obtain ⟨signed, produced⟩ := produced
  have separated := (signed_documents_separated codec constantSigner).1 _ signed produced
  exact ⟨codec, signed, produced, separated.1.mpr (by decide)⟩

end Bacchus.Admission
