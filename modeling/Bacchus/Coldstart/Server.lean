import Bacchus.Chain.Directory
import Bacchus.Coldstart.Wire

/-!
# Who is handed the signed snapshot

A cold-start server and a courier answer every Binding Request. To one that authenticates, by
MESSAGE-INTEGRITY or by a proof of prior contact, they attach the snapshot. Every other one is
answered as by a plain STUN server.
-/

namespace Bacchus.Coldstart

open Chain (Snapshot Time)
open List

/-- `SecretStore.Lookup`, by the bytes of the USERNAME. -/
abbrev SecretStore := Bytes → Option Bytes

/-- `BindingResponse`: the answer of a plain STUN server. -/
def bindingResponse (raw : Bytes) (src : AddrPort) : Option Bytes :=
  match parse raw with
  | .error _ => none
  | .ok msg =>
    if msg.typ ≠ typeBindingRequest then none
    else some (buildResponse msg.tx src none)

/-- The check of `handleRequest`. -/
def authenticates (mac : Mac) (secrets : SecretStore) (raw : Bytes) (msg : Message) : Bool :=
  match msg.get attrUsername with
  | none => false
  | some username =>
    match secrets username with
    | none => false
    | some secret =>
      match messageIntegrityOffset raw with
      | none => false
      | some offset => verifyMessageIntegrity mac raw offset secret

/-- `snapshot` is what the server's snapshot function returns, if it is asked. -/
def handleRequest (mac : Mac) (raw : Bytes) (src : AddrPort) (secrets : SecretStore)
    (snapshot : Option Bytes) : Option Bytes :=
  match parse raw with
  | .error _ => none
  | .ok msg =>
    if msg.typ ≠ typeBindingRequest then none
    else some (buildResponse msg.tx src
      (if authenticates mac secrets raw msg then snapshot else none))

/-- The value of the request's first MESSAGE-INTEGRITY attribute is the code of the received bytes
before it, with the adjusted length, under the secret registered for its USERNAME. -/
def Authentic (mac : Mac) (secrets : SecretStore) (raw : Bytes) : Prop :=
  ∃ msg username secret offset value,
    parse raw = .ok msg ∧ msg.typ = typeBindingRequest ∧
    msg.get attrUsername = some username ∧ secrets username = some secret ∧
    findIntegrity msg.attrs = some (offset, value) ∧
    value = mac.code secret (adjusted raw (headerLen + offset))

/-- The first MESSAGE-INTEGRITY attribute of a request with a USERNAME declares 20 bytes, unless the
datagram ends before. -/
def IntegritySized (raw : Bytes) : Prop :=
  ∀ msg username offset value, parse raw = .ok msg →
    msg.typ = typeBindingRequest → msg.get attrUsername = some username →
    findIntegrity msg.attrs = some (offset, value) →
    value.length = 20 ∨ raw.length < headerLen + offset + 4 + 20

section

variable {mac : Mac} {secrets : SecretStore} {raw : Bytes} {msg : Message}

/-- What the check accepts: twenty bytes behind the first MESSAGE-INTEGRITY header. -/
theorem authenticates_iff (parsed : parse raw = .ok msg) :
    authenticates mac secrets raw msg ↔
      ∃ username secret offset value, msg.get attrUsername = some username ∧
        secrets username = some secret ∧ findIntegrity msg.attrs = some (offset, value) ∧
        headerLen + offset + 4 + 20 ≤ raw.length ∧
        mac.code secret (adjusted raw (headerLen + offset)) =
          (raw.drop (headerLen + offset + 4)).take 20 := by
  unfold authenticates
  rw [messageIntegrityOffset_eq parsed]
  constructor
  · intro accepted
    split at accepted
    case h_1 => cases accepted
    case h_2 username named =>
      split at accepted
      case h_1 => cases accepted
      case h_2 secret registered =>
        split at accepted
        case h_1 => cases accepted
        case h_2 place located =>
          obtain ⟨⟨offset, value⟩, found, rfl⟩ := Option.map_eq_some_iff.mp located
          unfold verifyMessageIntegrity at accepted
          split_ifs at accepted with outside
          rw [not_or, Nat.not_lt, Nat.not_lt] at outside
          exact ⟨username, secret, offset, value, named, registered, found, outside.2,
            of_decide_eq_true accepted⟩
  · rintro ⟨username, secret, offset, value, named, registered, found, inside, same⟩
    simp only [named, registered, found, Option.map_some]
    unfold verifyMessageIntegrity
    rw [if_neg (by omega)]
    exact decide_eq_true same

/-- A request is answered plainly unless the check accepts it. -/
theorem handleRequest_plain {src : AddrPort} {snapshot : Option Bytes}
    (rejected : ∀ msg, parse raw = .ok msg → msg.typ = typeBindingRequest →
      authenticates mac secrets raw msg = false) :
    handleRequest mac raw src secrets snapshot = bindingResponse raw src := by
  unfold handleRequest bindingResponse
  cases parsed : parse raw with
  | error => rfl
  | ok msg =>
    dsimp only
    split_ifs with other accepted
    · rfl
    · rw [rejected msg parsed (not_not.mp other)] at accepted
      cases accepted
    · rfl

/-- What the check accepts is authentic if the length declared is the one read. -/
theorem authentic_of_authenticates (sized : IntegritySized raw)
    (parsed : parse raw = .ok msg) (req : msg.typ = typeBindingRequest)
    (accepted : authenticates mac secrets raw msg) : Authentic mac secrets raw := by
  obtain ⟨username, secret, offset, value, named, registered, found, _, same⟩ :=
    (authenticates_iff parsed).mp accepted
  have length : value.length = 20 := by
    rcases sized msg username offset value parsed req named found with full | cut
    · exact full
    · omega
  have located := (integrity_located parsed found).2
  rw [length, ← same] at located
  exact ⟨msg, username, secret, offset, value, parsed, req, named, registered, found,
    located.symm⟩

/-- A value of another length is no code. -/
theorem not_authentic_of_length {offset : Nat} {value : Bytes} (parsed : parse raw = .ok msg)
    (found : findIntegrity msg.attrs = some (offset, value)) (unsized : value.length ≠ 20) :
    ¬ Authentic mac secrets raw := by
  rintro ⟨other, _, secret, place, code, again, _, _, _, there, coded⟩
  rw [parsed] at again
  cases again
  rw [found] at there
  cases there
  rw [coded] at unsized
  exact unsized (mac.sized _ _)

end

/-- One more attribute adds its size. -/
theorem length_encodeAttrs_append (attrs : List Attribute) (attr : Attribute) :
    (encodeAttrs (attrs ++ [attr])).length = (encodeAttrs attrs).length + attr.size := by
  unfold encodeAttrs
  rw [flatMap_append, length_append, flatMap_singleton, attr.length_encode]

/-- The size of a message, fingerprint included. -/
theorem length_withFingerprint (typ : Nat) (tx : Bytes) (attrs : List Attribute) :
    (withFingerprint typ tx attrs).length =
      8 + tx.length + (encodeAttrs attrs).length + fingerprintAttrLen := by
  have sized : ∀ msg, Attribute.size ⟨attrFingerprint, fingerprint msg⟩ =
      fingerprintAttrLen := by
    simp [Attribute.size, fingerprint, bigEndian, padding, fingerprintAttrLen]
  unfold withFingerprint
  rw [length_append, length_encodeAttrs_append, sized]
  simp only [encodeHeader, putUint16, magicCookie, length_append, length_cons, length_nil]
  omega

/-- An answer with a snapshot is longer than a plain one. -/
theorem buildResponse_ne (tx : Bytes) (src : AddrPort) (snapshot : Bytes) :
    buildResponse tx src (some snapshot) ≠ buildResponse tx src none := by
  intro same
  have lengths := congrArg length same
  have appended : responseAttrs tx src (some snapshot) =
      responseAttrs tx src none ++ [⟨attrSnapshot, snapshot⟩] := rfl
  unfold buildResponse at lengths
  rw [length_withFingerprint, length_withFingerprint, appended,
    length_encodeAttrs_append] at lengths
  unfold Attribute.size at lengths
  omega

/-- A request that the check accepts is not answered plainly. -/
theorem handleRequest_served {mac : Mac} {secrets : SecretStore} {raw : Bytes} {msg : Message}
    (parsed : parse raw = .ok msg) (req : msg.typ = typeBindingRequest)
    (accepted : authenticates mac secrets raw msg) (src : AddrPort)
    (snapshot : Bytes) :
    handleRequest mac raw src secrets (some snapshot) ≠ bindingResponse raw src := by
  simp only [handleRequest, bindingResponse, parsed, req, ne_eq, not_true_eq_false, if_false,
    accepted, if_true, Option.some.injEq]
  exact buildResponse_ne _ _ _

/-- What a courier takes from elsewhere: signatures, and the decoding of a snapshot. -/
structure Signing where
  verify : (pub body sig : Bytes) → Bool
  decode : Bytes → Option Snapshot

inductive SnapshotError where
  | malformed
  | badSignature
  | expired

/-- The length of the signature at the end of a signed snapshot. -/
def signedLen : Nat := 64

def verifySigned (signing : Signing) (pub signed : Bytes) : Except SnapshotError Snapshot :=
  if signed.length ≤ signedLen then .error .malformed
  else
    let body := signed.take (signed.length - signedLen)
    if signing.verify pub body (signed.drop (signed.length - signedLen)) = false then
      .error .badSignature
    else
      match signing.decode body with
      | none => .error .malformed
      | some snapshot => .ok snapshot

/-- `Verify`: a snapshot that was signed and has not expired. -/
def verify (signing : Signing) (pub signed : Bytes) (now : Time) : Except SnapshotError Snapshot :=
  match verifySigned signing pub signed with
  | .error cause => .error cause
  | .ok snapshot => if snapshot.expiresAt < now then .error .expired else .ok snapshot

/-- `SnapshotCache.Load`. The copy of an empty snapshot is nil. -/
def load (cache : Option Bytes) : Option Bytes := cache.filter (· ≠ [])

def servableSnapshot (signing : Signing) (pub : Bytes) (cache : Option Bytes) (now : Time) :
    Option Bytes :=
  match load cache with
  | none => none
  | some cached =>
    match verify signing pub cached now with
    | .error _ => none
    | .ok _ => some cached

def handleCourierRequest (signing : Signing) (raw : Bytes) (src : AddrPort) (pub : Bytes)
    (cache : Option Bytes) (now : Time) : Option Bytes :=
  match parse raw with
  | .error _ => none
  | .ok msg =>
    if msg.typ ≠ typeBindingRequest then none
    else some (buildResponse msg.tx src
      (match msg.get attrProof with
        | none => none
        | some proof =>
          match verifySigned signing pub proof with
          | .error _ => none
          | .ok _ => servableSnapshot signing pub cache now))

/-- The coordinator signed the request's proof, and what the courier holds is live. -/
def Vouched (signing : Signing) (raw pub : Bytes) (cache : Option Bytes) (now : Time) : Prop :=
  ∃ msg proof shown cached current,
    parse raw = .ok msg ∧ msg.typ = typeBindingRequest ∧
    msg.get attrProof = some proof ∧ verifySigned signing pub proof = .ok shown ∧
    cache = some cached ∧ verifySigned signing pub cached = .ok current ∧
    ¬ current.expiresAt < now

variable {signing : Signing} {cache : Option Bytes}

theorem servableSnapshot_eq_some {pub cached : Bytes} {now : Time}
    (served : servableSnapshot signing pub cache now = some cached) :
    cache = some cached ∧
      ∃ current, verifySigned signing pub cached = .ok current ∧ ¬ current.expiresAt < now := by
  unfold servableSnapshot at served
  split at served
  case h_1 => cases served
  case h_2 held loaded =>
    split at served
    case h_1 => cases served
    case h_2 snapshot verified =>
      cases served
      refine ⟨(Option.filter_eq_some_iff.mp loaded).1, ?_⟩
      unfold verify at verified
      split at verified
      case h_1 => cases verified
      case h_2 current signed =>
        split_ifs at verified with late
        exact ⟨current, signed, late⟩

/-- A courier answers plainly unless the request is vouched for. -/
theorem handleCourierRequest_plain {raw pub : Bytes} {src : AddrPort} {now : Time}
    (stranger : ¬ Vouched signing raw pub cache now) :
    handleCourierRequest signing raw src pub cache now = bindingResponse raw src := by
  unfold handleCourierRequest bindingResponse
  cases parsed : parse raw with
  | error => rfl
  | ok msg =>
    dsimp only
    split_ifs with other
    · rfl
    congr 2
    split
    case h_1 => rfl
    case h_2 proof carried =>
      split
      case h_1 => rfl
      case h_2 shown signed =>
        by_contra served
        obtain ⟨cached, handed⟩ := Option.ne_none_iff_exists'.mp served
        obtain ⟨held, current, verified, fresh⟩ := servableSnapshot_eq_some handed
        exact stranger ⟨msg, proof, shown, cached, current, parsed, not_not.mp other, carried,
          signed, held, verified, fresh⟩

/-- Servers that differ in their secrets answer a request alike unless it is authentic at one of
them, and then as a plain STUN server does. This holds of a datagram exactly when its
MESSAGE-INTEGRITY attribute, if it is read at all, declares the length it is read with, and of a
courier always. -/
theorem plain_unless_authentic_iff (raw : Bytes) :
    ((∀ mac secrets src snapshot, ¬ Authentic mac secrets raw →
        handleRequest mac raw src secrets snapshot = bindingResponse raw src) ∧
      (∀ mac secrets others src snapshot other, ¬ Authentic mac secrets raw →
        ¬ Authentic mac others raw →
        handleRequest mac raw src secrets snapshot = handleRequest mac raw src others other) ↔
      IntegritySized raw) ∧
    ∀ signing pub cache now src, ¬ Vouched signing raw pub cache now →
      handleCourierRequest signing raw src pub cache now = bindingResponse raw src := by
  refine ⟨?_, fun _ _ _ _ _ => handleCourierRequest_plain⟩
  constructor
  · rintro ⟨plain, _⟩ msg username offset value parsed req named found
    by_contra unsized
    rw [not_or, Nat.not_lt] at unsized
    -- A code that happens to be what stands behind the header is accepted.
    let mac : Mac :=
      ⟨fun _ _ => (raw.drop (headerLen + offset + 4)).take 20, fun _ _ => by
        rw [length_take, length_drop]
        omega⟩
    have accepted : authenticates mac (fun _ => some []) raw msg :=
      (authenticates_iff parsed).mpr
        ⟨username, [], offset, value, named, rfl, found, unsized.2, rfl⟩
    have inauthentic : ¬ Authentic mac (fun _ => some []) raw :=
      not_authentic_of_length parsed found unsized.1
    exact handleRequest_served parsed req accepted ⟨none, 0⟩ [] (plain _ _ _ _ inauthentic)
  · intro sized
    have plain : ∀ mac secrets src snapshot, ¬ Authentic mac secrets raw →
        handleRequest mac raw src secrets snapshot = bindingResponse raw src := by
      intro mac secrets src snapshot inauthentic
      apply handleRequest_plain
      intro msg parsed req
      by_contra accepted
      exact inauthentic (authentic_of_authenticates sized parsed req
        (Bool.eq_true_of_not_eq_false accepted))
    refine ⟨plain, ?_⟩
    intro mac secrets others src snapshot other inauthentic othersInauthentic
    rw [plain mac secrets src snapshot inauthentic,
      plain mac others src other othersInauthentic]

/-- A request of the user `u` with MESSAGE-INTEGRITY, and more bytes behind it. -/
def signedRequest (integrity rest : Bytes) : Bytes :=
  encodeHeader typeBindingRequest (replicate 12 0) 32 ++
    (Attribute.encode ⟨attrUsername, [0x75]⟩ ++
      (Attribute.encode ⟨attrMessageIntegrity, integrity⟩ ++ rest))

theorem parse_signedRequest {integrity rest : Bytes} (small : integrity.length < 2 ^ 16)
    (whole : Attribute.size ⟨attrMessageIntegrity, integrity⟩ + rest.length = 24) :
    parse (signedRequest integrity rest) = .ok ⟨typeBindingRequest, replicate 12 0,
        ⟨attrUsername, [0x75]⟩ :: ⟨attrMessageIntegrity, integrity⟩ :: parseAttrs 30 rest⟩ := by
  have body : (Attribute.encode ⟨attrUsername, [0x75]⟩ ++
      (Attribute.encode ⟨attrMessageIntegrity, integrity⟩ ++ rest)).length = 32 := by
    rw [length_append, length_append, Attribute.length_encode, Attribute.length_encode, whole]
    rfl
  have user : Attribute.Fits ⟨attrUsername, [0x75]⟩ := ⟨by decide, by decide⟩
  have typed : attrMessageIntegrity < 2 ^ 16 := by decide
  have code : Attribute.Fits ⟨attrMessageIntegrity, integrity⟩ := ⟨typed, small⟩
  unfold signedRequest
  rw [parse_encodeHeader (by decide) rfl (by decide) body, parseAttrs_encode user,
    parseAttrs_encode code]

/-- A code of the last bytes of a message, after the key. -/
def lastBytesMac : Mac where
  code key msg := (key ++ msg.reverse ++ replicate 20 0).take 20
  sized key msg := by
    rw [length_take, length_append, length_replicate]
    omega

/-- A server without secrets answers such a request of `u` plainly. -/
theorem unregistered_is_answered_plainly :
    IntegritySized (signedRequest (List.replicate 20 0) []) ∧
      handleRequest lastBytesMac (signedRequest (List.replicate 20 0) []) ⟨none, 0⟩ (fun _ => none)
          (some [1]) = bindingResponse (signedRequest (List.replicate 20 0) []) ⟨none, 0⟩ := by
  have sized : IntegritySized (signedRequest (replicate 20 0) []) := by
    intro msg username offset value parsed _ _ found
    rw [parse_signedRequest (by decide) (by decide)] at parsed
    cases parsed
    cases found
    exact .inl rfl
  refine ⟨sized, ?_⟩
  apply ((plain_unless_authentic_iff (signedRequest (replicate 20 0) [])).1.mpr sized).1
  rintro ⟨_, _, secret, _, _, _, _, _, registered, _⟩
  cases registered

/-- The code of a request of `u` up to an empty MESSAGE-INTEGRITY attribute. -/
def Mac.codeBeforeEmpty (mac : Mac) (secret : Bytes) : Bytes :=
  mac.code secret (adjusted (signedRequest [] []) 28)

/-- With the code behind an empty attribute the request is handed a snapshot though the attribute's
value is not the code. -/
theorem served_of_code_behind (mac : Mac) (secret : Bytes) (src : AddrPort) (snapshot : Bytes) :
    (∀ secrets, ¬ Authentic mac secrets (signedRequest [] (mac.codeBeforeEmpty secret))) ∧
      handleRequest mac (signedRequest [] (mac.codeBeforeEmpty secret)) src
          (fun user => if user = [0x75] then some secret else none) (some snapshot) ≠
        bindingResponse (signedRequest [] (mac.codeBeforeEmpty secret)) src := by
  generalize coded : mac.codeBeforeEmpty secret = code
  have sized : code.length = 20 := by
    rw [← coded]
    exact mac.sized secret _
  have whole : Attribute.size ⟨attrMessageIntegrity, []⟩ + code.length = 24 := by
    rw [sized]
    rfl
  have parsed := parse_signedRequest (by decide) whole
  have length : (signedRequest [] code).length = 52 := by
    change code.length + 32 = 52
    omega
  constructor
  · intro secrets
    exact not_authentic_of_length parsed rfl (by decide)
  · have compared : mac.code secret (adjusted (signedRequest [] code) 28) =
        ((signedRequest [] code).drop 32).take 20 :=
      coded.trans (take_of_length_le (Nat.le_of_eq sized)).symm
    have accepted := (@authenticates_iff mac
      (fun user => if user = [0x75] then some secret else none) _ _ parsed).mpr
      ⟨[0x75], secret, 8, [], rfl, rfl, rfl, Nat.le_of_eq length.symm, compared⟩
    exact handleRequest_served parsed rfl accepted src snapshot

/-- A server that knows `u` by a secret of four bytes hands a snapshot to such a request. -/
theorem empty_integrity_is_served :
    ∃ raw, (∀ secrets, ¬ Authentic lastBytesMac secrets raw) ∧ ∀ src snapshot,
        handleRequest lastBytesMac raw src
            (fun user => if user = [0x75] then some [1, 2, 3, 4] else none) (some snapshot) ≠
          bindingResponse raw src := by
  refine ⟨signedRequest [] (lastBytesMac.codeBeforeEmpty [1, 2, 3, 4]), ?_, ?_⟩
  · exact (served_of_code_behind lastBytesMac [1, 2, 3, 4] ⟨none, 0⟩ []).1
  · intro src snapshot
    exact (served_of_code_behind lastBytesMac [1, 2, 3, 4] src snapshot).2

end Bacchus.Coldstart
