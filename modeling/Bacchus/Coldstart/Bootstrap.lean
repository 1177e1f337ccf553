import Bacchus.Coldstart.Server

/-!
# A snapshot on its way to the client

The client's request, the server's answer and what the client reads out of it. Lengths are
fields of 16 bits, both ends read into 65535 bytes and UDP carries no more than 65507 over IPv4 and
65527 over IPv6, while a snapshot grows with the registry.
-/

namespace Bacchus.Coldstart

open List Option

def secretIDLen : Nat := 8

/-- The attributes before FINGERPRINT; without a key there are none. -/
def requestAttrs (mac : Mac) (tx username : Bytes) : Option Bytes → List Attribute
  | none => []
  | some key =>
    let body := encodeAttrs [⟨attrUsername, username⟩]
    let header := encodeHeader typeBindingRequest tx (body.length + messageIntegrityAttrLen)
    [⟨attrUsername, username⟩, ⟨attrMessageIntegrity, mac.code key (header ++ body)⟩]

def buildRequest (mac : Mac) (tx username : Bytes) (key : Option Bytes) : Bytes :=
  withFingerprint typeBindingRequest tx (requestAttrs mac tx username key)

/-- A datagram on a network that carries so many bytes. A longer one is not sent: the server drops
the error. -/
def transmit (limit : Nat) (raw : Bytes) : Option Bytes :=
  if raw.length ≤ limit then some raw else none

theorem transmit_eq_some_iff {limit : Nat} {raw got : Bytes} :
    transmit limit raw = some got ↔ raw.length ≤ limit ∧ raw = got := by
  simp [transmit]

/-- What a read of a datagram into the buffer of either end keeps. -/
def received (raw : Bytes) : Bytes := raw.take 65535

inductive BootstrapError where
  | parse (error : ParseError)
  | notBindingOK
  | txMismatch
  | notAuthenticated

/-- The snapshot in an answer, as `Bootstrap` takes it before verifying it. -/
def readAnswer (tx raw : Bytes) : Except BootstrapError Bytes :=
  match parse (received raw) with
  | .error error => .error (.parse error)
  | .ok msg =>
    if msg.typ ≠ typeBindingSuccess then .error .notBindingOK
    else if msg.tx ≠ tx then .error .txMismatch
    else
      match msg.get attrSnapshot with
      | none => .error .notAuthenticated
      | some signed => .ok signed

variable {attrs : List Attribute}

theorem parseAttrs_encodeAttrs (fit : ∀ attr ∈ attrs, attr.Fits) {rounds : Nat}
    (enough : (encodeAttrs attrs).length ≤ rounds) :
    parseAttrs rounds (encodeAttrs attrs) = attrs := by
  induction attrs generalizing rounds with
  | nil =>
    cases rounds with
    | zero | succ => rfl
  | cons attr attrs ih =>
    have split : encodeAttrs (attr :: attrs) = attr.encode ++ encodeAttrs attrs := rfl
    rw [split, length_append, attr.length_encode, Attribute.size] at enough
    obtain ⟨rounds, rfl⟩ := Nat.exists_eq_add_one.mpr (show 0 < rounds by omega)
    rw [split, parseAttrs_encode (fit attr (.head _)),
      ih (fun later member => fit later (.tail _ member)) (by omega)]

/-- The attributes that are sent, FINGERPRINT included. -/
def checked (typ : Nat) (tx : Bytes) (attrs : List Attribute) : List Attribute :=
  attrs ++ [⟨attrFingerprint, fingerprint
    (encodeHeader typ tx ((encodeAttrs attrs).length + fingerprintAttrLen) ++ encodeAttrs attrs)⟩]

theorem length_checked (typ : Nat) (tx : Bytes) (attrs : List Attribute) :
    (encodeAttrs (checked typ tx attrs)).length =
      (encodeAttrs attrs).length + fingerprintAttrLen := by
  unfold checked
  rw [length_encodeAttrs_append]
  simp [Attribute.size, fingerprint, bigEndian, padding, fingerprintAttrLen]

theorem withFingerprint_eq (typ : Nat) (tx : Bytes) (attrs : List Attribute) :
    withFingerprint typ tx attrs =
      encodeHeader typ tx ((encodeAttrs attrs).length + fingerprintAttrLen) ++
        encodeAttrs (checked typ tx attrs) := by
  rw [← length_checked typ tx]
  rfl

variable {tx : Bytes}

/-- A message whose lengths fit their fields is read as it was built. -/
theorem parse_withFingerprint {typ : Nat} (typed : typ < 2 ^ 16) (addressed : tx.length = 12)
    (fit : ∀ attr ∈ attrs, attr.Fits)
    (small : (encodeAttrs attrs).length + fingerprintAttrLen < 2 ^ 16) :
    parse (withFingerprint typ tx attrs) = .ok ⟨typ, tx, checked typ tx attrs⟩ := by
  have whole := length_checked typ tx attrs
  rw [withFingerprint_eq, parse_encodeHeader typed addressed small whole,
    parseAttrs_encodeAttrs ?_ whole.le]
  intro attr member
  rcases mem_append.mp member with given | last
  · exact fit attr given
  · rw [mem_singleton.mp last]
    exact ⟨by simp [attrFingerprint], by simp [fingerprint, bigEndian]⟩

section

variable {mac : Mac} {secrets : SecretStore} {tx username secret : Bytes}
  (sized : username.length = 2 * secretIDLen)

include sized

theorem length_requestAttrs :
    (encodeAttrs (requestAttrs mac tx username (some secret))).length = 44 := by
  simp [encodeAttrs, requestAttrs, Attribute.length_encode, Attribute.size, mac.sized, sized,
    secretIDLen, padding]

theorem parse_buildRequest (addressed : tx.length = 12) :
    parse (buildRequest mac tx username (some secret)) = .ok ⟨typeBindingRequest, tx,
        checked typeBindingRequest tx (requestAttrs mac tx username (some secret))⟩ := by
  refine parse_withFingerprint (by decide) addressed ?_ ?_
  · intro attr member
    simp only [requestAttrs, mem_cons, not_mem_nil, or_false] at member
    rcases member with rfl | rfl
    · exact ⟨by simp [attrUsername], by simp [sized, secretIDLen]⟩
    · exact ⟨by simp [attrMessageIntegrity], by simp [mac.sized]⟩
  · rw [length_requestAttrs sized]
    decide

/-- The server recomputes the code over the bytes the client took it of. -/
theorem authenticates_buildRequest
    (addressed : tx.length = 12) (registered : secrets username = some secret) :
    authenticates mac secrets (buildRequest mac tx username (some secret)) ⟨typeBindingRequest, tx,
        checked typeBindingRequest tx (requestAttrs mac tx username (some secret))⟩ := by
  have parsed := @parse_buildRequest mac tx username secret sized addressed
  have userSize : Attribute.size ⟨attrUsername, username⟩ = 20 := by
    simp [Attribute.size, sized, secretIDLen, padding]
  let code := mac.code secret (encodeHeader typeBindingRequest tx
    ((encodeAttrs [⟨attrUsername, username⟩]).length + messageIntegrityAttrLen) ++
      encodeAttrs [⟨attrUsername, username⟩])
  have found : findIntegrity
      (checked typeBindingRequest tx (requestAttrs mac tx username (some secret))) =
      some (20, code) := by
    simp [checked, requestAttrs, findIntegrity, attrUsername, attrMessageIntegrity, ← userSize,
      code]
  obtain ⟨inside, located⟩ := integrity_located parsed found
  rw [mac.sized] at inside located
  refine (authenticates_iff parsed).mpr
    ⟨username, secret, 20, code, ?_, registered, found, inside, ?_⟩
  · simp [Message.get, checked, requestAttrs]
  · rw [located]
    refine congrArg (mac.code secret) ?_
    -- The bytes before the code, under a header whose length ends with it.
    let user : Attribute := ⟨attrUsername, username⟩
    have raw : buildRequest mac tx username (some secret) =
        (putUint16 typeBindingRequest ++ putUint16 52) ++ (magicCookie ++ tx ++ user.encode) ++
          encodeAttrs (checked typeBindingRequest tx
            (requestAttrs mac tx username (some secret))).tail := by
      rw [buildRequest, withFingerprint_eq, length_requestAttrs sized]
      simp [encodeHeader, checked, requestAttrs, encodeAttrs, user, fingerprintAttrLen]
    have before : (putUint16 typeBindingRequest ++ putUint16 52 ++
        (magicCookie ++ tx ++ user.encode)).length = headerLen + 20 := by
      simp [putUint16, magicCookie, addressed, user.length_encode, user, userSize, headerLen]
    have behind : (putUint16 typeBindingRequest ++ putUint16 52 ++
        (magicCookie ++ tx ++ user.encode)).drop 4 = magicCookie ++ tx ++ user.encode :=
      drop_left' rfl
    rw [adjusted, raw, take_left' before, behind]
    simp [encodeHeader, encodeAttrs, user.length_encode, user, userSize, putUint16]

end

/-- The bytes of an address in an answer. -/
def AddrPort.encodedLen (src : AddrPort) : Nat :=
  match src.addr.getD (.v4 0) with
  | .v4 _ => 8
  | .v6 _ _ => 20

/-- The bytes of the answer to an authenticated request. -/
def answerLen (src : AddrPort) (snapshot : Bytes) : Nat :=
  headerLen + (4 + src.encodedLen) + (4 + snapshot.length + padding snapshot.length) +
    fingerprintAttrLen

theorem encodedLen_cases (src : AddrPort) : src.encodedLen = 8 ∨ src.encodedLen = 20 := by
  unfold AddrPort.encodedLen
  cases src.addr.getD (.v4 0) with
  | v4 => exact .inl rfl
  | v6 => exact .inr rfl

theorem length_encodeXORMapped (addressed : tx.length = 12) (src : AddrPort) :
    (encodeXORMapped src tx).length = src.encodedLen := by
  unfold encodeXORMapped AddrPort.encodedLen
  cases src.addr.getD (.v4 0) with
  | v4 => simp [putUint16, bigEndian, magicCookie]
  | v6 => simp [putUint16, bigEndian, magicCookie, addressed]

theorem length_responseAttrs (addressed : tx.length = 12) (src : AddrPort) (snapshot : Bytes) :
    headerLen + (encodeAttrs (responseAttrs tx src (some snapshot))).length +
      fingerprintAttrLen = answerLen src snapshot := by
  have addr := length_encodeXORMapped addressed src
  have aligned : padding src.encodedLen = 0 := by
    rcases encodedLen_cases src with four | six
    · rw [four]
      rfl
    · rw [six]
      rfl
  simp only [encodeAttrs, responseAttrs, map_some, toList_some,
    flatMap_cons, flatMap_nil, append_nil, length_append,
    Attribute.length_encode, Attribute.size, addr, aligned, answerLen]
  omega

/-- An attribute lies within the section that the header declares. -/
theorem length_le_of_mem_parseAttrs {rounds : Nat} {rest : Bytes} {attr : Attribute}
    (member : attr ∈ parseAttrs rounds rest) : attr.val.length + 4 ≤ rest.length := by
  induction rounds generalizing rest with
  | zero => cases member
  | succ rounds ih =>
    unfold parseAttrs at member
    dsimp only at member
    split_ifs at member with short cut padded
    · cases member
    · cases member
    · rw [mem_singleton.mp member, length_take, length_drop]
      omega
    · rcases mem_cons.mp member with rfl | later
      · rw [length_take, length_drop]
        omega
      · have inside := ih later
        rw [length_drop] at inside
        omega

/-- Only the lowest 16 bits of a length are written. -/
theorem uint16_encodeHeader (typ : Nat) (tx body : Bytes) (attrLen : Nat) :
    uint16 (encodeHeader typ tx attrLen ++ body) 2 = attrLen % 2 ^ 16 := by
  have wraps : putUint16 attrLen = putUint16 (attrLen % 2 ^ 16) := by
    simp only [putUint16, cons.injEq, and_true]
    constructor
    all_goals
      apply UInt8.toNat_inj.mp
      rw [UInt8.toNat_ofNat', UInt8.toNat_ofNat']
      omega
  unfold encodeHeader
  simp only [append_assoc]
  rw [← length_putUint16 typ, ← Nat.add_zero (putUint16 typ).length, uint16_append, wraps]
  exact uint16_putUint16 (Nat.mod_lt _ (by decide)) _

/-- What a client reads is no longer than the section its header declares. -/
theorem readAnswer_bounds {raw signed : Bytes} (read : readAnswer tx raw = .ok signed) :
    headerLen + uint16 (received raw) 2 ≤ (received raw).length ∧
      signed.length + 4 ≤ uint16 (received raw) 2 := by
  unfold readAnswer at read
  cases parsed : parse (received raw) with
  | error =>
    rw [parsed] at read
    cases read
  | ok msg =>
    obtain ⟨whole, attrs⟩ := parse_cases parsed
    simp only [parsed] at read
    split_ifs at read
    split at read
    · cases read
    · next got =>
      cases read
      obtain ⟨_, found, rfl⟩ := map_eq_some_iff.mp got
      have member := mem_of_find?_eq_some found
      rw [attrs] at member
      have inside := length_le_of_mem_parseAttrs member
      rw [attrSection, length_take] at inside
      exact ⟨whole, by omega⟩

theorem length_buildResponse (addressed : tx.length = 12) (src : AddrPort) (snapshot : Bytes) :
    (buildResponse tx src (some snapshot)).length = answerLen src snapshot := by
  rw [buildResponse, length_withFingerprint, addressed,
    ← length_responseAttrs addressed src snapshot]
  rfl

/-- The client reads the snapshot out of the answer exactly when its buffer takes the answer. -/
theorem readAnswer_buildResponse (addressed : tx.length = 12) (src : AddrPort) (snapshot : Bytes) :
    readAnswer tx (buildResponse tx src (some snapshot)) = .ok snapshot ↔
      answerLen src snapshot ≤ 65535 := by
  have total := length_responseAttrs addressed src snapshot
  have length := length_buildResponse addressed src snapshot
  have addr := encodedLen_cases src
  have padded : padding snapshot.length < 4 := by
    unfold padding
    split_ifs <;> omega
  have bound : answerLen src snapshot =
    20 + (4 + src.encodedLen) + (4 + snapshot.length + padding snapshot.length) + 8 := rfl
  constructor
  · intro read
    obtain ⟨whole, _⟩ := readAnswer_bounds read
    by_contra long
    have cut : (received (buildResponse tx src (some snapshot))).length = 65535 := by
      rw [received, length_take, length]
      omega
    have declared : uint16 (received (buildResponse tx src (some snapshot))) 2 =
        (answerLen src snapshot - 20) % 2 ^ 16 := by
      have header : (encodeHeader typeBindingSuccess tx ((encodeAttrs (responseAttrs tx src
          (some snapshot))).length + fingerprintAttrLen)).length = 20 := by
        simp [encodeHeader, putUint16, magicCookie, addressed]
      rw [received, buildResponse, withFingerprint_eq, take_append,
        take_of_length_le (by omega), uint16_encodeHeader]
      change 20 + _ + _ = _ at total
      congr 1
      omega
    change 20 + _ ≤ _ at whole
    omega
  · intro short
    have kept : received (buildResponse tx src (some snapshot)) =
        buildResponse tx src (some snapshot) :=
      take_of_length_le (length ▸ short)
    have parsed : parse (buildResponse tx src (some snapshot)) = .ok ⟨typeBindingSuccess, tx,
          checked typeBindingSuccess tx (responseAttrs tx src (some snapshot))⟩ := by
      refine parse_withFingerprint (by decide) addressed ?_ ?_
      · intro attr member
        simp only [responseAttrs, map_some, toList_some, mem_cons,
          not_mem_nil, or_false] at member
        rcases member with rfl | rfl
        · refine ⟨by simp [attrXORMappedAddress], ?_⟩
          rw [length_encodeXORMapped addressed]
          omega
        · refine ⟨by simp [attrSnapshot], ?_⟩
          change snapshot.length < 2 ^ 16
          omega
      · omega
    simp [readAnswer, kept, parsed, Message.get, checked, responseAttrs, attrXORMappedAddress,
      attrSnapshot]

section

variable {mac : Mac} {secrets : SecretStore} {tx username secret : Bytes}

/-- The server answers the client's own request with the snapshot. -/
theorem handleRequest_buildRequest (sized : username.length = 2 * secretIDLen)
    (addressed : tx.length = 12) (registered : secrets username = some secret)
    (src : AddrPort) (snapshot : Bytes) :
    handleRequest mac (received (buildRequest mac tx username (some secret))) src secrets
        (some snapshot) = some (buildResponse tx src (some snapshot)) := by
  have kept : received (buildRequest mac tx username (some secret)) =
      buildRequest mac tx username (some secret) := by
    refine take_of_length_le ?_
    rw [buildRequest, length_withFingerprint, length_requestAttrs sized, addressed]
    decide
  rw [kept, handleRequest, parse_buildRequest sized addressed]
  simp [authenticates_buildRequest sized addressed registered]

/-- On a network that carries the request, the client gets exactly the snapshot if and only if the
answer fits into a datagram and into its buffer. -/
theorem bootstrap_reads_snapshot_iff (sized : username.length = 2 * secretIDLen)
    (addressed : tx.length = 12) (registered : secrets username = some secret)
    (src : AddrPort) (snapshot : Bytes) {limit : Nat} (carries : 72 ≤ limit) :
    (∃ req answer raw,
        transmit limit (buildRequest mac tx username (some secret)) = some req ∧
        handleRequest mac (received req) src secrets (some snapshot) = some answer ∧
        transmit limit answer = some raw ∧ readAnswer tx raw = .ok snapshot) ↔
      headerLen + (4 + src.encodedLen) + (4 + snapshot.length + padding snapshot.length) +
        fingerprintAttrLen ≤ min limit 65535 := by
  have length : (buildResponse tx src (some snapshot)).length = headerLen +
      (4 + src.encodedLen) + (4 + snapshot.length + padding snapshot.length) +
        fingerprintAttrLen := length_buildResponse addressed src snapshot
  have handled := @handleRequest_buildRequest mac _ _ _ _ sized addressed registered src snapshot
  have fits := readAnswer_buildResponse addressed src snapshot
  constructor
  · rintro ⟨_, _, _, asked, answered, sent, read⟩
    obtain ⟨_, rfl⟩ := transmit_eq_some_iff.mp asked
    cases handled.symm.trans answered
    obtain ⟨short, rfl⟩ := transmit_eq_some_iff.mp sent
    exact le_min (length ▸ short) (fits.mp read)
  · intro small
    obtain ⟨short, small⟩ := le_min_iff.mp small
    have asked : (buildRequest mac tx username (some secret)).length ≤ limit := by
      rw [buildRequest, length_withFingerprint, length_requestAttrs sized, addressed]
      exact carries
    exact ⟨_, _, _, transmit_eq_some_iff.mpr ⟨asked, rfl⟩, handled,
      transmit_eq_some_iff.mpr ⟨length ▸ short, rfl⟩, fits.mpr small⟩

end

/-- A code of twenty zeros. -/
def zeroMac : Mac := ⟨fun _ _ => List.replicate 20 0, fun _ _ => by simp⟩

/-- A snapshot of two bytes. -/
theorem small_snapshot_is_read :
    ∃ req answer raw,
      transmit 65507
          (buildRequest zeroMac (List.replicate 12 7) (List.replicate 16 48) (some [1])) =
        some req ∧
      handleRequest zeroMac (received req) ⟨none, 0⟩ (fun _ => some [1]) (some [2, 3]) =
        some answer ∧
      transmit 65507 answer = some raw ∧ readAnswer (List.replicate 12 7) raw = .ok [2, 3] :=
  (@bootstrap_reads_snapshot_iff zeroMac (fun _ => some [1]) (replicate 12 7)
    (replicate 16 48) [1] rfl rfl rfl ⟨none, 0⟩ [2, 3] 65507 (by decide)).mpr
    (by simp [AddrPort.encodedLen, padding, headerLen, fingerprintAttrLen])

/-- A snapshot of 66000 bytes is lost whatever the network carries: it is not sent, or it is sent
under a length that has wrapped around. -/
theorem large_snapshot_is_lost :
    ¬∃ limit req answer raw,
      transmit limit
          (buildRequest zeroMac (List.replicate 12 7) (List.replicate 16 48) (some [1])) =
        some req ∧
      handleRequest zeroMac (received req) ⟨none, 0⟩ (fun _ => some [1])
        (some (List.replicate 66000 2)) = some answer ∧
      transmit limit answer = some raw ∧
      readAnswer (List.replicate 12 7) raw = .ok (List.replicate 66000 2) := by
  rintro ⟨limit, req, answer, raw, asked, answered, sent, read⟩
  obtain ⟨_, rfl⟩ := transmit_eq_some_iff.mp asked
  obtain ⟨_, rfl⟩ := transmit_eq_some_iff.mp sent
  rw [@handleRequest_buildRequest zeroMac (fun _ => some [1]) (replicate 12 7)
    (replicate 16 48) [1] rfl rfl rfl] at answered
  rw [← some.inj answered] at read
  have short := (readAnswer_buildResponse rfl _ _).mp read
  rw [answerLen, length_replicate] at short
  omega

end Bacchus.Coldstart
