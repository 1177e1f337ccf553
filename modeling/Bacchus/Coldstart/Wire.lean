import Bacchus.Net.Netip
import Bacchus.Text.Hex

/-!
# The STUN messages of the cold start

Binding Requests and Responses: a header of 20 bytes and attributes padded to four. The parser
and the search for MESSAGE-INTEGRITY walk the attributes alike; both stop at one that does not
fit.
-/

namespace Bacchus.Coldstart

open List

def headerLen : Nat := 20

def typeBindingRequest : Nat := 0x0001
def typeBindingSuccess : Nat := 0x0101

def attrUsername : Nat := 0x0006
def attrMessageIntegrity : Nat := 0x0008
def attrXORMappedAddress : Nat := 0x0020
def attrFingerprint : Nat := 0x8028
def attrSnapshot : Nat := 0xC001
def attrProof : Nat := 0xC002

def messageIntegrityAttrLen : Nat := 4 + 20
def fingerprintAttrLen : Nat := 4 + 4

def magicCookie : Bytes := [0x21, 0x12, 0xA4, 0x42]

/-- The big-endian number of 16 bits at an offset. -/
def uint16 (bytes : Bytes) (offset : Nat) : Nat :=
  (bytes.getD offset 0).toNat * 256 + (bytes.getD (offset + 1) 0).toNat

/-- `PutUint16`, of the lowest 16 bits. -/
def putUint16 (value : Nat) : Bytes := [.ofNat (value / 256), .ofNat value]

/-- The lowest `count` bytes of a number, the highest one first. -/
def bigEndian (count value : Nat) : Bytes :=
  (range count).map fun index => .ofNat (value / 256 ^ (count - 1 - index))

/-- A STUN attribute. -/
structure Attribute where
  typ : Nat
  val : Bytes

/-- A STUN message. -/
structure Message where
  typ : Nat
  /-- The transaction id, of 12 bytes. -/
  tx : Bytes
  attrs : List Attribute

/-- The value of the first attribute of a type. -/
def Message.get (msg : Message) (typ : Nat) : Option Bytes :=
  (msg.attrs.find? fun attr => attr.typ = typ).map Attribute.val

/-- The bytes that round a value up to a multiple of four. -/
def padding (length : Nat) : Nat := if length % 4 ≠ 0 then 4 - length % 4 else 0

/-- The bytes an attribute takes up. -/
def Attribute.size (attr : Attribute) : Nat :=
  4 + attr.val.length + padding attr.val.length

def Attribute.encode (attr : Attribute) : Bytes :=
  putUint16 attr.typ ++ putUint16 attr.val.length ++ attr.val ++
    replicate (padding attr.val.length) 0

def encodeAttrs (attrs : List Attribute) : Bytes := attrs.flatMap Attribute.encode

def encodeHeader (typ : Nat) (tx : Bytes) (attrLen : Nat) : Bytes :=
  putUint16 typ ++ putUint16 attrLen ++ magicCookie ++ tx

/-- `netip.AddrPort`; the address is none when it is not valid. -/
structure AddrPort where
  addr : Option Netip.Addr
  port : UInt16

/-- An address that is not valid is sent as `0.0.0.0`. -/
def encodeXORMapped (src : AddrPort) (tx : Bytes) : Bytes :=
  let port := putUint16 (src.port ^^^ 0x2112).toNat
  match src.addr.getD (.v4 0) with
  | .v4 bits => [0, 1] ++ port ++ zipWith (· ^^^ ·) (bigEndian 4 bits.toNat) magicCookie
  | .v6 bits _ =>
    [0, 2] ++ port ++ zipWith (· ^^^ ·) (bigEndian 16 bits.toNat) (magicCookie ++ tx)

def crcByte (crc : UInt32) (byte : UInt8) : UInt32 :=
  (range 8).foldl
    (fun crc _ => if crc &&& 1 = 1 then (crc >>> 1) ^^^ 0xEDB88320 else crc >>> 1)
    (crc ^^^ byte.toUInt32)

def checksumIEEE (bytes : Bytes) : UInt32 := bytes.foldl crcByte 0xFFFFFFFF ^^^ 0xFFFFFFFF

-- The check value of the polynomial, over the digits one to nine.
example : checksumIEEE [0x31, 0x32, 0x33, 0x34, 0x35, 0x36, 0x37, 0x38, 0x39] = 0xCBF43926 := by
  decide +kernel

def fingerprint (msg : Bytes) : Bytes :=
  bigEndian 4 (checksumIEEE msg ^^^ 0x5354554e).toNat

/-- Close a message with the FINGERPRINT of everything before it. -/
def withFingerprint (typ : Nat) (tx : Bytes) (attrs : List Attribute) : Bytes :=
  let body := encodeAttrs attrs
  let checked := encodeHeader typ tx (body.length + fingerprintAttrLen) ++ body
  let sealed := encodeAttrs (attrs ++ [⟨attrFingerprint, fingerprint checked⟩])
  encodeHeader typ tx sealed.length ++ sealed

/-- The attributes of a response before its FINGERPRINT. -/
def responseAttrs (tx : Bytes) (src : AddrPort) (snapshot : Option Bytes) : List Attribute :=
  ⟨attrXORMappedAddress, encodeXORMapped src tx⟩ ::
    (snapshot.map fun signed => ⟨attrSnapshot, signed⟩).toList

/-- The answer, with a snapshot if there is one. -/
def buildResponse (tx : Bytes) (src : AddrPort) (snapshot : Option Bytes) : Bytes :=
  withFingerprint typeBindingSuccess tx (responseAttrs tx src snapshot)

inductive ParseError where
  | shortMessage
  | badCookie
  | badLength

/-- The loop over the attributes. Every round takes four bytes or more off `rest`, whose length
bounds the rounds. -/
def parseAttrs : (rounds : Nat) → (rest : Bytes) → List Attribute
  | 0, _ => []
  | rounds + 1, rest =>
    let length := uint16 rest 2
    if rest.length < 4 then []
    else if rest.length < 4 + length then []
    else
      ⟨uint16 rest 0, (rest.drop 4).take length⟩ ::
        if rest.length < 4 + length + padding length then []
        else parseAttrs rounds (rest.drop (4 + length + padding length))

/-- The attribute section of a message that holds all of it. -/
def attrSection (raw : Bytes) : Bytes := (raw.drop headerLen).take (uint16 raw 2)

/-- Read a message, its header first. -/
def parse (raw : Bytes) : Except ParseError Message :=
  if raw.length < headerLen then .error .shortMessage
  else if (raw.drop 4).take 4 ≠ magicCookie then .error .badCookie
  else if raw.length < headerLen + uint16 raw 2 then .error .badLength
  else .ok
    { typ := uint16 raw 0
      tx := (raw.drop 8).take 12
      attrs := parseAttrs (attrSection raw).length (attrSection raw) }

/-- A field of two bytes. -/
theorem length_putUint16 (value : Nat) : (putUint16 value).length = 2 := rfl

/-- A field that fits is read back. -/
theorem uint16_putUint16 {value : Nat} (small : value < 2 ^ 16) (rest : Bytes) :
    uint16 (putUint16 value ++ rest) 0 = value := by
  have high : (UInt8.ofNat (value / 256)).toNat = value / 256 := by
    rw [UInt8.toNat_ofNat', Nat.mod_eq_of_lt]
    omega
  have low : (UInt8.ofNat value).toNat = value % 256 := UInt8.toNat_ofNat'
  change (UInt8.ofNat (value / 256)).toNat * 256 + (UInt8.ofNat value).toNat = value
  omega

/-- A field is read at its offset. -/
theorem uint16_append (before rest : Bytes) (offset : Nat) :
    uint16 (before ++ rest) (before.length + offset) = uint16 rest offset := by
  have there : ∀ index, (before ++ rest).getD (before.length + index) 0 = rest.getD index 0 := by
    intro index
    rw [getD_eq_getElem?_getD, getD_eq_getElem?_getD,
      getElem?_append_right (Nat.le_add_right _ _), Nat.add_sub_cancel_left]
  unfold uint16
  rw [Nat.add_assoc, there, there]

/-- The encoding has the size it counts. -/
theorem Attribute.length_encode (attr : Attribute) : attr.encode.length = attr.size := by
  simp only [Attribute.encode, Attribute.size, putUint16, length_append, length_cons,
    length_nil, length_replicate]

/-- Type and length fit in their fields. -/
def Attribute.Fits (attr : Attribute) : Prop := attr.typ < 2 ^ 16 ∧ attr.val.length < 2 ^ 16

variable {attr : Attribute}

/-- An encoded attribute is read back, then the rest. -/
theorem parseAttrs_encode (fits : attr.Fits) (rounds : Nat) (rest : Bytes) :
    parseAttrs (rounds + 1) (attr.encode ++ rest) = attr :: parseAttrs rounds rest := by
  have typ : uint16 (attr.encode ++ rest) 0 = attr.typ := by
    exact uint16_putUint16 fits.1 _
  have length : uint16 (attr.encode ++ rest) 2 = attr.val.length := by
    unfold Attribute.encode
    rw [append_assoc, append_assoc, append_assoc]
    rw [← length_putUint16 attr.typ, ← Nat.add_zero (putUint16 attr.typ).length, uint16_append]
    exact uint16_putUint16 fits.2 _
  have value : ((attr.encode ++ rest).drop 4).take attr.val.length = attr.val := by
    have split : attr.encode ++ rest = (putUint16 attr.typ ++ putUint16 attr.val.length) ++
          (attr.val ++ (replicate (padding attr.val.length) 0 ++ rest)) := by
      simp only [Attribute.encode, append_assoc]
    have header : (putUint16 attr.typ ++ putUint16 attr.val.length).length = 4 := rfl
    rw [split, drop_left' header, take_left' rfl]
  have total : (attr.encode ++ rest).length =
      4 + attr.val.length + padding attr.val.length + rest.length := by
    rw [length_append, attr.length_encode, Attribute.size]
  have behind : (attr.encode ++ rest).drop (4 + attr.val.length + padding attr.val.length) =
      rest := drop_left' attr.length_encode
  rw [parseAttrs, typ, length, value, behind, if_neg (by omega), if_neg (by omega),
    if_neg (by omega)]

/-- A message is read back from its header and body. -/
theorem parse_encodeHeader {typ attrLen : Nat} {tx body : Bytes} (typed : typ < 2 ^ 16)
    (addressed : tx.length = 12) (small : attrLen < 2 ^ 16) (whole : body.length = attrLen) :
    parse (encodeHeader typ tx attrLen ++ body) = .ok ⟨typ, tx, parseAttrs attrLen body⟩ := by
  have header : (encodeHeader typ tx attrLen).length = headerLen := by
    simp only [encodeHeader, length_append, length_putUint16, magicCookie, length_cons,
      length_nil, addressed, headerLen]
  have typeRead : uint16 (encodeHeader typ tx attrLen ++ body) 0 = typ := by
    exact uint16_putUint16 typed _
  have lengthRead : uint16 (encodeHeader typ tx attrLen ++ body) 2 = attrLen := by
    unfold encodeHeader
    simp only [append_assoc]
    rw [← length_putUint16 typ, ← Nat.add_zero (putUint16 typ).length, uint16_append]
    exact uint16_putUint16 small _
  have cookieRead : ((encodeHeader typ tx attrLen ++ body).drop 4).take 4 = magicCookie := rfl
  have txRead : ((encodeHeader typ tx attrLen ++ body).drop 8).take 12 = tx :=
    take_left' addressed
  have sectionRead : attrSection (encodeHeader typ tx attrLen ++ body) = body := by
    unfold attrSection
    rw [lengthRead, drop_left' header, take_of_length_le (Nat.le_of_eq whole)]
  unfold parse
  rw [sectionRead, lengthRead, typeRead, cookieRead, txRead, length_append, header, whole,
    if_neg (by omega), if_neg (by simp), if_neg (by omega)]

/-- HMAC-SHA1, of which only the length of its values is used. -/
structure Mac where
  code : (key msg : Bytes) → Bytes
  sized : ∀ key msg, (code key msg).length = 20

/-- The loop of `messageIntegrityOffset`, over the attributes from an offset on. -/
def integrityWalk : (rounds : Nat) → (rest : Bytes) → (offset : Nat) → Option Nat
  | 0, _, _ => none
  | rounds + 1, rest, offset =>
    let length := uint16 rest 2
    if rest.length < 4 then none
    else if rest.length < 4 + length then none
    else if uint16 rest 0 = attrMessageIntegrity then some offset
    else if rest.length < 4 + length + padding length then none
    else integrityWalk rounds (rest.drop (4 + length + padding length))
      (offset + (4 + length + padding length))

/-- The offset of the MESSAGE-INTEGRITY attribute's header, if there is one. -/
def messageIntegrityOffset (raw : Bytes) : Option Nat :=
  if raw.length < headerLen then none
  else integrityWalk (attrSection raw).length (attrSection raw) headerLen

/-- The bytes before an offset, in a header whose length ends with the MESSAGE-INTEGRITY attribute
there. -/
def adjusted (raw : Bytes) (offset : Nat) : Bytes :=
  raw.take 2 ++ putUint16 (offset - headerLen + messageIntegrityAttrLen) ++ (raw.take offset).drop 4

/-- The twenty bytes after the attribute's header are compared, whatever its length says. -/
def verifyMessageIntegrity (mac : Mac) (raw : Bytes) (offset : Nat) (key : Bytes) : Bool :=
  if offset < headerLen ∨ raw.length < offset + 4 + 20 then false
  else mac.code key (adjusted raw offset) = (raw.drop (offset + 4)).take 20

/-- The first MESSAGE-INTEGRITY attribute: the bytes before it, and its value. -/
def findIntegrity : List Attribute → Option (Nat × Bytes)
  | [] => none
  | attr :: rest =>
    if attr.typ = attrMessageIntegrity then some (0, attr.val)
    else (findIntegrity rest).map fun found => (attr.size + found.1, found.2)

/-- The search finds the attribute that the parser would, where it is. -/
theorem integrityWalk_eq (rounds : Nat) (rest : Bytes) (offset : Nat) :
    integrityWalk rounds rest offset =
      (findIntegrity (parseAttrs rounds rest)).map fun found => offset + found.1 := by
  induction rounds generalizing rest offset with
  | zero => rfl
  | succ rounds ih =>
    unfold integrityWalk parseAttrs
    dsimp only
    split_ifs with short cut integrity padded padded
    · rfl
    · rfl
    · simp [findIntegrity, integrity]
    · simp [findIntegrity, integrity]
    · simp [findIntegrity, integrity]
    · have length : ((rest.drop 4).take (uint16 rest 2)).length = uint16 rest 2 := by
        rw [length_take, length_drop]
        omega
      rw [ih]
      simp only [findIntegrity, integrity, if_false, Option.map_map]
      congr 1
      funext found
      simp only [Function.comp_apply, Attribute.size, length]
      omega

variable {offset : Nat} {value : Bytes}

theorem findIntegrity_cons {rest : List Attribute}
    (found : findIntegrity (attr :: rest) = some (offset, value)) :
    offset = 0 ∧ attr.val = value ∨
      ∃ later, findIntegrity rest = some (later, value) ∧ offset = attr.size + later := by
  unfold findIntegrity at found
  split_ifs at found
  · cases found
    exact .inl ⟨rfl, rfl⟩
  · obtain ⟨⟨later, _⟩, there, same⟩ := Option.map_eq_some_iff.mp found
    cases same
    exact .inr ⟨later, there, rfl⟩

/-- The value that the parser reads stands behind the header of its attribute. -/
theorem findIntegrity_located {rounds : Nat} {rest : Bytes}
    (found : findIntegrity (parseAttrs rounds rest) = some (offset, value)) :
    offset + 4 + value.length ≤ rest.length ∧
      (rest.drop (offset + 4)).take value.length = value := by
  induction rounds generalizing rest offset with
  | zero => cases found
  | succ rounds ih =>
    unfold parseAttrs at found
    by_cases short : rest.length < 4
    · rw [if_pos short] at found
      cases found
    by_cases cut : rest.length < 4 + uint16 rest 2
    · rw [if_neg short, if_pos cut] at found
      cases found
    rw [if_neg short, if_neg cut] at found
    have length : ((rest.drop 4).take (uint16 rest 2)).length = uint16 rest 2 := by
      rw [length_take, length_drop]
      omega
    rcases findIntegrity_cons found with ⟨rfl, rfl⟩ | ⟨later, there, rfl⟩
    · rw [length, Nat.zero_add]
      exact ⟨by omega, rfl⟩
    split_ifs at there with padded
    · cases there
    obtain ⟨inside, located⟩ := ih there
    rw [length_drop] at inside
    rw [drop_drop] at located
    simp only [Attribute.size, length]
    constructor
    · omega
    · rw [Nat.add_assoc _ later 4]
      exact located

variable {raw : Bytes} {msg : Message}

/-- What is parsed is whole. -/
theorem parse_cases (parsed : parse raw = .ok msg) :
    headerLen + uint16 raw 2 ≤ raw.length ∧
      msg.attrs = parseAttrs (attrSection raw).length (attrSection raw) := by
  unfold parse at parsed
  split_ifs at parsed with short cookie cut
  cases parsed
  exact ⟨Nat.not_lt.mp cut, rfl⟩

/-- In a message that parses, the search finds the parser's MESSAGE-INTEGRITY attribute. -/
theorem messageIntegrityOffset_eq (parsed : parse raw = .ok msg) :
    messageIntegrityOffset raw =
      (findIntegrity msg.attrs).map fun found => headerLen + found.1 := by
  obtain ⟨_, attrs⟩ := parse_cases parsed
  unfold messageIntegrityOffset
  rw [if_neg (by omega), attrs]
  exact integrityWalk_eq _ _ _

/-- Its value stands in the received bytes, behind its header. -/
theorem integrity_located (parsed : parse raw = .ok msg)
    (found : findIntegrity msg.attrs = some (offset, value)) :
    headerLen + offset + 4 + value.length ≤ raw.length ∧
      (raw.drop (headerLen + offset + 4)).take value.length = value := by
  obtain ⟨_, attrs⟩ := parse_cases parsed
  rw [attrs] at found
  obtain ⟨inside, located⟩ := findIntegrity_located found
  unfold attrSection at inside located
  rw [length_take, length_drop] at inside
  constructor
  · omega
  · rw [drop_take, take_take, drop_drop, ← Nat.add_assoc] at located
    rw [Nat.min_eq_left (by omega)] at located
    exact located

end Bacchus.Coldstart
