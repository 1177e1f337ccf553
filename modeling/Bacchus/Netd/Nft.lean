import Bacchus.Netd.Kernel
import Bacchus.Semantics.ByteOrder
import Bacchus.Text.Hex

/-!
# The lockdown as register programs

The messages of `enableKillSwitch` as `nft.go` encodes them: every rule a program over the
registers of nftables. Against them stands what nftables does with such messages and a packet. The
transaction of the helper's model is this one with numbers in place of bytes.
-/

namespace Bacchus.Netd

open Netip Function Table Word Option

namespace Nft

def nftTableName : String := "bacchus"
def nftChainName : String := "output"
def nftAllowSet : String := "allow4"
def nftServeSet : String := "serve4"

def nftMetaOIF : Nat := 5
def nftMetaNFProto : Nat := 15
def nftMetaL4Proto : Nat := 16

def nftPayloadNetworkHeader : Nat := 1
def nftPayloadTransportHeader : Nat := 2

def nftRegVerdict : Nat := 0
def nftReg1 : Nat := 1

def nftCmpEQ : Nat := 0

def nfDrop : Nat := 0
def nfAccept : Nat := 1

def nfprotoIPv4 : UInt8 := 2
def ipprotoUDP : UInt8 := 17

def nfInetLocalOut : Nat := 3
def nfFilterPriority : Nat := 0
def nfprotoInet : Nat := 1

/-- One expression with the attributes it carries. -/
inductive RawExpr where
  | metaLoad (key dreg : Nat)
  | payload (dreg base offset length : Nat)
  | bitwise (sreg dreg length : Nat) (mask xor : Bytes)
  | cmp (sreg op : Nat) (value : Bytes)
  | lookup (set : String) (sreg : Nat)
  | immediate (dreg code : Nat)

def exprMetaLoad (key : Nat) : RawExpr := .metaLoad key nftReg1

def exprCmpEq (value : Bytes) : RawExpr := .cmp nftReg1 nftCmpEQ value

def exprPayloadLoad (base offset length : Nat) : RawExpr := .payload nftReg1 base offset length

def exprBitwiseMask (mask : Bytes) : RawExpr :=
  .bitwise nftReg1 nftReg1 mask.length mask (List.replicate mask.length 0)

def exprLookup (set : String) : RawExpr := .lookup set nftReg1

def exprVerdict (code : Nat) : RawExpr := .immediate nftRegVerdict code

/-- One message of a batch with the attributes it carries. -/
inductive RawMsg where
  | newTable (family : Nat) (name : String)
  | newChain (family : Nat) (table name : String) (hook priority : Nat) (type : String)
      (policy : Nat)
  | newSet (family : Nat) (table name : String) (keyType keyLen id : Nat)
  | newSetElem (family : Nat) (table set : String) (keys : List Bytes)
  | newRule (family : Nat) (table chain : String) (exprs : List RawExpr)

def rule (exprs : List RawExpr) : RawMsg := .newRule nfprotoInet nftTableName nftChainName exprs

/-- An `ipv4_addr` set of the helper's table. -/
def addressSet (name : String) (id : Nat) : RawMsg :=
  .newSet nfprotoInet nftTableName name 7 4 id

/-- `elemMsg` for new elements: nothing when no address can be encoded. -/
def elemMsg (setName : String) (addrs : List Addr) : List RawMsg :=
  let elems := addrs.filterMap fun addr =>
    if addr.is4 then addr.as4.map (bigEndian 4) else none
  if elems = [] then [] else [.newSetElem nfprotoInet nftTableName setName elems]

def setElemMsg (addrs : List Addr) : List RawMsg := elemMsg nftAllowSet addrs

def serveElemMsg (addr : Addr) : List RawMsg := elemMsg nftServeSet [addr]

/-- `hostU32`: an interface index in the order of the machine. -/
def hostU32 (order : ByteOrder) (value : Nat) : Bytes := order.bytes 4 (.ofNat 32 value)

/-- `bePort`: a port as it stands in a packet. -/
def bePort (port : Nat) : Bytes := bigEndian 2 (.ofNat 16 port)

/-- `net4Mask` as bytes; a shift by a negative count panics. -/
def net4Mask (bits : Nat) : Option Bytes := (Netd.net4Mask bits).map (bigEndian 4)

/-- The masked compare for one CIDR entry. -/
def netRule (net : Prefix) : Option RawMsg := do
  let mask ← net4Mask net.bits
  let network ← net.masked.addr.as4
  pure (rule [exprMetaLoad nftMetaNFProto, exprCmpEq [nfprotoIPv4],
    exprPayloadLoad nftPayloadNetworkHeader 16 4, exprBitwiseMask mask,
    exprCmpEq (bigEndian 4 network), exprVerdict nfAccept])

/-- `enableKillSwitch`: the messages of the one transaction. -/
def enableKillSwitch (order : ByteOrder) (spec : KillSwitchSpec) : Option (List RawMsg) := do
  let netRules ← spec.nets.mapM netRule
  let serveSet := match spec.servedSrc with
    | some src => addressSet nftServeSet 2 :: serveElemMsg src
    | none => []
  let serveRule := match spec.servedSrc with
    | some _ => [rule [exprMetaLoad nftMetaNFProto, exprCmpEq [nfprotoIPv4],
        exprPayloadLoad nftPayloadNetworkHeader 12 4, exprLookup nftServeSet,
        exprVerdict nfAccept]]
    | none => []
  pure ([.newTable nfprotoInet nftTableName,
      .newChain nfprotoInet nftTableName nftChainName nfInetLocalOut nfFilterPriority "filter"
        nfDrop,
      addressSet nftAllowSet 1] ++ serveSet ++ setElemMsg spec.hosts ++
    [rule [exprMetaLoad nftMetaOIF, exprCmpEq (hostU32 order spec.tunIfIndex),
        exprVerdict nfAccept],
      rule [exprMetaLoad nftMetaOIF, exprCmpEq (hostU32 order spec.loIfIndex),
        exprVerdict nfAccept],
      rule [exprMetaLoad nftMetaNFProto, exprCmpEq [nfprotoIPv4],
        exprPayloadLoad nftPayloadNetworkHeader 16 4, exprLookup nftAllowSet,
        exprVerdict nfAccept]] ++ serveRule ++ netRules ++
    [rule [exprMetaLoad nftMetaL4Proto, exprCmpEq [ipprotoUDP],
      exprPayloadLoad nftPayloadTransportHeader 0 2, exprCmpEq (bePort 68),
      exprPayloadLoad nftPayloadTransportHeader 2 2, exprCmpEq (bePort 67),
      exprVerdict nfAccept]])

structure Chain where
  hook : Nat
  priority : Nat
  type : String
  policy : Nat
  rules : List (List RawExpr) := []

/-- A table under its family and name, with one chain. -/
structure RawTable where
  family : Nat
  name : String
  chainName : String := ""
  chain : Option Chain := none
  /-- Each set's key length and keys. -/
  sets : String → Option (Nat × List Bytes) := fun _ => none

/-- The sets a rule looks up. -/
def lookups (exprs : List RawExpr) : List String :=
  exprs.filterMap fun
    | .lookup set _ => some set
    | _ => none

/-- What one message does to the table; `none` where nftables refuses it, for a name that is not
there or a key of the wrong length. -/
def RawTable.apply (table : RawTable) : RawMsg → Option RawTable
  | .newTable family name =>
    if (family, name) = (table.family, table.name) then some table else none
  | .newChain family tableName name hook priority type policy =>
    let rules := (table.chain.map Chain.rules).getD []
    if (family, tableName) = (table.family, table.name) then
      some { table with chainName := name, chain := some ⟨hook, priority, type, policy, rules⟩ }
    else none
  | .newSet family tableName name _ keyLen _ =>
    let kept := (table.sets name).getD (keyLen, [])
    if (family, tableName) = (table.family, table.name) then
      some { table with sets := update table.sets name (some kept) }
    else none
  | .newSetElem family tableName set keys =>
    if (family, tableName) = (table.family, table.name) then
      match table.sets set with
      | some (keyLen, present) =>
        let kept := (keyLen, present ++ keys)
        if keys.all (·.length = keyLen) then
          some { table with sets := update table.sets set (some kept) }
        else none
      | none => none
    else none
  | .newRule family tableName chainName exprs =>
    if (family, tableName, chainName) = (table.family, table.name, table.chainName) then
      match table.chain with
      | some chain =>
        if (lookups exprs).all fun set => (table.sets set).isSome then
          some { table with chain := some { chain with rules := chain.rules ++ [exprs] } }
        else none
      | none => none
    else none

/-- A transaction that creates a table. -/
def build : List RawMsg → Option RawTable
  | .newTable family name :: msgs => msgs.foldlM RawTable.apply { family, name }
  | _ => none

/-- An IPv4 header field by field. -/
structure Ipv4Header where
  versionIhl : UInt8
  tos : UInt8
  totalLength : BitVec 16
  id : BitVec 16
  fragment : BitVec 16
  ttl : UInt8
  protocol : UInt8
  checksum : BitVec 16
  src : BitVec 32
  dst : BitVec 32
  options : Bytes

/-- The header as it is sent. -/
def Ipv4Header.bytes (header : Ipv4Header) : Bytes :=
  [header.versionIhl, header.tos] ++ bigEndian 2 header.totalLength ++
    bigEndian 2 header.id ++ bigEndian 2 header.fragment ++
    [header.ttl, header.protocol] ++ bigEndian 2 header.checksum ++
    bigEndian 4 header.src ++ bigEndian 4 header.dst ++ header.options

inductive Network where
  | ipv4 (header : Ipv4Header)
  /-- The header, and the protocol found behind the extension headers. -/
  | ipv6 (header : Bytes) (upper : Option UInt8)

/-- An outbound packet at the output hook. -/
structure Packet where
  /-- The index of the interface it leaves on. -/
  oif : BitVec 32
  network : Network
  /-- What starts at the transport header; a later fragment has none. -/
  transport : Option Bytes

def Packet.l4proto (packet : Packet) : Option UInt8 :=
  match packet.network with
  | .ipv4 header => some header.protocol
  | .ipv6 _ upper => upper

/-- The value of a meta key, under the numbers of `enum nft_meta_keys`. -/
def Packet.metaValue (order : ByteOrder) (packet : Packet) : Nat → Option Bytes
  | 5 => some (order.bytes 4 packet.oif)
  | 15 =>
    match packet.network with
    | .ipv4 _ => some [2]
    | .ipv6 _ _ => some [10]
  | 16 => packet.l4proto.map fun proto => [proto]
  | _ => none

/-- The bytes from a header on, under the numbers of `enum nft_payload_bases`. -/
def Packet.header (packet : Packet) : Nat → Option Bytes
  | 1 =>
    match packet.network with
    | .ipv4 header => some header.bytes
    | .ipv6 header _ => some header
  | 2 => packet.transport
  | _ => none

/-- Bytes of a header, if it has that many. -/
def readAt (offset length : Nat) (bytes : Bytes) : Option Bytes :=
  if offset + length ≤ bytes.length then some ((bytes.drop offset).take length) else none

/-- One rule, run on the registers. One that does not match, or has nothing to load, gives no
verdict. -/
def eval (order : ByteOrder) (sets : String → Option (Nat × List Bytes)) (packet : Packet) :
    List RawExpr → (Nat → Bytes) → Option Nat
  | [], _ => none
  | .metaLoad key dreg :: rest, regs =>
    match packet.metaValue order key with
    | some value => eval order sets packet rest (update regs dreg value)
    | none => none
  | .payload dreg base offset length :: rest, regs =>
    match (packet.header base).bind (readAt offset length) with
    | some value => eval order sets packet rest (update regs dreg value)
    | none => none
  | .bitwise sreg dreg length mask xor :: rest, regs =>
    let masked := List.zipWith (· &&& ·) ((regs sreg).take length) mask
    eval order sets packet rest
      (update regs dreg (List.zipWith (· ^^^ ·) masked xor))
  | .cmp sreg op value :: rest, regs =>
    if op = 0 ∧ (regs sreg).take value.length = value then eval order sets packet rest regs
    else none
  | .lookup set sreg :: rest, regs =>
    match sets set with
    | some (keyLen, keys) =>
      if (regs sreg).take keyLen ∈ keys then eval order sets packet rest regs else none
    | none => none
  | .immediate dreg code :: rest, regs =>
    if dreg = 0 then some code else eval order sets packet rest regs

/-- A verdict ends the rule. -/
theorem eval_verdict {order : ByteOrder} {sets : String → Option (Nat × List Bytes)}
    {packet : Packet} {rest : List RawExpr} {regs : Nat → Bytes} {code : Nat} (verdict : Nat) :
    eval order sets packet (exprVerdict verdict :: rest) regs = some code ↔ verdict = code := by
  simp [exprVerdict, eval, nftRegVerdict]

/-- The first rule with a verdict decides, else the policy. -/
def Chain.verdict (order : ByteOrder) (sets : String → Option (Nat × List Bytes))
    (chain : Chain) (packet : Packet) : Nat :=
  (chain.rules.findSome? fun exprs => eval order sets packet exprs fun _ => []).getD chain.policy

/-- The verdict on an outbound packet: a chain of the `inet` family at the output hook sees IPv4 and
IPv6. -/
def RawTable.verdict (order : ByteOrder) (table : RawTable) (packet : Packet) : Nat :=
  match table.chain with
  | some chain =>
    if table.family = 1 ∧ chain.hook = 3 then chain.verdict order table.sets packet else 1
  | none => 1

def setName : SetName → String
  | .allow => nftAllowSet
  | .serve => nftServeSet

def setId : SetName → Nat
  | .allow => 1
  | .serve => 2

def baseNumber : PayloadBase → Nat
  | .networkHeader => nftPayloadNetworkHeader
  | .transportHeader => nftPayloadTransportHeader

/-- The expressions of a rule as sent, a number as the last load leaves it in the register. -/
def encodeFrom (order : ByteOrder) : (Nat → Bytes) → List Expr → List RawExpr
  | _, [] => []
  | _, .metaLoad .oif :: rest => exprMetaLoad nftMetaOIF :: encodeFrom order (hostU32 order) rest
  | _, .metaLoad .nfproto :: rest =>
    exprMetaLoad nftMetaNFProto :: encodeFrom order (fun value => [.ofNat value]) rest
  | _, .metaLoad .l4proto :: rest =>
    exprMetaLoad nftMetaL4Proto :: encodeFrom order (fun value => [.ofNat value]) rest
  | _, .payloadLoad base offset length :: rest =>
    exprPayloadLoad (baseNumber base) offset length ::
      encodeFrom order (fun value => bigEndian length (.ofNat _ value)) rest
  | write, .bitwiseMask mask :: rest =>
    exprBitwiseMask (bigEndian 4 mask) :: encodeFrom order write rest
  | write, .cmpEq value :: rest => exprCmpEq (write value) :: encodeFrom order write rest
  | write, .lookup set :: rest => exprLookup (setName set) :: encodeFrom order write rest
  | write, .accept :: rest => exprVerdict nfAccept :: encodeFrom order write rest

def encodeRule (order : ByteOrder) (exprs : List Expr) : List RawExpr :=
  encodeFrom order (fun _ => []) exprs

def encodeMsg (order : ByteOrder) : NftMsg → RawMsg
  | .newTable => .newTable nfprotoInet nftTableName
  | .newChain => .newChain nfprotoInet nftTableName nftChainName nfInetLocalOut nfFilterPriority
      "filter" nfDrop
  | .newSet set => addressSet (setName set) (setId set)
  | .newSetElem set addrs =>
    .newSetElem nfprotoInet nftTableName (setName set) (addrs.map (bigEndian 4))
  | .newRule exprs => rule (encodeRule order exprs)

/-- The helper's table as nftables keeps it. -/
def encodeTable (order : ByteOrder) (table : Table) : RawTable where
  family := nfprotoInet
  name := nftTableName
  chainName := nftChainName
  chain := some ⟨nfInetLocalOut, nfFilterPriority, "filter", nfDrop,
    table.rules.map (encodeRule order)⟩
  sets name :=
    let keysOf (set : SetName) := (table.sets set).map fun keys => (4, keys.map (bigEndian 4))
    if name = nftAllowSet then keysOf .allow else if name = nftServeSet then keysOf .serve else none

theorem encode_elemMsg (order : ByteOrder) (set : SetName) (addrs : List Addr) :
    (Netd.elemMsg set addrs).map (encodeMsg order) = elemMsg (setName set) addrs := by
  have encoded : (addrs.filterMap fun addr =>
      if addr.is4 then addr.as4.map (bigEndian 4) else none) =
      (addrs.filterMap fun addr => if addr.is4 then addr.as4 else none).map
        (bigEndian 4) := by
    rw [List.map_filterMap]
    congr 1
    funext addr
    split <;> rfl
  unfold Netd.elemMsg elemMsg
  simp only [encoded, List.map_eq_nil_iff]
  split <;> rfl

theorem netRule_eq (order : ByteOrder) (net : Prefix) :
    netRule net = (Netd.netRule net).map (encodeMsg order) := by
  unfold netRule Netd.netRule net4Mask
  cases Netd.net4Mask net.bits with
  | none => rfl
  | some mask =>
    cases net.masked.addr.as4 with
    | none => rfl
    | some network =>
      have same : BitVec.ofNat (8 * 4) network.toNat = network := by simp
      exact congrArg (fun word => some (rule [exprMetaLoad nftMetaNFProto,
        exprCmpEq [nfprotoIPv4], exprPayloadLoad nftPayloadNetworkHeader 16 4,
        exprBitwiseMask (bigEndian 4 mask), exprCmpEq (bigEndian 4 word),
        exprVerdict nfAccept])) same.symm

private theorem mapM_map_result {α β γ : Type} (build : α → Option β) (write : β → γ)
    (items : List α) :
    (items.mapM fun item => (build item).map write) = (items.mapM build).map (List.map write) := by
  induction items with
  | nil => rfl
  | cons item items ih =>
    simp only [List.mapM_cons, ih]
    cases build item <;> cases items.mapM build <;> rfl

variable (order : ByteOrder)

/-- What `enableKillSwitch` sends is the transaction the helper's model keeps. -/
theorem enableKillSwitch_eq (spec : KillSwitchSpec) :
    enableKillSwitch order spec =
      (killSwitchMsgs spec).map fun msgs => msgs.map (encodeMsg order) := by
  have onInterface : ∀ index : Nat,
      encodeMsg order (accepting [.metaLoad .oif, .cmpEq (index % 2 ^ 32)]) =
        rule [exprMetaLoad nftMetaOIF, exprCmpEq (hostU32 order index), exprVerdict nfAccept] := by
    intro index
    have wide : hostU32 order (index % 2 ^ 32) = hostU32 order index :=
      congrArg (order.bytes 4) (BitVec.eq_of_toNat_eq (by simp))
    rw [← wide]
    rfl
  have nets : spec.nets.mapM netRule =
      (spec.nets.mapM Netd.netRule).map (List.map (encodeMsg order)) := by
    rw [← mapM_map_result]
    congr 1
    funext net
    exact netRule_eq order net
  unfold enableKillSwitch killSwitchMsgs
  rw [nets]
  cases spec.nets.mapM Netd.netRule with
  | none => rfl
  | some =>
    simp only [map_some, bind_eq_bind, bind_some, pure_def,
      List.map_append, List.map_cons, List.map_nil, encode_elemMsg, onInterface]
    cases spec.servedSrc with
    | none => rfl
    | some =>
      simp only [List.map_cons, List.map_nil, encode_elemMsg]
      rfl

/-- The sets that have to be there for a message. -/
def needs : NftMsg → List SetName
  | .newSetElem set _ => [set]
  | .newRule exprs => exprs.filterMap fun
      | .lookup set => some set
      | _ => none
  | _ => []

theorem lookups_encodeFrom (exprs : List Expr) (write : Nat → Bytes) :
    lookups (encodeFrom order write exprs) = (needs (.newRule exprs)).map setName := by
  induction exprs generalizing write with
  | nil => rfl
  | cons expr exprs ih =>
    cases expr with
    | metaLoad key => cases key <;> exact ih _
    | lookup set => exact congrArg (setName set :: ·) (ih write)
    | _ => exact ih _

/-- The sets of an encoded table. -/
@[simp] theorem sets_encodeTable (table : Table) (set : SetName) :
    (encodeTable order table).sets (setName set) =
      (table.sets set).map fun keys => (4, keys.map (bigEndian 4)) := by
  cases set <;> rfl

theorem encodeTable_putSet (table : Table) (set : SetName) (keys : List (BitVec 32)) :
    encodeTable order (table.putSet set (some keys)) = { encodeTable order table with
      sets := update (encodeTable order table).sets (setName set)
        (some (4, keys.map (bigEndian 4))) } := by
  have apart : nftServeSet ≠ nftAllowSet := by decide
  have sets : (encodeTable order (table.putSet set (some keys))).sets =
      update (encodeTable order table).sets (setName set)
        (some (4, keys.map (bigEndian 4))) := by
    funext name
    cases set with
    | allow =>
      by_cases here : name = nftAllowSet <;> simp [encodeTable, putSet, setName, here]
    | serve =>
      by_cases here : name = nftServeSet
      · simp [encodeTable, putSet, setName, here, apart]
      · simp [encodeTable, putSet, setName, here]
  exact congrArg (fun sets => { encodeTable order table with sets }) sets

variable {table : Table} {msg : NftMsg}

theorem apply_encode (order : ByteOrder)
    (present : ∀ set ∈ needs msg, (table.sets set).isSome) :
    (encodeTable order table).apply (encodeMsg order msg) =
      some (encodeTable order (table.apply msg)) := by
  cases msg with
  | newTable | newChain => rfl
  | newSet set =>
    have kept : ((encodeTable order table).sets (setName set)).getD (4, []) =
        (4, ((table.sets set).getD []).map (bigEndian 4)) := by
      rw [sets_encodeTable]
      cases table.sets set <;> rfl
    simp only [encodeMsg, addressSet, RawTable.apply, kept, apply, encodeTable_putSet]
    rfl
  | newSetElem set addrs =>
    obtain ⟨keys, held⟩ := isSome_iff_exists.mp (present set (.head _))
    have found : (encodeTable order table).sets (setName set) =
        some (4, keys.map (bigEndian 4)) := by
      rw [sets_encodeTable, held]
      rfl
    have sized : ((addrs.map (bigEndian 4)).all fun key => key.length = 4) := by
      simp [length_bigEndian]
    simp only [encodeMsg, RawTable.apply, found, sized, if_true, apply, held,
      getD_some, encodeTable_putSet, List.map_append]
    rfl
  | newRule exprs =>
    have looked : ((lookups (encodeRule order exprs)).all fun set =>
        ((encodeTable order table).sets set).isSome) := by
      rw [encodeRule, lookups_encodeFrom, List.all_map, List.all_eq_true]
      intro set needed
      simpa using present set needed
    simp only [encodeMsg, rule, RawTable.apply, looked, if_true, apply]
    simp only [encodeTable, List.map_append, List.map_cons, List.map_nil]
    rfl

variable {set : SetName}

theorem isSome_apply (present : (table.sets set).isSome) (msg : NftMsg) :
    ((table.apply msg).sets set).isSome := by
  have put : ∀ (other : SetName) (keys : List (BitVec 32)),
      ((table.putSet other (some keys)).sets set).isSome := by
    intro other keys
    by_cases here : set = other
    · subst here
      simp [putSet]
    · simpa [putSet, here] using present
  cases msg with
  | newSet other | newSetElem other => exact put other _
  | _ => exact present

/-- Messages that name existing sets only are carried out one after another. -/
theorem foldlM_encode (order : ByteOrder) {table : Table} {msgs : List NftMsg}
    (present : ∀ msg ∈ msgs, ∀ set ∈ needs msg, (table.sets set).isSome) :
    (msgs.map (encodeMsg order)).foldlM RawTable.apply (encodeTable order table) =
      some (encodeTable order (msgs.foldl apply table)) := by
  induction msgs generalizing table with
  | nil => rfl
  | cons msg msgs ih =>
    rw [List.map_cons, List.foldlM_cons, apply_encode order (present msg (.head _)),
      List.foldl_cons]
    refine ih fun other member set needed => ?_
    exact isSome_apply (present other (.tail _ member) set needed) msg

theorem needs_elemMsg {other : SetName} {addrs : List Addr} (member : msg ∈ Netd.elemMsg set addrs)
    (needed : other ∈ needs msg) : other = set := by
  unfold Netd.elemMsg at member
  simp only at member
  split at member
  · exact absurd member List.not_mem_nil
  · rw [List.mem_singleton] at member
    rw [member] at needed
    exact List.mem_singleton.mp needed

theorem needs_netRules {nets : List Prefix} {netRules : List NftMsg}
    (built : nets.mapM Netd.netRule = some netRules) (member : msg ∈ netRules) :
    needs msg = [] := by
  obtain ⟨_, -, made⟩ := (mem_mapM_iff built msg).mp member
  obtain ⟨_, -, made⟩ := bind_eq_some_iff.mp made
  obtain ⟨_, -, made⟩ := bind_eq_some_iff.mp made
  cases made
  rfl

theorem isSome_foldl (present : (table.sets set).isSome) (msgs : List NftMsg) :
    ((msgs.foldl apply table).sets set).isSome := by
  induction msgs generalizing table with
  | nil => exact present
  | cons msg msgs ih => exact ih (isSome_apply present msg)

theorem isSome_newSets {created : List SetName} (member : set ∈ created) (table : Table) :
    (((created.map NftMsg.newSet).foldl apply table).sets set).isSome := by
  obtain ⟨_, _, rfl⟩ := List.append_of_mem member
  rw [List.map_append, List.foldl_append, List.map_cons, List.foldl_cons]
  apply isSome_foldl
  simp [apply, putSet]

variable {msgs : List NftMsg}

/-- A transaction that creates the table, the chain and some sets, and only names these. -/
theorem build_encode (order : ByteOrder) (created : List SetName)
    (within : ∀ msg ∈ msgs, ∀ set ∈ needs msg, set ∈ created) :
    let all := NftMsg.newTable :: .newChain :: (created.map .newSet ++ msgs)
    build (all.map (encodeMsg order)) = some (encodeTable order (all.foldl apply {})) := by
  have chained : ({ family := nfprotoInet, name := nftTableName } : RawTable).apply
      (encodeMsg order .newChain) = some (encodeTable order {}) := by
    have sets : (encodeTable order {}).sets = fun _ => none := by
      funext name
      simp [encodeTable]
    have same : encodeTable order {} = { encodeTable order {} with sets := fun _ => none } :=
      congrArg (fun sets => { encodeTable order {} with sets }) sets
    rw [same]
    rfl
  have sets := @foldlM_encode order {} (created.map .newSet) fun msg member set needed => by
    obtain ⟨_, -, rfl⟩ := List.mem_map.mp member
    exact absurd needed List.not_mem_nil
  have rest := @foldlM_encode order ((created.map .newSet).foldl apply {}) msgs
    fun msg member set needed => isSome_newSets (within msg member set needed) {}
  intro all
  have first : all.map (encodeMsg order) = .newTable nfprotoInet nftTableName ::
      encodeMsg order .newChain :: ((created.map .newSet).map (encodeMsg order) ++
        msgs.map (encodeMsg order)) := by
    simp only [all, List.map_cons, List.map_append, encodeMsg]
  rw [first, build, List.foldlM_cons, chained]
  simp only [bind_eq_bind, bind_some]
  rw [List.foldlM_append, sets]
  simp only [bind_eq_bind, bind_some]
  rw [rest, ← List.foldl_append]
  rfl

/-- nftables carries out the whole transaction and keeps the model's table. -/
theorem build_killSwitch (order : ByteOrder) {spec : KillSwitchSpec}
    (made : killSwitchMsgs spec = some msgs) :
    build (msgs.map (encodeMsg order)) = some (encodeTable order (msgs.foldl apply {})) := by
  obtain ⟨_, built, made⟩ := bind_eq_some_iff.mp made
  replace made := some.inj made
  cases served : spec.servedSrc with
  | none =>
    have split : msgs =
        .newTable :: .newChain :: ([SetName.allow].map .newSet ++ msgs.drop 3) := by
      rw [← made, served]
      rfl
    rw [split]
    refine build_encode order [.allow] fun msg member set needed => ?_
    rw [← made, served] at member
    simp only [List.cons_append, List.nil_append, List.append_assoc, List.drop_succ_cons,
      List.drop_zero, List.mem_append, List.mem_cons, List.not_mem_nil, or_false] at member
    rw [List.mem_singleton]
    rcases member with host | rfl | rfl | rfl | net | rfl
    · exact needs_elemMsg host needed
    · exact absurd needed List.not_mem_nil
    · exact absurd needed List.not_mem_nil
    · exact List.mem_singleton.mp needed
    · rw [needs_netRules built net] at needed
      exact absurd needed List.not_mem_nil
    · exact absurd needed List.not_mem_nil
  | some =>
    have split : msgs =
        .newTable :: .newChain :: ([SetName.allow, .serve].map .newSet ++ msgs.drop 4) := by
      rw [← made, served]
      rfl
    rw [split]
    refine build_encode order [.allow, .serve] fun msg member set needed => ?_
    cases set <;> decide

end Nft

end Bacchus.Netd
