import Bacchus.Netd.Clients
import Bacchus.Netd.Nft

/-!
# What the lockdown lets out

The verdict of the armed table on an outbound packet: a rule fires exactly on the packets it was
written for, and a packet on which none fires is dropped.
-/

namespace Bacchus.Netd

open Netip Table Word List Function Option

namespace Nft

section

variable {order : ByteOrder} {table : Table} {packet : Packet}

section

variable {sets : String → Option (Nat × List Bytes)} {rest : List RawExpr} {regs : Nat → Bytes}
  {code : Nat}

theorem eval_metaLoad (key : Nat) :
    eval order sets packet (exprMetaLoad key :: rest) regs = some code ↔
      ∃ value, packet.metaValue order key = some value ∧
        eval order sets packet rest (update regs nftReg1 value) = some code := by
  simp only [exprMetaLoad, eval]
  cases packet.metaValue order key <;> simp

theorem eval_payloadLoad (base offset length : Nat) :
    eval order sets packet (exprPayloadLoad base offset length :: rest) regs = some code ↔
      ∃ value, (packet.header base).bind (readAt offset length) = some value ∧
        eval order sets packet rest (update regs nftReg1 value) = some code := by
  simp only [exprPayloadLoad, eval]
  cases (packet.header base).bind (readAt offset length) <;> simp

theorem eval_cmpEq (value : Bytes) :
    eval order sets packet (exprCmpEq value :: rest) regs = some code ↔
      (regs nftReg1).take value.length = value ∧
        eval order sets packet rest regs = some code := by
  simp [exprCmpEq, eval, nftCmpEQ]

theorem eval_lookup (set : String) :
    eval order sets packet (exprLookup set :: rest) regs = some code ↔
      ∃ keyLen keys, sets set = some (keyLen, keys) ∧ (regs nftReg1).take keyLen ∈ keys ∧
        eval order sets packet rest regs = some code := by
  simp only [exprLookup, eval]
  cases sets set with
  | none => simp
  | some held =>
    obtain ⟨keyLen, keys⟩ := held
    simp

theorem eval_bitwiseMask {word : BitVec 32} (mask : BitVec 32)
    (loaded : regs nftReg1 = bigEndian 4 word) :
    eval order sets packet (exprBitwiseMask (bigEndian 4 mask) :: rest) regs =
      eval order sets packet rest
        (update regs nftReg1 (bigEndian 4 (word &&& mask))) := by
  have whole : (bigEndian 4 word).take 4 = bigEndian 4 word :=
    take_of_length_le (@Word.length_bigEndian 4 word).le
  have masked := @Word.zipWith_and_bigEndian 4 word mask
  have kept := zipWith_xor_zero (bigEndian 4 (word &&& mask))
  simp only [exprBitwiseMask, eval, loaded, length_bigEndian] at kept ⊢
  rw [whole, masked, kept]

end

/-- A rule of the helper's table ends with a verdict on the packet. -/
def Fires (order : ByteOrder) (table : Table) (packet : Packet) (exprs : List Expr) : Prop :=
  eval order (encodeTable order table).sets packet (encodeRule order exprs) (fun _ => []) =
    some nfAccept

variable {sets : String → Option (Nat × List Bytes)} {exprs : List Expr} {regs : Nat → Bytes}
  {code : Nat}

/-- The only verdict a rule of the helper's has is to accept. -/
theorem eval_encodeFrom {write : Nat → Bytes}
    (ended : eval order sets packet (encodeFrom order write exprs) regs = some code) :
    code = nfAccept := by
  induction exprs generalizing write regs with
  | nil => cases ended
  | cons expr exprs ih =>
    cases expr with
    | metaLoad key =>
      cases key <;>
      · simp only [encodeFrom, exprMetaLoad, eval] at ended
        split at ended
        · exact ih ended
        · cases ended
    | bitwiseMask => exact ih ended
    | payloadLoad | cmpEq =>
      simp only [encodeFrom, exprPayloadLoad, exprCmpEq, eval] at ended
      split at ended
      · exact ih ended
      · cases ended
    | lookup =>
      simp only [encodeFrom, exprLookup, eval] at ended
      split at ended
      · split at ended
        · exact ih ended
        · cases ended
      · cases ended
    | accept => exact (some.inj ended).symm

theorem verdict_encodeTable (order : ByteOrder) (table : Table) (packet : Packet) :
    ((encodeTable order table).verdict order packet = nfAccept ↔
        ∃ exprs ∈ table.rules, Fires order table packet exprs) ∧
      ((encodeTable order table).verdict order packet = nfAccept ∨
        (encodeTable order table).verdict order packet = nfDrop) := by
  have run : (encodeTable order table).verdict order packet =
      ((table.rules.map (encodeRule order)).findSome? fun exprs =>
        eval order (encodeTable order table).sets packet exprs fun _ => []).getD nfDrop := rfl
  rw [run, findSome?_map]
  cases found : table.rules.findSome? ((fun exprs =>
      eval order (encodeTable order table).sets packet exprs fun _ => []) ∘ encodeRule order) with
  | none =>
    have silent := findSome?_eq_none_iff.mp found
    refine ⟨⟨fun same => ?_, ?_⟩, .inr rfl⟩
    · cases same
    · rintro ⟨exprs, member, fires⟩
      have none := silent exprs member
      rw [comp_apply, fires] at none
      cases none
  | some code =>
    obtain ⟨exprs, member, ended⟩ := exists_of_findSome?_eq_some found
    obtain rfl : code = nfAccept := eval_encodeFrom ended
    exact ⟨⟨fun _ => ⟨exprs, member, ended⟩, fun _ => rfl⟩, .inl rfl⟩

theorem take_bigEndian {count : Nat} (word : BitVec (8 * count)) :
    (bigEndian count word).take count = bigEndian count word :=
  take_of_length_le (length_bigEndian word).le

theorem fires_interface (index : Nat) :
    Fires order table packet [.metaLoad .oif, .cmpEq index, .accept] ↔
      packet.oif = .ofNat 32 index := by
  have whole : (order.bytes 4 packet.oif).take 4 = order.bytes 4 packet.oif :=
    take_of_length_le (order.length_bytes _).le
  have loaded : packet.metaValue order nftMetaOIF = some (order.bytes 4 packet.oif) := rfl
  simp only [Fires, encodeRule, encodeFrom, eval_metaLoad,
    eval_cmpEq, eval_verdict, and_true, loaded, some.injEq, exists_eq_left',
    update_self, hostU32, ByteOrder.length_bytes, whole]
  exact order.bytes_inj

variable {rest : List RawExpr}

theorem eval_ipv4 :
    eval order sets packet (exprMetaLoad nftMetaNFProto :: exprCmpEq [nfprotoIPv4] :: rest) regs =
        some code ↔
      (∃ header, packet.network = .ipv4 header) ∧
        eval order sets packet rest (update regs nftReg1 [nfprotoIPv4]) = some code := by
  rw [eval_metaLoad]
  cases network : packet.network with
  | ipv4 =>
    have loaded : packet.metaValue order nftMetaNFProto = some [nfprotoIPv4] := by
      simp only [Packet.metaValue, nftMetaNFProto, network]
      rfl
    simp [loaded, eval_cmpEq]
  | ipv6 =>
    have loaded : packet.metaValue order nftMetaNFProto = some [10] := by
      simp only [Packet.metaValue, nftMetaNFProto, network]
    simp [loaded, eval_cmpEq, nfprotoIPv4]

variable {offset : Nat}

theorem eval_address {field : Ipv4Header → BitVec 32} (placed : ∀ header : Ipv4Header,
      readAt offset 4 header.bytes = some (bigEndian 4 (field header))) :
    eval order sets packet (exprMetaLoad nftMetaNFProto :: exprCmpEq [nfprotoIPv4] ::
        exprPayloadLoad nftPayloadNetworkHeader offset 4 :: rest) regs = some code ↔
      ∃ header, packet.network = .ipv4 header ∧ eval order sets packet rest
        (update regs nftReg1 (bigEndian 4 (field header))) = some code := by
  have read : ∀ header, packet.network = .ipv4 header →
      (packet.header nftPayloadNetworkHeader).bind (readAt offset 4) =
        some (bigEndian 4 (field header)) := by
    intro header network
    simp only [Packet.header, nftPayloadNetworkHeader, network, bind_some, placed]
  rw [eval_ipv4, eval_payloadLoad]
  constructor
  · rintro ⟨⟨header, network⟩, value, loaded, ended⟩
    rw [read header network, some.injEq] at loaded
    rw [← loaded, update_idem] at ended
    exact ⟨header, network, ended⟩
  · rintro ⟨header, network, ended⟩
    refine ⟨⟨header, network⟩, _, read header network, ?_⟩
    rwa [update_idem]

theorem fires_lookup {offset : Nat} {field : Ipv4Header → BitVec 32} {set : SetName}
    (placed : ∀ header : Ipv4Header,
      readAt offset 4 header.bytes = some (bigEndian 4 (field header))) :
    Fires order table packet [.metaLoad .nfproto, .cmpEq 2,
        .payloadLoad .networkHeader offset 4, .lookup set, .accept] ↔
      ∃ header, packet.network = .ipv4 header ∧ field header ∈ (table.sets set).getD [] := by
  have encoded : encodeRule order [.metaLoad .nfproto, .cmpEq 2,
      .payloadLoad .networkHeader offset 4, .lookup set, .accept] =
      [exprMetaLoad nftMetaNFProto, exprCmpEq [nfprotoIPv4],
        exprPayloadLoad nftPayloadNetworkHeader offset 4, exprLookup (setName set),
        exprVerdict nfAccept] := rfl
  rw [Fires, encoded, eval_address placed]
  refine exists_congr fun header => and_congr_right fun _ => ?_
  rw [eval_lookup, sets_encodeTable, update_self]
  cases table.sets set with
  | none => simp
  | some keys =>
    have exactly : (bigEndian 4 (field header)).take 4 ∈ keys.map (bigEndian 4) ↔
        field header ∈ keys := by
      exact mem_map_of_injective bigEndian_injective
    simpa [eval_verdict] using exactly

theorem placed_src (header : Ipv4Header) :
    readAt 12 4 header.bytes = some (bigEndian 4 header.src) := by
  rfl

theorem placed_dst (header : Ipv4Header) :
    readAt 16 4 header.bytes = some (bigEndian 4 header.dst) := by
  rfl

theorem fires_masked (mask value : BitVec 32) :
    Fires order table packet (destination ++ [.bitwiseMask mask, .cmpEq value.toNat, .accept]) ↔
      ∃ header, packet.network = .ipv4 header ∧ header.dst &&& mask = value := by
  have same : BitVec.ofNat (8 * 4) value.toNat = value := by simp
  have encoded : encodeRule order
      (destination ++ [.bitwiseMask mask, .cmpEq value.toNat, .accept]) =
      [exprMetaLoad nftMetaNFProto, exprCmpEq [nfprotoIPv4],
        exprPayloadLoad nftPayloadNetworkHeader 16 4, exprBitwiseMask (bigEndian 4 mask),
        exprCmpEq (bigEndian 4 (.ofNat (8 * 4) value.toNat)), exprVerdict nfAccept] := rfl
  rw [Fires, encoded, same, eval_address placed_dst]
  refine exists_congr fun header => and_congr_right fun _ => ?_
  rw [eval_bitwiseMask mask (update_self ..), eval_cmpEq, update_self,
    length_bigEndian, take_bigEndian, eval_verdict, and_iff_left rfl]
  exact bigEndian_inj

/-- The packet is UDP and carries these ports. -/
def Packet.IsUdp (packet : Packet) (srcPort dstPort : BitVec 16) : Prop :=
  packet.l4proto = some ipprotoUDP ∧
    ∃ payload, packet.transport =
      some (bigEndian 2 srcPort ++ bigEndian 2 dstPort ++ payload)

theorem length_readAt {length : Nat} {bytes value : Bytes}
    (read : readAt offset length bytes = some value) : value.length = length := by
  unfold readAt at read
  split at read
  · cases read
    rw [length_take, length_drop]
    omega
  · cases read

theorem eval_field {base length : Nat} {field : Bytes} (sized : field.length = length) :
    eval order sets packet (exprPayloadLoad base offset length :: exprCmpEq field :: rest) regs =
        some code ↔
      (packet.header base).bind (readAt offset length) = some field ∧
        eval order sets packet rest (update regs nftReg1 field) = some code := by
  rw [eval_payloadLoad]
  constructor
  · rintro ⟨value, loaded, ended⟩
    rw [eval_cmpEq, update_self, sized] at ended
    obtain ⟨_, -, read⟩ := bind_eq_some_iff.mp loaded
    have whole : value.take length = value := take_of_length_le (length_readAt read).le
    rw [whole] at ended
    obtain ⟨rfl, ended⟩ := ended
    exact ⟨loaded, ended⟩
  · rintro ⟨loaded, ended⟩
    refine ⟨field, loaded, ?_⟩
    rw [eval_cmpEq, update_self, take_length]
    exact ⟨rfl, ended⟩

/-- Two fields that follow each other at the head of some bytes. -/
theorem readAt_both_iff {first second bytes : Bytes} :
    readAt 0 first.length bytes = some first ∧
        readAt first.length second.length bytes = some second ↔
      ∃ payload, bytes = first ++ second ++ payload := by
  constructor
  · rintro ⟨readFirst, readSecond⟩
    unfold readAt at readFirst readSecond
    split at readFirst
    · split at readSecond
      · rw [some.injEq, drop_zero] at readFirst
        rw [some.injEq] at readSecond
        have tail := take_append_drop second.length (bytes.drop first.length)
        have whole := take_append_drop first.length bytes
        rw [readSecond] at tail
        rw [readFirst, ← tail, ← append_assoc] at whole
        exact ⟨_, whole.symm⟩
      · cases readSecond
    · cases readFirst
  · rintro ⟨payload, rfl⟩
    simp [readAt]

theorem length_bePort (port : Nat) : (bePort port).length = 2 := length_bigEndian _

theorem fires_dhcp :
    Fires order table packet [.metaLoad .l4proto, .cmpEq 17, .payloadLoad .transportHeader 0 2,
        .cmpEq 68, .payloadLoad .transportHeader 2 2, .cmpEq 67, .accept] ↔
      packet.IsUdp 68 67 := by
  have encoded : encodeRule order [.metaLoad .l4proto, .cmpEq 17,
      .payloadLoad .transportHeader 0 2, .cmpEq 68, .payloadLoad .transportHeader 2 2, .cmpEq 67,
      .accept] = [exprMetaLoad nftMetaL4Proto, exprCmpEq [ipprotoUDP],
        exprPayloadLoad nftPayloadTransportHeader 0 2, exprCmpEq (bePort 68),
        exprPayloadLoad nftPayloadTransportHeader 2 2, exprCmpEq (bePort 67),
        exprVerdict nfAccept] := rfl
  have proto : packet.metaValue order nftMetaL4Proto = packet.l4proto.map fun proto => [proto] :=
    rfl
  have header : packet.header nftPayloadTransportHeader = packet.transport := rfl
  have ports : (packet.transport.bind (readAt 0 2) = some (bePort 68) ∧
      packet.transport.bind (readAt 2 2) = some (bePort 67)) ↔
      ∃ payload, packet.transport = some (bePort 68 ++ bePort 67 ++ payload) := by
    cases packet.transport with
    | none => simp
    | some bytes =>
      have both := @readAt_both_iff (bePort 68) (bePort 67) bytes
      rw [length_bePort, length_bePort] at both
      simpa using both
  rw [Fires, encoded, eval_metaLoad, proto, Packet.IsUdp]
  cases packet.l4proto with
  | none => simp
  | some =>
    simp only [map_some, some.injEq, exists_eq_left']
    rw [eval_cmpEq, eval_field (length_bePort 68), eval_field (length_bePort 67), eval_verdict,
      header, update_self, and_iff_left rfl, ports]
    simp [bePort]

/-- Two words agree above a place exactly when a mask of those bits does not tell them apart. -/
theorem shift_xor_eq_zero_iff (left right : BitVec 32) (count : Nat) :
    (left ^^^ right) >>> count = 0 ↔
      left &&& (BitVec.allOnes 32 <<< count) = right &&& (BitVec.allOnes 32 <<< count) := by
  constructor
  · intro agree
    apply BitVec.eq_of_getLsbD_eq
    intro bit inside
    by_cases low : bit < count
    · simp [low]
    · have above := congrArg (fun word : BitVec 32 => word.getLsbD (bit - count)) agree
      have place : count + (bit - count) = bit := by omega
      simp only [BitVec.getLsbD_ushiftRight, place, BitVec.getLsbD_xor, BitVec.ofNat_eq_ofNat,
        BitVec.getLsbD_zero, bne_eq_false_iff_eq] at above
      simp [above]
  · intro masked
    apply BitVec.eq_of_getLsbD_eq
    intro bit inside
    rw [BitVec.getLsbD_ushiftRight, BitVec.getLsbD_xor]
    by_cases within : count + bit < 32
    · have above := congrArg (fun word : BitVec 32 => word.getLsbD (count + bit)) masked
      have high : ¬ count + bit < count := by omega
      have width : count + bit - count < 32 := by omega
      simp only [BitVec.getLsbD_and, BitVec.getLsbD_shiftLeft, BitVec.getLsbD_allOnes, within, high,
        width, decide_true, decide_false, Bool.not_false, Bool.and_true] at above
      simp [above]
    · rw [BitVec.getLsbD_of_ge left _ (by omega), BitVec.getLsbD_of_ge right _ (by omega)]
      simp

/-- The rule of a listed network fires on the packets into it. -/
theorem fires_netRule {net : Prefix} (made : Netd.netRule net = some (.newRule exprs)) :
    Fires order table packet exprs ↔
      ∃ header, packet.network = .ipv4 header ∧ net.contains (.v4 header.dst) := by
  have family : net.addr.is4 := (netRule_isSome_iff net).mp (by rw [made]; rfl)
  obtain ⟨mask, masked, made⟩ := bind_eq_some_iff.mp made
  obtain ⟨network, encoded, made⟩ := bind_eq_some_iff.mp made
  cases made
  refine (fires_masked mask network).trans ?_
  refine exists_congr fun header => and_congr_right fun _ => ?_
  cases known : net.addr with
  | v6 =>
    rw [known] at family
    cases family
  | v4 bits =>
    have bounded : net.bits ≤ 32 := by
      have fits := net.bounded
      rwa [known] at fits
    have shifted : BitVec.allOnes 32 <<< (32 - net.bits) = mask := by
      rw [Netd.net4Mask, if_pos bounded] at masked
      exact some.inj masked
    have kept : bits &&& mask = network := by
      simp only [Prefix.masked, known, Addr.keepTop, Addr.as4, shifted] at encoded
      exact some.inj encoded
    simp only [Prefix.contains, known, beq_iff_eq]
    rw [shift_xor_eq_zero_iff, shifted, kept]

end

/-- What the lockdown is meant to let out. -/
def Permitted (tunIfIndex loIfIndex : Nat) (hosts : List Addr) (nets : List Prefix)
    (servedSrc : Option Addr) (packet : Packet) : Prop :=
  packet.oif.toNat = tunIfIndex ∨ packet.oif.toNat = loIfIndex ∨
    (∃ header, packet.network = .ipv4 header ∧
      (.v4 header.dst ∈ hosts ∨ (∃ net ∈ nets, net.contains (.v4 header.dst)) ∨
        header.dst.toNat / 2 ^ 24 = 127 ∨ servedSrc = some (.v4 header.src))) ∨
    packet.IsUdp 68 67

variable {spec : KillSwitchSpec} {msgs : List NftMsg}

theorem fires_killSwitch (made : killSwitchMsgs spec = some msgs) (order : ByteOrder)
    (packet : Packet) :
    (∃ exprs ∈ (msgs.foldl apply {}).rules,
        Fires order (msgs.foldl apply {}) packet exprs) ↔
      packet.oif = .ofNat 32 (spec.tunIfIndex % 2 ^ 32) ∨
      packet.oif = .ofNat 32 (spec.loIfIndex % 2 ^ 32) ∨
      (∃ header, packet.network = .ipv4 header ∧ .v4 header.dst ∈ spec.hosts) ∨
      (∃ header, packet.network = .ipv4 header ∧ spec.servedSrc = some (.v4 header.src)) ∨
      (∃ net ∈ spec.nets, ∃ header,
        packet.network = .ipv4 header ∧ net.contains (.v4 header.dst)) ∨
      packet.IsUdp 68 67 := by
  have fresh : ∀ exprs, exprs ∉ ({} : Table).rules := fun _ => not_mem_nil
  have ruled : ∀ exprs, exprs ∈ (msgs.foldl apply {}).rules ↔ .newRule exprs ∈ msgs :=
    fun exprs => mem_rules_foldl.trans (or_iff_right (fresh exprs))
  simp only [ruled, mem_killSwitch_rule made, or_and_right, exists_or, exists_eq_left]
  refine or_congr (fires_interface _) (or_congr (fires_interface _) (or_congr ?_ (or_congr ?_
    (or_congr ?_ fires_dhcp))))
  · refine (fires_lookup placed_dst).trans (exists_congr fun header => and_congr_right fun _ => ?_)
    exact (mem_sets_killSwitch made _).1
  · have looked := (@fires_lookup order (msgs.foldl apply {}) packet 12 Ipv4Header.src .serve
      placed_src).trans (exists_congr fun header =>
        and_congr_right fun _ => (mem_sets_killSwitch made header.src).2)
    constructor
    · rintro ⟨_, ⟨-, rfl⟩, fires⟩
      exact looked.mp fires
    · rintro ⟨header, network, served⟩
      refine ⟨_, ⟨?_, rfl⟩, looked.mpr ⟨header, network, served⟩⟩
      rw [served]
      rfl
  · constructor
    · rintro ⟨exprs, ⟨net, member, rule⟩, fires⟩
      exact ⟨net, member, (fires_netRule rule).mp fires⟩
    · rintro ⟨net, member, fires⟩
      have family : net.addr.is4 :=
        (killSwitchMsgs_isSome_iff spec).mp (by rw [made]; rfl) net member
      obtain ⟨_, rule⟩ := isSome_iff_exists.mp ((netRule_isSome_iff net).mpr family)
      obtain ⟨exprs, rfl⟩ := netRule_newRule rule
      exact ⟨exprs, ⟨net, member, rule⟩, (fires_netRule rule).mpr fires⟩

variable {hosts : List Addr} {nets : List Prefix}

/-- A lockdown's table whose networks end with loopback lets out what it is meant to. -/
theorem verdict_killSwitch {tunIfIndex loIfIndex : Nat} {servedSrc : Option Addr}
    (made : killSwitchMsgs ⟨tunIfIndex, loIfIndex, hosts, nets ++ [loopbackNet], servedSrc⟩ =
      some msgs) (tun : tunIfIndex < 2 ^ 32) (lo : loIfIndex < 2 ^ 32) (order : ByteOrder)
    (packet : Packet) :
    (encodeTable order (msgs.foldl apply {})).verdict order packet = nfAccept ↔
      Permitted tunIfIndex loIfIndex hosts nets servedSrc packet := by
  have interface : ∀ {index : Nat}, index < 2 ^ 32 →
      (packet.oif = .ofNat 32 (index % 2 ^ 32) ↔ packet.oif.toNat = index) := by
    intro index fits
    rw [← BitVec.toNat_inj, BitVec.toNat_ofNat, Nat.mod_mod, Nat.mod_eq_of_lt fits]
  have loopback : ∀ addr : BitVec 32,
      loopbackNet.contains (.v4 addr) ↔ addr.toNat / 2 ^ 24 = 127 := by
    intro addr
    have network : (0x7f000000#32 : BitVec 32) >>> 24 = 127#32 := by decide
    simp only [loopbackNet, Prefix.contains, beq_iff_eq]
    rw [BitVec.ushiftRight_xor_distrib, network, BitVec.ofNat_eq_ofNat, BitVec.xor_eq_zero_iff,
      ← BitVec.toNat_inj, BitVec.toNat_ushiftRight, Nat.shiftRight_eq_div_pow]
    rfl
  rw [(verdict_encodeTable order _ packet).1, fires_killSwitch made, interface tun, interface lo]
  refine or_congr_right (or_congr_right ?_)
  constructor
  · rintro (⟨header, network, listed⟩ | ⟨header, network, served⟩ | ⟨net, member, header, network,
      inside⟩ | dhcp)
    · exact .inl ⟨header, network, .inl listed⟩
    · exact .inl ⟨header, network, .inr (.inr (.inr served))⟩
    · rcases mem_append.mp member with given | always
      · exact .inl ⟨header, network, .inr (.inl ⟨net, given, inside⟩)⟩
      · obtain rfl := mem_singleton.mp always
        exact .inl ⟨header, network, .inr (.inr (.inl ((loopback _).mp inside)))⟩
    · exact .inr dhcp
  · rintro (⟨header, network, listed | ⟨net, given, inside⟩ | local127 | served⟩ | dhcp)
    · exact .inl ⟨header, network, listed⟩
    · exact .inr (.inr (.inl ⟨net, mem_append_left _ given, header, network, inside⟩))
    · refine .inr (.inr (.inl ⟨loopbackNet, ?_, header, network, (loopback _).mpr local127⟩))
      exact mem_append_right _ (mem_singleton_self _)
    · exact .inr (.inl ⟨header, network, served⟩)
    · exact .inr (.inr (.inr dhcp))

theorem tracks_table_arm (made : killSwitchMsgs spec = some msgs) (seen : Option Table) :
    (arm spec).Tracks (fun scope => scope.kernel.table) Answer.Succeeds (fun after outcome =>
        after = some (msgs.foldl apply {}) ∧ outcome = .reply .success) seen := by
  have cleared : clearTable.Tracks (fun scope => scope.kernel.table) Answer.Succeeds
      (fun after _ => after = none) seen := by
    refine after_query fun scope _ observed => ?_
    cases seen with
    | none =>
      rw [show scope.kernel.table = none from observed]
      exact rfl
    | some table =>
      rw [show scope.kernel.table = some table from observed]
      exact tracks_attempt none fun _ _ => rfl
  refine after_dial ?_
  refine cleared.bind ?_
  rintro _ _ rfl
  simp only [made]
  refine Task.Tracks.bind (tracks_transact (some (msgs.foldl apply {}))
    fun scope observed => ?_) ?_
  · simp only [Kernel.batch, show scope.kernel.table = none from observed, getD_none]
  rintro _ _ ⟨rfl, rfl⟩
  exact after_lockedUpdate _ (fun _ observed => observed) ⟨rfl, rfl⟩

theorem exec_handleEnableKillSwitch {helper : Helper} {id : SessionId} {req : Request}
    {answers : Nat → Answer} (created : (helper.session id).tunIndex ≠ 0)
    (parsed : parseAllowlist (req.control ++ req.bypass) = .ok (hosts, nets))
    (found : (answers 1).error = none) :
    (Work.on (handleEnableKillSwitch req) id).exec answers helper =
      (Work.on (arm ⟨(helper.session id).tunIndex, (answers 1).index, hosts, nets ++ [loopbackNet],
        (helper.session id).servedSrc⟩) id).exec (fun index => answers (index + 3)) helper := by
  have tun : (helper.scope id).session.tunIndex ≠ 0 := created
  rw [handleEnableKillSwitch, lockedRead, exec_lockedView, if_neg tun, exec_query]
  simp only [laterAnswers, found]
  rw [lockedRead, exec_lockedView, parsed]
  rfl

/-- An arming request with IPv4 networks builds a rule set that nftables carries out, and that lets
out exactly what it is meant to. Interfaces are numbered in 32 bits. -/
theorem lockdown_lets_out_exactly {helper : Helper} {id : SessionId} {req : Request}
    {hosts : List Addr} {nets : List Prefix} {answers : Nat → Answer}
    (bound : id < helper.sessions.length) (created : (helper.session id).tunIndex ≠ 0)
    (parsed : parseAllowlist (req.control ++ req.bypass) = .ok (hosts, nets))
    (ipv4 : ∀ net ∈ nets, net.addr.is4 = true) (succeeds : ∀ index, (answers index).Succeeds)
    (tun : (helper.session id).tunIndex < 2 ^ 32) (lo : (answers 1).index < 2 ^ 32)
    (order : ByteOrder) :
    let armed := (Work.on (handleEnableKillSwitch req) id).exec answers helper
    let spec : KillSwitchSpec := ⟨(helper.session id).tunIndex, (answers 1).index, hosts,
      nets ++ [loopbackNet], (helper.session id).servedSrc⟩
    armed.2 = .reply .success ∧ ∃ table, armed.1.kernel.table = some table ∧
      (enableKillSwitch order spec).bind build = some (encodeTable order table) ∧
      ∀ packet, let verdict := (encodeTable order table).verdict order packet
        let permitted := Permitted (helper.session id).tunIndex (answers 1).index hosts nets
          (helper.session id).servedSrc packet
        (verdict = nfAccept ↔ permitted) ∧ (verdict = nfDrop ↔ ¬permitted) := by
  intro armed spec
  have families : ∀ net ∈ spec.nets, net.addr.is4 := by
    intro net member
    rcases mem_append.mp member with given | always
    · exact ipv4 net given
    · rw [mem_singleton.mp always]
      rfl
  obtain ⟨msgs, made⟩ := isSome_iff_exists.mp ((killSwitchMsgs_isSome_iff spec).mpr families)
  obtain ⟨-, -, table, outcome⟩ := exec_watch (fun _ kernel => kernel.table) bound
    (fun index => succeeds (index + 3)) (tracks_table_arm made helper.kernel.table)
  have front := exec_handleEnableKillSwitch created parsed (succeeds 1).1
  rw [← front] at table outcome
  refine ⟨outcome, _, table, ?_, fun packet => ?_⟩
  · rw [enableKillSwitch_eq, made]
    exact build_killSwitch order made
  · have exactly := verdict_killSwitch made tun lo order packet
    rw [← exactly]
    rcases (verdict_encodeTable order (msgs.foldl apply {}) packet).2 with accepted | dropped
    · rw [accepted]
      simp [nfAccept, nfDrop]
    · rw [dropped]
      simp [nfAccept, nfDrop]

/-- A session with a tunnel device. -/
def withTun : Helper where
  sess := some 0
  sessions := [{ token := "t", uid := 1000, openedBy := 0, tunIndex := 7 }]

/-- A request that lists a host and a network. -/
def listsTwo : Request :=
  { verbWith .enableKillSwitch "t" with control := ["1.2.3.4"], bypass := ["10.0.0.0/8"] }

/-- A packet that leaves neither on the tunnel nor on loopback. -/
def sentTo (dst : BitVec 32) : Packet where
  oif := 2
  network := .ipv4 ⟨0x45, 0, 20, 0, 0, 64, 6, 0, 0xc0a80005, dst, []⟩
  transport := none

/-- A packet into the listed network leaves, another does not. -/
theorem listed_network_let_out :
    ∃ table, ((Work.on (handleEnableKillSwitch listsTwo) 0).exec (fun _ => { index := 1 })
        withTun).1.kernel.table = some table ∧
      (encodeTable .little table).verdict .little (sentTo 0x0a010203) = nfAccept ∧
      (encodeTable .little table).verdict .little (sentTo 0x08080808) = nfDrop := by
  obtain ⟨-, table, armed, -, exactly⟩ := @lockdown_lets_out_exactly withTun 0 listsTwo
    [.v4 0x01020304] [⟨.v4 0x0a000000, 8, by decide⟩] (fun _ => { index := 1 }) (by decide)
    (by decide) rfl (by decide) (fun _ => ⟨rfl, rfl⟩) (by decide) (by decide) .little
  refine ⟨table, armed, (exactly (sentTo 0x0a010203)).1.mpr ?_,
    (exactly (sentTo 0x08080808)).2.mpr ?_⟩
  · refine .inr (.inr (.inl ⟨_, rfl, .inr (.inl ⟨_, .head _, ?_⟩)⟩))
    decide
  · rintro (tun | lo | ⟨header, sent, listed | ⟨net, member, inside⟩ | home | served⟩ | dhcp)
    · revert tun
      decide
    · revert lo
      decide
    · cases sent
      revert listed
      decide
    · cases sent
      obtain rfl := mem_singleton.mp member
      revert inside
      decide
    · cases sent
      revert home
      decide
    · cases served
    · cases dhcp.1

end Nft

end Bacchus.Netd
