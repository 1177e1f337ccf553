import Bacchus.Netd.Wire

/-!
# What the helper changes on the machine

The state the helper owns in the kernel and the resolver, and the primitives of `nft.go`,
`rtnetlink.go` and `dns.go` that change it. A system call that fails changes nothing. The nftables
transaction is kept as the messages `enableKillSwitch` builds.
-/

namespace Bacchus.Netd

open Netip

inductive MetaKey where
  | oif | nfproto | l4proto

inductive PayloadBase where
  | networkHeader | transportHeader

/-- The two sets of the helper's table: `allow4` and `serve4`. -/
inductive SetName where
  | allow | serve
deriving DecidableEq

/-- One expression of a rule; every rule ends by accepting. -/
inductive Expr where
  | metaLoad (key : MetaKey)
  | payloadLoad (base : PayloadBase) (offset length : Nat)
  | bitwiseMask (mask : BitVec 32)
  | cmpEq (value : Nat)
  | lookup (set : SetName)
  | accept

/-- The messages of one batch. -/
inductive NftMsg where
  | newTable
  /-- The output chain, whose policy is to drop. -/
  | newChain
  | newSet (set : SetName)
  | newSetElem (set : SetName) (addrs : List (BitVec 32))
  | newRule (exprs : List Expr)

/-- The helper's table: its sets and the rules of its output chain. -/
structure Table where
  sets : SetName → Option (List (BitVec 32)) := fun _ => none
  rules : List (List Expr) := []

/-- Replace the contents of one set. -/
def Table.putSet (table : Table) (set : SetName) (addrs : Option (List (BitVec 32))) : Table :=
  { table with sets := Function.update table.sets set addrs }

/-- One message of a transaction applied to the helper's table. -/
def Table.apply (table : Table) : NftMsg → Table
  | .newTable | .newChain => table
  | .newSet set => table.putSet set (some ((table.sets set).getD []))
  | .newSetElem set addrs => table.putSet set (some ((table.sets set).getD [] ++ addrs))
  | .newRule exprs => { table with rules := table.rules ++ [exprs] }

/-- Everything the lockdown needs. -/
structure KillSwitchSpec where
  tunIfIndex : Nat
  loIfIndex : Nat
  hosts : List Addr
  nets : List Prefix
  servedSrc : Option Addr

/-- `net4Mask`. The shift count is signed: past 32 bits Go panics. -/
def net4Mask (bits : Nat) : Option (BitVec 32) :=
  if bits ≤ 32 then some (BitVec.allOnes 32 <<< (32 - bits)) else none

/-- `elemMsg`: only IPv4 addresses are encoded, and nothing when none is left. -/
def elemMsg (set : SetName) (addrs : List Addr) : List NftMsg :=
  let encoded := addrs.filterMap fun addr => if addr.is4 then addr.as4 else none
  if encoded = [] then [] else [.newSetElem set encoded]

/-- A rule that accepts what its expressions let through. -/
def accepting (exprs : List Expr) : NftMsg := .newRule (exprs ++ [.accept])

/-- The start of a rule on the destination of an IPv4 packet. -/
def destination : List Expr :=
  [.metaLoad .nfproto, .cmpEq 2, .payloadLoad .networkHeader 16 4]

/-- The masked compare for one CIDR entry; `none` where building it panics. -/
def netRule (net : Prefix) : Option NftMsg := do
  let mask ← net4Mask net.bits
  let network ← net.masked.addr.as4
  pure (accepting (destination ++ [.bitwiseMask mask, .cmpEq network.toNat]))

/-- The transaction of `enableKillSwitch`; `none` if building it panics. -/
def killSwitchMsgs (spec : KillSwitchSpec) : Option (List NftMsg) := do
  let netRules ← spec.nets.mapM netRule
  let serveSet := match spec.servedSrc with
    | some src => .newSet .serve :: elemMsg .serve [src]
    | none => []
  let serveRule := match spec.servedSrc with
    | some _ => [accepting [.metaLoad .nfproto, .cmpEq 2, .payloadLoad .networkHeader 12 4,
        .lookup .serve]]
    | none => []
  pure ([.newTable, .newChain, .newSet .allow] ++ serveSet ++ elemMsg .allow spec.hosts ++
    [accepting [.metaLoad .oif, .cmpEq (spec.tunIfIndex % 2 ^ 32)],
      accepting [.metaLoad .oif, .cmpEq (spec.loIfIndex % 2 ^ 32)],
      accepting (destination ++ [.lookup .allow])] ++ serveRule ++ netRules ++
    [accepting [.metaLoad .l4proto, .cmpEq 17, .payloadLoad .transportHeader 0 2, .cmpEq 68,
      .payloadLoad .transportHeader 2 2, .cmpEq 67]])

/-- One route in the helper's own table. -/
structure RouteSpec where
  dst : Prefix
  gateway : Option Addr
  outIface : Nat

/-- What stands at `/etc/resolv.conf`. -/
inductive ResolvConf where
  | absent
  | symlink (target : String)
  | file (content : String) (mode : Nat)

/-- One link as systemd-resolved knows it. -/
structure ResolvedLink where
  dns : Option Addr := none
  /-- The link carries the `~.` routing domain. -/
  routesAll : Bool := false
  defaultRoute : Bool := true

/-- Everything on the machine that the helper reads back or changes. -/
structure Kernel where
  table : Option Table := none
  routes : List RouteSpec := []
  fibRule4 : Bool := false
  fibRule6 : Bool := false
  /-- Served-egress rules: source address and uid. -/
  servedRules : List (Addr × UInt32) := []
  /-- Contents of each interface's `disable_ipv6`. -/
  ipv6 : String → String := fun _ => "0\n"
  links : Nat → ResolvedLink := fun _ => {}
  resolvConf : ResolvConf := .absent

namespace Kernel

def deleteTable (kernel : Kernel) : Kernel := { kernel with table := none }

/-- One committed transaction on the helper's table. -/
def batch (msgs : List NftMsg) (kernel : Kernel) : Kernel :=
  { kernel with table := some (msgs.foldl Table.apply (kernel.table.getD {})) }

/-- Add one address to the live allowlist, if there is a table. -/
def refreshAllowIP (addr : Addr) (kernel : Kernel) : Kernel :=
  { kernel with
    table := kernel.table.map fun table => (elemMsg .allow [addr]).foldl Table.apply table }

/-- Take one address out of the served-egress set. -/
def revokeServed (addr : Addr) (kernel : Kernel) : Kernel :=
  let without (addrs : List (BitVec 32)) := addrs.filter fun element => some element ≠ addr.as4
  { kernel with table := kernel.table.map fun table =>
      table.putSet .serve ((table.sets .serve).map without) }

/-- `addRoute` replaces a route to the same destination. -/
def addRoute (spec : RouteSpec) (kernel : Kernel) : Kernel :=
  { kernel with routes := kernel.routes.filter (·.dst ≠ spec.dst) ++ [spec] }

def delRoute (dst : Prefix) (kernel : Kernel) : Kernel :=
  { kernel with routes := kernel.routes.filter (·.dst ≠ dst) }

/-- `listOwnRoutes`: a route of length zero has no destination and is skipped. -/
def listOwnRoutes (kernel : Kernel) : List Prefix :=
  (kernel.routes.map (·.dst)).filter (·.bits ≠ 0)

/-- `addServedRule`: an identical rule is already ours. -/
def addServedRule (src : Addr) (uid : UInt32) (kernel : Kernel) : Kernel :=
  { kernel with servedRules :=
      if (src, uid) ∈ kernel.servedRules then kernel.servedRules
      else kernel.servedRules ++ [(src, uid)] }

/-- `delServedRule` removes one rule at the helper's priority, whichever it is. -/
def delServedRule (kernel : Kernel) : Kernel :=
  { kernel with servedRules := kernel.servedRules.drop 1 }

def writeIPv6Disabled (ifName value : String) (kernel : Kernel) : Kernel :=
  { kernel with ipv6 := Function.update kernel.ipv6 ifName value }

def updateLink (index : Nat) (update : ResolvedLink → ResolvedLink) (kernel : Kernel) : Kernel :=
  { kernel with links := Function.update kernel.links index (update (kernel.links index)) }

end Kernel

private theorem as4_masked_of_v6 {net : Prefix} {bits : BitVec 128} {zone : String}
    (family : net.addr = .v6 bits zone) (short : net.bits ≤ 32) : net.masked.addr.as4 = none := by
  -- Masked to at most 32 bits, the 16 bits an IPv4-mapped address needs are gone.
  have cleared : (bits &&& (BitVec.allOnes 128 <<< (128 - net.bits))).toNat / 2 ^ 32 ≠ 0xffff := by
    intro mapped
    have bit : (bits &&& (BitVec.allOnes 128 <<< (128 - net.bits))).toNat.testBit 32 := by
      have shifted :
          ((bits &&& (BitVec.allOnes 128 <<< (128 - net.bits))).toNat / 2 ^ 32).testBit 0 =
          true := by rw [mapped]; decide
      rwa [Nat.testBit_div_two_pow] at shifted
    have masked : (bits &&& (BitVec.allOnes 128 <<< (128 - net.bits))).getLsbD 32 = false := by
      have outside : (32 : Nat) < 128 - net.bits := by omega
      simp [outside]
    rw [BitVec.getLsbD] at masked
    rw [masked] at bit
    cases bit
  simp only [Prefix.masked, family, Addr.keepTop, Addr.as4, Addr.is4In6, beq_iff_eq]
  exact if_neg cleared

/-- A CIDR entry can be built exactly when it is IPv4. -/
theorem netRule_isSome_iff (net : Prefix) : (netRule net).isSome ↔ net.addr.is4 := by
  have bounded := net.bounded
  cases family : net.addr with
  | v4 bits =>
    rw [family] at bounded
    have short : net.bits ≤ 32 := bounded
    simp [netRule, net4Mask, short, Prefix.masked, family, Addr.keepTop, Addr.as4, Addr.is4]
  | v6 bits =>
    by_cases short : net.bits ≤ 32
    · simp [netRule, net4Mask, short, as4_masked_of_v6 family short, Addr.is4]
    · simp [netRule, net4Mask, short, Addr.is4]

private theorem mapM_isSome_iff {α β : Type} (build : α → Option β) (items : List α) :
    (items.mapM build).isSome ↔ ∀ item ∈ items, (build item).isSome := by
  induction items with
  | nil => simp
  | cons item items ih =>
    simp only [List.mapM_cons, List.mem_cons, forall_eq_or_imp, ← ih]
    cases build item <;> cases items.mapM build <;> simp

/-- The lockdown can be built exactly when every CIDR entry is IPv4; an IPv6 block panics. -/
theorem killSwitchMsgs_isSome_iff (spec : KillSwitchSpec) :
    (killSwitchMsgs spec).isSome ↔ ∀ net ∈ spec.nets, net.addr.is4 := by
  have built : (killSwitchMsgs spec).isSome = (spec.nets.mapM netRule).isSome := by
    unfold killSwitchMsgs
    cases spec.nets.mapM netRule <;> rfl
  rw [built, mapM_isSome_iff]
  simp only [netRule_isSome_iff]

/-- What a list is built into, member by member. -/
theorem mem_mapM_iff {α β : Type} {make : α → Option β} {items : List α} {made : List β}
    (built : items.mapM make = some made) (result : β) :
    result ∈ made ↔ ∃ item ∈ items, make item = some result := by
  induction items generalizing made with
  | nil =>
    cases built
    simp
  | cons item items ih =>
    rw [List.mapM_cons] at built
    obtain ⟨first, here, built⟩ := Option.bind_eq_some_iff.mp built
    obtain ⟨_, there, built⟩ := Option.bind_eq_some_iff.mp built
    cases built
    simp only [List.mem_cons, exists_eq_or_imp, ih there, here,
      Option.some.injEq, @eq_comm _ result first]

variable {table : Table} {msgs : List NftMsg}

/-- The rules of a table are those added to it. -/
theorem mem_rules_foldl {exprs : List Expr} :
    exprs ∈ (msgs.foldl Table.apply table).rules ↔
      exprs ∈ table.rules ∨ .newRule exprs ∈ msgs := by
  induction msgs generalizing table with
  | nil => simp
  | cons msg msgs ih =>
    rw [List.foldl_cons, ih]
    cases msg <;> simp [Table.apply, Table.putSet, or_assoc]

theorem mem_sets_putSet {table : Table} {set other : SetName} {addrs : List (BitVec 32)}
    {address : BitVec 32} :
    address ∈ ((table.putSet other (some ((table.sets other).getD [] ++ addrs))).sets set).getD []
      ↔ address ∈ (table.sets set).getD [] ∨ set = other ∧ address ∈ addrs := by
  by_cases here : set = other
  · subst here
    simp [Table.putSet]
  · simp [Table.putSet, here]

variable {set : SetName} {address : BitVec 32}

theorem mem_sets_apply {msg : NftMsg} :
    address ∈ ((table.apply msg).sets set).getD [] ↔
      address ∈ (table.sets set).getD [] ∨
        ∃ addrs, msg = .newSetElem set addrs ∧ address ∈ addrs := by
  cases msg with
  | newSet other =>
    have put := @mem_sets_putSet table set other [] address
    simpa [Table.apply] using put
  | newSetElem other addrs =>
    rw [Table.apply, mem_sets_putSet]
    refine or_congr_right ⟨?_, ?_⟩
    · rintro ⟨rfl, member⟩
      exact ⟨addrs, rfl, member⟩
    · rintro ⟨_, ⟨⟩, member⟩
      exact ⟨rfl, member⟩
  | _ => simp [Table.apply]

theorem mem_sets_foldl :
    address ∈ ((msgs.foldl Table.apply table).sets set).getD [] ↔
      address ∈ (table.sets set).getD [] ∨
        ∃ addrs, .newSetElem set addrs ∈ msgs ∧ address ∈ addrs := by
  induction msgs generalizing table with
  | nil => simp
  | cons msg msgs ih =>
    rw [List.foldl_cons, ih, mem_sets_apply, or_assoc]
    refine or_congr_right ⟨?_, ?_⟩
    · rintro (⟨addrs, rfl, member⟩ | ⟨addrs, later, member⟩)
      · exact ⟨addrs, .head _, member⟩
      · exact ⟨addrs, .tail _ later, member⟩
    · rintro ⟨addrs, found, member⟩
      rcases List.mem_cons.mp found with rfl | later
      · exact .inl ⟨addrs, rfl, member⟩
      · exact .inr ⟨addrs, later, member⟩

/-- The elements `elemMsg` encodes are the IPv4 addresses of its list. -/
theorem mem_elemMsg {other : SetName} {addrs : List Addr} :
    (∃ encoded, .newSetElem set encoded ∈ elemMsg other addrs ∧ address ∈ encoded) ↔
      set = other ∧ .v4 address ∈ addrs := by
  have element : address ∈ (addrs.filterMap fun addr => if addr.is4 then addr.as4 else none) ↔
      .v4 address ∈ addrs := by
    rw [List.mem_filterMap]
    constructor
    · rintro ⟨addr, member, encoded⟩
      cases addr with
      | v4 =>
        cases encoded
        exact member
      | v6 => cases encoded
    · intro member
      exact ⟨_, member, rfl⟩
  unfold elemMsg
  simp only
  split
  · rename_i none
    rw [← element, none]
    simp
  · simp only [List.mem_singleton, NftMsg.newSetElem.injEq]
    constructor
    · rintro ⟨_, ⟨rfl, rfl⟩, member⟩
      exact ⟨rfl, element.mp member⟩
    · rintro ⟨rfl, member⟩
      exact ⟨_, ⟨rfl, rfl⟩, element.mpr member⟩

/-- A network's message adds a rule. -/
theorem netRule_newRule {net : Prefix} {msg : NftMsg} (made : netRule net = some msg) :
    ∃ exprs, msg = .newRule exprs := by
  obtain ⟨_, -, made⟩ := Option.bind_eq_some_iff.mp made
  obtain ⟨_, -, made⟩ := Option.bind_eq_some_iff.mp made
  cases made
  exact ⟨_, rfl⟩

variable {spec : KillSwitchSpec}

theorem mem_killSwitch_elem (made : killSwitchMsgs spec = some msgs) (set : SetName)
    (addrs : List (BitVec 32)) :
    .newSetElem set addrs ∈ msgs ↔ .newSetElem set addrs ∈ elemMsg .allow spec.hosts ∨
      ∃ src, spec.servedSrc = some src ∧ .newSetElem set addrs ∈ elemMsg .serve [src] := by
  obtain ⟨netRules, built, made⟩ := Option.bind_eq_some_iff.mp made
  replace made := Option.some.inj made
  have apart : .newSetElem set addrs ∉ netRules := by
    intro member
    obtain ⟨_, -, rule⟩ := (mem_mapM_iff built _).mp member
    obtain ⟨_, wrong⟩ := netRule_newRule rule
    cases wrong
  rw [← made]
  cases spec.servedSrc with
  | none => simp [accepting, apart]
  | some =>
    rw [or_comm]
    simp [accepting, apart]

/-- What the lockdown's sets hold: the listed hosts, and the served source. -/
theorem mem_sets_killSwitch (made : killSwitchMsgs spec = some msgs) (address : BitVec 32) :
    (address ∈ ((msgs.foldl Table.apply {}).sets .allow).getD [] ↔ .v4 address ∈ spec.hosts) ∧
      (address ∈ ((msgs.foldl Table.apply {}).sets .serve).getD [] ↔
        spec.servedSrc = some (.v4 address)) := by
  have element : ∀ set, address ∈ ((msgs.foldl Table.apply {}).sets set).getD [] ↔
      set = .allow ∧ .v4 address ∈ spec.hosts ∨
        set = .serve ∧ spec.servedSrc = some (.v4 address) := by
    intro set
    have fresh : address ∉ (({} : Table).sets set).getD [] := List.not_mem_nil
    rw [mem_sets_foldl, or_iff_right fresh]
    simp only [mem_killSwitch_elem made, or_and_right, exists_or, mem_elemMsg]
    refine or_congr_right ⟨?_, ?_⟩
    · rintro ⟨addrs, ⟨src, served, found⟩, member⟩
      obtain ⟨rfl, same⟩ := mem_elemMsg.mp ⟨addrs, found, member⟩
      exact ⟨rfl, served.trans (congrArg some (List.mem_singleton.mp same).symm)⟩
    · rintro ⟨rfl, served⟩
      obtain ⟨addrs, found, member⟩ := mem_elemMsg.mpr
        ⟨rfl, List.mem_singleton_self (Addr.v4 address)⟩
      exact ⟨addrs, ⟨_, served, found⟩, member⟩
  exact ⟨by simp [element], by simp [element]⟩

/-- The rules of the lockdown. -/
theorem mem_killSwitch_rule (made : killSwitchMsgs spec = some msgs) (exprs : List Expr) :
    .newRule exprs ∈ msgs ↔ exprs = [.metaLoad .oif, .cmpEq (spec.tunIfIndex % 2 ^ 32), .accept] ∨
      exprs = [.metaLoad .oif, .cmpEq (spec.loIfIndex % 2 ^ 32), .accept] ∨
      exprs = destination ++ [.lookup .allow, .accept] ∨
      spec.servedSrc.isSome ∧ exprs = [.metaLoad .nfproto, .cmpEq 2,
        .payloadLoad .networkHeader 12 4, .lookup .serve, .accept] ∨
      (∃ net ∈ spec.nets, netRule net = some (.newRule exprs)) ∨
      exprs = [.metaLoad .l4proto, .cmpEq 17, .payloadLoad .transportHeader 0 2, .cmpEq 68,
        .payloadLoad .transportHeader 2 2, .cmpEq 67, .accept] := by
  obtain ⟨_, built, made⟩ := Option.bind_eq_some_iff.mp made
  replace made := Option.some.inj made
  have apart : ∀ set addrs, .newRule exprs ∉ elemMsg set addrs := by
    intro set addrs member
    unfold elemMsg at member
    simp only at member
    split at member
    · exact absurd member List.not_mem_nil
    · cases List.mem_singleton.mp member
  rw [← made, ← mem_mapM_iff built]
  cases spec.servedSrc with
  | none | some => simp [accepting, apart]

end Bacchus.Netd
