import Bacchus.Netd.Clients

/-!
# What a session puts in force

The served-egress rules, the allowance in the lockdown and the capture of the resolver as one
observation. While no call fails, every handler leaves enough of a record to undo what is in
force, provided a carve-out is not asked for on top of another.
-/

namespace Bacchus.Netd

open Netip List Option Function

/-- What name resolution on the machine is set to. -/
@[ext] structure Resolver where
  links : Nat → ResolvedLink
  conf : ResolvConf

/-- What releasing a capture through systemd-resolved makes of the links. -/
def DnsState.reverted (dns : DnsState) (links : Nat → ResolvedLink) : Nat → ResolvedLink :=
  let promoted := if dns.physIndex > 0 then
      update links dns.physIndex
        { links dns.physIndex with defaultRoute := dns.physDefaultRoute }
    else links
  if dns.tunIndex > 0 then update promoted dns.tunIndex {} else promoted

/-- What releasing a capture through `/etc/resolv.conf` puts there. -/
def DnsState.stored (dns : DnsState) : ResolvConf :=
  if dns.resolvWasSymlink then .symlink dns.resolvTarget
  else
    match dns.resolvContent with
    | some content => .file content (if dns.resolvMode = 0 then 0o644 else dns.resolvMode)
    | none => .absent

/-- What releasing makes of the resolver. -/
def DnsState.undone (dns : DnsState) (resolver : Resolver) : Resolver :=
  if dns.captured then
    if dns.viaResolved then { resolver with links := dns.reverted resolver.links }
    else { resolver with conf := dns.stored }
  else resolver

/-- A file that was put back; without a mode it is given the usual one. -/
def ResolvConf.putBack : ResolvConf → ResolvConf
  | .file content mode => .file content (if mode = 0 then 0o644 else mode)
  | other => other

/-- No capture is in force: links and file are as found, or reset. -/
structure Released (found resolver : Resolver) : Prop where
  links : ∀ index, resolver.links index = found.links index ∨ resolver.links index = {}
  conf : resolver.conf = found.conf ∨ resolver.conf = found.conf.putBack

/-- An unchanged resolver has been given back. -/
theorem released_refl (resolver : Resolver) : Released resolver resolver where
  links _ := .inl rfl
  conf := .inl rfl

/-- The session remembers enough to release what it has captured. -/
structure Releasable (found : Resolver) (dns : DnsState) (resolver : Resolver) : Prop where
  released : Released found (dns.undone resolver)
  fresh : dns.captured = false → dns = {}

section

variable {found resolver : Resolver}

theorem Released.resetLink (released : Released found resolver) (index : Nat) :
    Released found { resolver with links := update resolver.links index {} } where
  links other := by
    by_cases here : other = index
    · subst here
      exact .inr (update_self ..)
    · simp only [update_of_ne here]
      exact released.links other
  conf := released.conf

/-- A capture of the tunnel's link, which only a reset undoes. -/
theorem Released.captureLink (released : Released found resolver) {tunIndex : Nat}
    (named : 0 < tunIndex) (link : ResolvedLink) :
    Releasable found { tunIndex, viaResolved := true, captured := true }
      { resolver with links := update resolver.links tunIndex link } where
  released := by
    have reset := released.resetLink tunIndex
    simpa [DnsState.undone, DnsState.reverted, named] using reset
  fresh absent := by cases absent

/-- Taking the default route from the physical link is undone by giving back what it had. -/
theorem Releasable.demote {dns : DnsState} (releasable : Releasable found dns resolver)
    (captured : dns.captured) (viaResolved : dns.viaResolved)
    (first : dns.physIndex = 0) {physIndex : Nat} (named : 0 < physIndex) :
    Releasable found { dns with
        physIndex
        physDefaultRoute := (resolver.links physIndex).defaultRoute }
      { resolver with
        links := update resolver.links physIndex
          { resolver.links physIndex with defaultRoute := false } } where
  released := by
    have given : update (update resolver.links physIndex
          { resolver.links physIndex with defaultRoute := false }) physIndex
        { resolver.links physIndex with
          defaultRoute := (resolver.links physIndex).defaultRoute } = resolver.links := by
      rw [update_idem]
      exact update_eq_self ..
    have before := releasable.released
    simpa [DnsState.undone, DnsState.reverted, captured, viaResolved, first, named, given]
      using before
  fresh absent := by
    rw [show dns.captured = false from absent] at captured
    cases captured

theorem putBack_putBack (conf : ResolvConf) : conf.putBack.putBack = conf.putBack := by
  cases conf with
  | absent | symlink => rfl
  | file content mode => by_cases unset : mode = 0 <;> simp [ResolvConf.putBack, unset]

/-- Replacing the file is undone by what was remembered of it. -/
theorem Released.captureConf (released : Released found resolver) {dns : DnsState}
    (captured : dns.captured) (viaFile : dns.viaResolved = false)
    (remembered : dns.stored = resolver.conf.putBack) (conf : ResolvConf) :
    Releasable found dns { resolver with conf } where
  released := by
    have restored : dns.undone { resolver with conf } =
        { resolver with conf := resolver.conf.putBack } := by
      simp [DnsState.undone, captured, viaFile, remembered]
    rw [restored]
    refine ⟨released.links, .inr ?_⟩
    rcases released.conf with same | put
    · exact congrArg ResolvConf.putBack same
    · exact (congrArg ResolvConf.putBack put).trans (putBack_putBack _)
  fresh absent := by
    rw [absent] at captured
    cases captured

end

/-- What a session has put in force, and what it remembers of it. -/
structure Leavings where
  dns : DnsState
  served : Option Addr
  armed : Bool
  /-- The lockdown table exists. -/
  locked : Bool
  /-- The sources the lockdown lets out. -/
  allowance : List (BitVec 32)
  /-- The served-egress rules. -/
  rules : List (Addr × UInt32)
  resolver : Resolver

def Kernel.allowance (kernel : Kernel) : List (BitVec 32) :=
  (kernel.table.bind fun table => table.sets .serve).getD []

def Kernel.resolver (kernel : Kernel) : Resolver := ⟨kernel.links, kernel.resolvConf⟩

def leavings (sess : SessionState) (kernel : Kernel) : Leavings where
  dns := sess.dns
  served := sess.servedSrc
  armed := sess.killSwitchArmed
  locked := kernel.table.isSome
  allowance := kernel.allowance
  rules := kernel.servedRules
  resolver := kernel.resolver

def Scope.leavings (scope : Scope) : Leavings := Netd.leavings scope.session scope.kernel

theorem leavings_blind : Blind Scope.leavings where
  routes _ _ := rfl
  fibRule4 _ _ := rfl
  fibRule6 _ _ := rfl
  gw _ _ := rfl
  tunIndex _ _ := rfl
  tunAddr _ _ := rfl

/-- The leavings do not depend on the saved settings. -/
theorem leavings_blindToSettings : BlindToSettings Scope.leavings where
  memory _ _ _ := rfl
  ipv6 _ _ := rfl

theorem leavings_updateLink (scope : Scope) (index : Nat) (update : ResolvedLink → ResolvedLink) :
    { scope with kernel := scope.kernel.updateLink index update }.leavings = { scope.leavings with
        resolver.links := Function.update scope.leavings.resolver.links index
          (update (scope.leavings.resolver.links index)) } := rfl

theorem leavings_remember (scope : Scope) (remember : DnsState → DnsState) :
    { scope with session := { scope.session with dns := remember scope.session.dns } }.leavings =
      { scope.leavings with dns := remember scope.leavings.dns } := rfl

/-- A change of the table. -/
theorem leavings_table (scope : Scope) (table : Option Table) :
    { scope with kernel := { scope.kernel with table } }.leavings = { scope.leavings with
        locked := table.isSome
        allowance := (table.bind fun table => table.sets .serve).getD [] } := rfl

/-- Everything in force is the session's and undone at its end. -/
structure Held (found : Resolver) (seen : Leavings) : Prop where
  few : seen.rules.length ≤ 1
  rules : ∀ rule ∈ seen.rules, seen.served = some rule.1
  allowance : ∀ element ∈ seen.allowance, seen.served = some (.v4 element)
  unlocked : seen.locked = false → seen.allowance = []
  armed : seen.locked → seen.armed
  releasable : Releasable found seen.dns seen.resolver

section

variable {found : Resolver} {seen : Leavings}

/-- The resolver and the memory of it are all that changes, and can be undone. -/
def RecordsCapture (found : Resolver) (seen after : Leavings) : Prop :=
  ∃ dns resolver, after = { seen with dns, resolver } ∧
    Releasable found dns resolver

theorem tracks_captureViaResolved (released : Released found seen.resolver) (fresh : seen.dns = {})
    {tunIndex : Nat} (named : 0 < tunIndex) (sink : Addr) :
    (captureViaResolved tunIndex sink).Ends Scope.leavings
      (fun after _ => RecordsCapture found seen after) seen := by
  let link : ResolvedLink :=
    { seen.resolver.links tunIndex with dns := some sink, routesAll := true }
  let pointed : Resolver :=
    { seen.resolver with links := update seen.resolver.links tunIndex link }
  let remembered : DnsState := { tunIndex, viaResolved := true, captured := true }
  have captured : Releasable found remembered pointed := released.captureLink named link
  refine after_change { seen with
    resolver.links := update seen.resolver.links tunIndex
      { seen.resolver.links tunIndex with dns := some sink } } (by rintro scope rfl; rfl) ?_
  refine after_change { seen with resolver := pointed } ?_ ?_
  · intro scope observed
    rw [leavings_updateLink, observed]
    simp only [update_idem, update_self]
    rfl
  refine after_bareUpdate { seen with dns := remembered, resolver := pointed } ?_ ?_
  · intro scope observed
    rw [leavings_remember scope fun dns =>
      { dns with tunIndex, viaResolved := true, captured := true }, observed, fresh]
  refine after_bareRead fun scope _ => ?_
  cases scope.session.gw with
  | none => exact ⟨_, _, rfl, captured⟩
  | some gw =>
    simp only
    split
    · exact ⟨_, _, rfl, captured⟩
    · rename_i absent
      have physical : 0 < gw.ifIndex := Nat.pos_of_ne_zero absent
      let both : DnsState := { remembered with
        physIndex := gw.ifIndex
        physDefaultRoute := (pointed.links gw.ifIndex).defaultRoute }
      let demoted : Resolver := { pointed with
        links := update pointed.links gw.ifIndex
          { pointed.links gw.ifIndex with defaultRoute := false } }
      have undoable : Releasable found both demoted := captured.demote rfl rfl rfl physical
      refine after_query fun scope _ observed => ?_
      have prior : scope.kernel.links gw.ifIndex = pointed.links gw.ifIndex :=
        congrArg (fun seen : Leavings => seen.resolver.links gw.ifIndex) observed
      rw [prior]
      refine after_change { seen with dns := remembered, resolver := demoted } ?_ ?_
      · intro scope observed
        rw [leavings_updateLink, observed]
      refine after_bareUpdate { seen with dns := both, resolver := demoted } ?_
        ⟨_, _, rfl, undoable⟩
      intro scope observed
      rw [leavings_remember scope fun dns => { dns with
        physIndex := gw.ifIndex
        physDefaultRoute := (pointed.links gw.ifIndex).defaultRoute }, observed]

theorem tracks_replaceResolvConf (released : Released found seen.resolver)
    {remember : DnsState → DnsState} (sink : Addr)
    (viaFile : (remember seen.dns).viaResolved = false)
    (remembered : (remember seen.dns).stored = seen.resolver.conf.putBack) :
    (replaceResolvConf remember sink).Ends Scope.leavings
      (fun after _ => RecordsCapture found seen after) seen := by
  let captured : DnsState := { remember seen.dns with captured := true }
  let replaced : Resolver := { seen.resolver with conf := .file (resolvBody sink) 0o644 }
  have undoable : Releasable found captured replaced :=
    @Released.captureConf found seen.resolver released captured rfl viaFile remembered _
  refine after_bareUpdate { seen with dns := remember seen.dns } (by rintro scope rfl; rfl) ?_
  refine after_change { seen with dns := remember seen.dns, resolver := replaced } ?_ ?_
  · intro scope observed
    exact congrArg (fun seen : Leavings =>
      { seen with resolver.conf := .file (resolvBody sink) 0o644 }) observed
  refine after_bareUpdate { seen with dns := captured, resolver := replaced } ?_
    ⟨_, _, rfl, undoable⟩
  intro scope observed
  rw [leavings_remember scope fun dns => { dns with captured := true }, observed]

theorem tracks_captureViaResolvConf (released : Released found seen.resolver)
    (fresh : seen.dns = {}) (sink : Addr) :
    (captureViaResolvConf sink).Ends Scope.leavings
      (fun after _ => RecordsCapture found seen after) seen := by
  refine after_query fun scope _ observed => ?_
  have there : scope.kernel.resolvConf = seen.resolver.conf :=
    congrArg (fun seen : Leavings => seen.resolver.conf) observed
  rw [there]
  cases stood : seen.resolver.conf with
  | absent =>
    refine tracks_replaceResolvConf released sink ?_ ?_
    · rw [fresh]
    · rw [fresh, stood]
      rfl
  | symlink | file =>
    refine after_query fun _ _ _ => tracks_replaceResolvConf released sink ?_ ?_
    · rw [fresh]
    · rw [fresh, stood]
      rfl

theorem tracks_captureDNS (releasable : Releasable found seen.dns seen.resolver) :
    captureDNS.Ends Scope.leavings (fun after _ => RecordsCapture found seen after) seen := by
  refine after_bareRead fun scope observed => ?_
  have remembered : scope.session.dns = seen.dns := congrArg Leavings.dns observed
  rw [remembered]
  cases captured : seen.dns.captured with
  | true => exact ⟨_, _, rfl, releasable⟩
  | false =>
    have released : Released found seen.resolver := by
      have undone := releasable.released
      rwa [DnsState.undone, captured] at undone
    have fresh := releasable.fresh captured
    simp only [Bool.false_eq_true, if_false]
    split
    · exact ⟨_, _, rfl, releasable⟩
    · exact ⟨_, _, rfl, releasable⟩
    · rename_i tunAddr configured created
      refine after_dial ?_
      refine after_query fun _ answer _ => ?_
      cases answer.resolvedRunning with
      | true => exact tracks_captureViaResolved released fresh (Nat.pos_of_ne_zero created) _
      | false => exact tracks_captureViaResolvConf released fresh _

theorem tracks_updateLink_if {index : Nat} {update : ResolvedLink → ResolvedLink} :
    (if index > 0 then attempt (Kernel.updateLink index update) else pure ()).Ends Scope.leavings
      (fun after _ => after = { seen with
        resolver.links := if index > 0 then
            Function.update seen.resolver.links index (update (seen.resolver.links index))
          else seen.resolver.links }) seen := by
  split
  · refine tracks_attempt _ fun scope observed => ?_
    rw [leavings_updateLink, observed]
  · exact rfl

theorem tracks_releaseViaResolved (dns : DnsState) :
    (releaseViaResolved dns).Ends Scope.leavings (fun after _ => after = { seen with
        resolver.links := dns.reverted seen.resolver.links }) seen := by
  refine after_dial ?_
  by_cases physical : dns.physIndex > 0
  · let promoted : Leavings := { seen with
      resolver.links := update seen.resolver.links dns.physIndex
        { seen.resolver.links dns.physIndex with defaultRoute := dns.physDefaultRoute } }
    simp only [DnsState.reverted, if_pos physical]
    refine after_attempt promoted (fun scope observed => ?_)
      (@tracks_updateLink_if promoted dns.tunIndex fun _ => {})
    rw [leavings_updateLink, observed]
  · simp only [DnsState.reverted, if_neg physical]
    exact @tracks_updateLink_if seen dns.tunIndex fun _ => {}

theorem tracks_releaseViaResolvConf (dns : DnsState) :
    (releaseViaResolvConf dns).Ends Scope.leavings
      (fun after _ => after = { seen with resolver.conf := dns.stored }) seen := by
  have put : ∀ {seen : Leavings} (conf : ResolvConf) (scope : Scope), scope.leavings = seen →
      { scope with kernel := { scope.kernel with resolvConf := conf } }.leavings =
        { seen with resolver.conf := conf } := by
    rintro _ conf scope rfl
    rfl
  unfold releaseViaResolvConf DnsState.stored
  cases dns.resolvWasSymlink with
  | true =>
    refine after_change _ (put .absent) ?_
    exact tracks_attempt _ (put _)
  | false =>
    cases dns.resolvContent with
    | some | none =>
      simp only [Bool.false_eq_true, if_false]
      exact tracks_attempt _ (put _)

/-- Giving the resolver back undoes its capture. -/
theorem tracks_releaseDNS (fresh : seen.dns.captured = false → seen.dns = {}) :
    releaseDNS.Ends Scope.leavings
      (fun after _ => after = { seen with dns := {}, resolver := seen.dns.undone seen.resolver })
      seen := by
  have forget : ∀ {resolver : Resolver},
      (bareUpdate fun sess => { sess with dns := {} }).Ends Scope.leavings
        (fun after _ => after = { seen with dns := {}, resolver })
      { seen with resolver } := by
    refine tracks_bareUpdate _ fun scope observed => ?_
    rw [leavings_remember scope fun _ => {}, observed]
  refine after_bareRead fun scope observed => ?_
  have remembered : scope.session.dns = seen.dns := congrArg Leavings.dns observed
  rw [remembered]
  cases captured : seen.dns.captured with
  | false =>
    simp only [Bool.false_eq_true, if_false, DnsState.undone, captured]
    exact congrArg (fun dns => { seen with dns }) (fresh captured)
  | true =>
    simp only [if_true, DnsState.undone, captured]
    cases via : seen.dns.viaResolved with
    | true =>
      refine (tracks_releaseViaResolved seen.dns).bind ?_
      rintro _ _ rfl
      exact forget
    | false =>
      refine (tracks_releaseViaResolvConf seen.dns).bind ?_
      rintro _ _ rfl
      exact forget

/-- No lockdown, no allowance. -/
theorem allowance_of_unlocked {kernel : Kernel} (absent : kernel.table.isSome = false) :
    kernel.allowance = [] := by
  have none : kernel.table = none :=
    isNone_iff_eq_none.mp (isSome_eq_false_iff.mp absent)
  simp [Kernel.allowance, none]

theorem allowance_revokeServed (kernel : Kernel) (src : Addr) :
    (kernel.revokeServed src).allowance =
      kernel.allowance.filter fun element => some element ≠ src.as4 := by
  cases stands : kernel.table with
  | none => simp [Kernel.allowance, Kernel.revokeServed, stands]
  | some table =>
    cases elements : table.sets .serve with
    | none | some => simp [Kernel.allowance, Kernel.revokeServed, Table.putSet, stands, elements]

variable (held : Held found seen)
include held

/-- Nothing is forwarded unless egress is served. -/
theorem Held.rules_nil (none : seen.served = none) : seen.rules = [] := by
  refine eq_nil_iff_forall_not_mem.mpr fun rule member => ?_
  have source := held.rules rule member
  rw [none] at source
  cases source

/-- Nothing is allowed unless egress is served. -/
theorem Held.allowance_nil (none : seen.served = none) : seen.allowance = [] := by
  refine eq_nil_iff_forall_not_mem.mpr fun element member => ?_
  have source := held.allowance element member
  rw [none] at source
  cases source

/-- Revoking takes the one rule and the one element of the session along. -/
theorem tracks_revokeServedEgress :
    revokeServedEgress.Ends Scope.leavings
      (fun after _ => after = { seen with served := none, rules := [], allowance := [] }) seen := by
  have taken : (locked fun scope =>
      ({ scope with session := { scope.session with servedSrc := none } },
        scope.session.servedSrc) : Work (Option Addr)).Ends Scope.leavings
          (fun after served => after = { seen with served := none } ∧ served = seen.served)
          seen := by
    refine Task.tracks_await fun scope _ _ observed => ?_
    subst observed
    exact ⟨rfl, rfl⟩
  refine taken.bind ?_
  rintro _ _ ⟨rfl, rfl⟩
  cases source : seen.served with
  | none =>
    have rules := held.rules_nil source
    have allowance := held.allowance_nil source
    change ({ seen with served := none } : Leavings) = _
    rw [rules, allowance]
  | some src =>
    have dropped : seen.rules.drop 1 = [] := drop_eq_nil_of_le held.few
    have filtered : (seen.allowance.filter fun element => some element ≠ src.as4) = [] := by
      rw [filter_eq_nil_iff]
      intro element member
      have same := held.allowance element member
      rw [source, some.injEq] at same
      simp [same, Addr.as4]
    refine (tracks_netlink (tracks_change { seen with served := none, rules := [] } ?_)).bind ?_
    · intro scope observed
      rw [← dropped]
      exact congrArg (fun seen : Leavings => { seen with rules := seen.rules.drop 1 }) observed
    · rintro _ _ ⟨rfl, rfl⟩
      refine after_dial (tracks_attempt _ fun scope observed => ?_)
      have allowance : (scope.kernel.revokeServed src).allowance = [] := by
        rw [allowance_revokeServed, ← filtered]
        exact congrArg (fun seen : Leavings =>
          seen.allowance.filter fun element => some element ≠ src.as4) observed
      have locked : (scope.kernel.revokeServed src).table.isSome = seen.locked :=
        isSome_map.trans (congrArg Leavings.locked observed)
      refine (leavings_table scope (scope.kernel.revokeServed src).table).trans ?_
      rw [show ((scope.kernel.revokeServed src).table.bind
        fun table => table.sets .serve).getD [] = [] from allowance, locked, observed]

/-- A first carve-out is one rule for the source that is then remembered. -/
theorem held_handleAllowServedEgress
    (first : seen.armed = false → seen.served = none) :
    handleAllowServedEgress.Ends Scope.leavings (fun after _ => Held found after) seen := by
  let Carved (after : Leavings) (result : Except String Addr) : Prop :=
    ∃ src uid, result = .ok src ∧ after = { seen with rules := [(src, uid)] }
  refine after_lockedRead fun scope observed => ?_
  have armed : scope.session.killSwitchArmed = seen.armed := congrArg Leavings.armed observed
  rw [armed]
  cases unarmed : seen.armed with
  | true => exact held
  | false =>
    have unlocked : seen.locked = false := by
      by_contra locked
      have armed := held.armed (Bool.not_eq_false _ ▸ locked)
      rw [unarmed] at armed
      cases armed
    refine (@tracks_netlink _ _ _ _ Carved _ ?_).bind ?_
    · refine after_query fun _ _ _ => after_query fun _ answer _ => ?_
      refine (spares_await fun _ _ => rfl).before fun uid => ?_
      refine after_change { seen with rules := [(answer.source, uid)] } ?_ ⟨_, _, rfl, rfl⟩
      intro scope observed
      have empty : scope.kernel.servedRules = [] :=
        (congrArg Leavings.rules observed).trans (held.rules_nil (first unarmed))
      have added : (scope.kernel.addServedRule answer.source uid).servedRules =
          [(answer.source, uid)] := by
        simp [Kernel.addServedRule, empty]
      rw [← added]
      exact congrArg (fun seen : Leavings => { seen with
        rules := (scope.kernel.addServedRule answer.source uid).servedRules }) observed
    · rintro _ _ ⟨src, uid, rfl, rfl⟩
      refine after_lockedUpdate { seen with served := some src, rules := [(src, uid)] } ?_ ?_
      · intro scope observed
        exact congrArg (fun seen : Leavings => { seen with served := some src }) observed
      · refine ⟨Nat.le_refl 1, fun rule member => ?_, fun element member => ?_, held.unlocked,
          held.armed, held.releasable⟩
        · rw [mem_singleton.mp member]
        · have none : seen.allowance = [] := held.unlocked unlocked
          exact absurd (none ▸ member : element ∈ []) not_mem_nil

omit held

/-- Reaping the routes takes one rule along, whatever else is looked at. -/
theorem tracks_reapRoutes (pick : SessionState → SessionState) :
    reapRoutes.Ends (fun scope => leavings (pick scope.session) scope.kernel)
      (fun after _ => after = { seen with rules := seen.rules.drop 1 }) seen := by
  refine (tracks_netlink ?_).bind fun _ _ kept => kept
  refine after_query fun scope _ _ => ?_
  refine (spares_each (fun _ => spares_attempt fun _ => rfl) scope.kernel.listOwnRoutes).before
    fun _ => ?_
  refine (spares_attempt fun _ => rfl).before fun _ => ?_
  refine (spares_attempt fun _ => rfl).before fun _ => ?_
  refine after_attempt _ (fun scope observed => ?_) rfl
  exact congrArg (fun seen : Leavings => { seen with rules := seen.rules.drop 1 }) observed

/-- Without a table there is no allowance to lose. -/
theorem tracks_clearTable_leavings (pick : SessionState → SessionState)
    (unlocked : seen.locked = false → seen.allowance = []) :
    clearTable.Ends (fun scope => leavings (pick scope.session) scope.kernel)
      (fun after _ => after = { seen with locked := false, allowance := [] }) seen := by
  refine after_query fun scope _ observed => ?_
  have stands : scope.kernel.table.isSome = seen.locked := congrArg Leavings.locked observed
  rw [stands]
  cases locked : seen.locked with
  | true =>
    refine tracks_attempt _ fun scope observed => ?_
    exact congrArg (fun seen : Leavings => { seen with locked := false, allowance := [] }) observed
  | false =>
    change seen = _
    rw [← unlocked locked, ← locked]

include held

theorem held_arm {spec : KillSwitchSpec}
    (source : spec.servedSrc = seen.served) :
    (arm spec).Ends Scope.leavings
      (fun after outcome => outcome ≠ .panic → Held found after) seen := by
  refine after_dial ?_
  refine (tracks_clearTable_leavings (fun sess => sess) held.unlocked).bind ?_
  rintro _ _ rfl
  split
  · exact fun fine => absurd rfl fine
  rename_i msgs made
  let elements := ((msgs.foldl Table.apply {}).sets .serve).getD []
  refine Task.Tracks.bind (tracks_transact { seen with locked := true, allowance := elements }
    fun scope observed => ?_) ?_
  · replace observed : scope.leavings = { seen with locked := false, allowance := [] } := observed
    have absent : scope.kernel.table = none :=
      isNone_iff_eq_none.mp
        (isSome_eq_false_iff.mp (congrArg Leavings.locked observed))
    refine (leavings_table scope (scope.kernel.batch msgs).table).trans ?_
    simp only [Kernel.batch, absent, observed]
    rfl
  rintro _ _ ⟨rfl, rfl⟩
  refine after_lockedUpdate { seen with armed := true, locked := true, allowance := elements } ?_ ?_
  · intro scope observed
    exact congrArg (fun seen : Leavings => { seen with armed := true }) observed
  · refine fun _ => ⟨held.few, held.rules, fun element member => ?_, fun wrong => ?_, fun _ => rfl,
      held.releasable⟩
    · exact source.symm.trans ((mem_sets_killSwitch made element).2.mp member)
    · cases wrong

theorem held_handleEnableKillSwitch (req : Request) :
    (handleEnableKillSwitch req).Ends Scope.leavings
      (fun after outcome => outcome ≠ .panic → Held found after) seen := by
  refine (spares_lockedRead _).before fun tunIndex => ?_
  split
  · exact fun _ => held
  · refine after_query fun _ answer _ => ?_
    refine after_lockedRead fun scope observed => ?_
    split
    · exact fun _ => held
    · exact held_arm held (congrArg Leavings.served observed)

theorem held_handleDisableKillSwitch :
    handleDisableKillSwitch.Ends Scope.leavings (fun after _ => Held found after) seen := by
  refine after_dial ?_
  refine after_attempt { seen with locked := false, allowance := [] } ?_ ?_
  · intro scope observed
    exact congrArg (fun seen : Leavings => { seen with locked := false, allowance := [] }) observed
  refine after_lockedUpdate { seen with armed := false, locked := false, allowance := [] } ?_ ?_
  · intro scope observed
    exact congrArg (fun seen : Leavings => { seen with armed := false }) observed
  · refine ⟨held.few, held.rules, fun _ member => absurd member not_mem_nil, fun _ => rfl,
      fun wrong => ?_, held.releasable⟩
    cases wrong

omit held

/-- A late address goes into the other set of the table. -/
theorem leavings_refreshAllowIP (scope : Scope) (addr : BitVec 32) :
    { scope with kernel := scope.kernel.refreshAllowIP (.v4 addr) }.leavings = scope.leavings := by
  have serve : ∀ table : Table, ((elemMsg .allow [.v4 addr]).foldl Table.apply table).sets .serve =
      table.sets .serve := by
    simp [elemMsg, Addr.is4, Addr.as4, Table.apply, Table.putSet]
  have locked : (scope.kernel.refreshAllowIP (.v4 addr)).table.isSome = scope.kernel.table.isSome :=
    isSome_map
  have allowance : (scope.kernel.refreshAllowIP (.v4 addr)).allowance = scope.kernel.allowance := by
    cases stands : scope.kernel.table with
    | none => simp [Kernel.allowance, Kernel.refreshAllowIP, stands]
    | some => simp [Kernel.allowance, Kernel.refreshAllowIP, stands, serve]
  refine (leavings_table scope (scope.kernel.refreshAllowIP (.v4 addr)).table).trans ?_
  rw [locked, show ((scope.kernel.refreshAllowIP (.v4 addr)).table.bind
    fun table => table.sets .serve).getD [] = scope.kernel.allowance from allowance]
  rfl

include held

theorem Held.record {after : Leavings}
    (recorded : RecordsCapture found seen after) : Held found after := by
  obtain ⟨_, _, rfl, releasable⟩ := recorded
  exact ⟨held.few, held.rules, held.allowance, held.unlocked, held.armed, releasable⟩

/-- Giving the resolver back leaves the rest held. -/
theorem Held.release :
    Held found { seen with dns := {}, resolver := seen.dns.undone seen.resolver } where
  few := held.few
  rules := held.rules
  allowance := held.allowance
  unlocked := held.unlocked
  armed := held.armed
  releasable := ⟨held.releasable.released, fun _ => rfl⟩

theorem Held.revoke : Held found { seen with served := none, rules := [], allowance := [] } where
  few := Nat.zero_le 1
  rules _ member := absurd member not_mem_nil
  allowance _ member := absurd member not_mem_nil
  unlocked _ := rfl
  armed := held.armed
  releasable := held.releasable

theorem Held.spared {work : Work Outcome}
    (spares : Spares Scope.leavings work) :
    work.Ends Scope.leavings (fun after outcome => outcome ≠ .panic → Held found after) seen := by
  refine (spares _ seen).imp ?_
  rintro _ _ rfl _
  exact held

/-- Every handler but the recovery of the lockdown, which looks at the slot. -/
theorem held_handle {req : Request} (other : Verb.parse req.verb ≠ some .recoverKillSwitch)
    (first : Verb.parse req.verb = some .allowServedEgress →
      seen.armed = false → seen.served = none) :
    (handle req).Ends Scope.leavings
      (fun after outcome => outcome ≠ .panic → Held found after) seen := by
  unfold handle
  split
  · exact held.spared (spares_handleDefaultGateway leavings_blind)
  · exact held.spared (spares_handleExclusionRoutes leavings_blind req false)
  · exact held.spared (spares_handleExclusionRoutes leavings_blind req true)
  · exact held.spared (spares_handleInclusionRoutes leavings_blind req)
  · exact held.spared (spares_handleRemoveRoutes leavings_blind req)
  · exact held.spared (spares_handleCreateTUN leavings_blind)
  · exact held.spared (spares_handleConfigureTUN leavings_blind req)
  · exact held.spared (spares_handleSplitDefaultRoute leavings_blind req)
  · exact held.spared (spares_handleDisableIPv6 leavings_blindToSettings)
  · exact held.spared (spares_handleEnableIPv6 leavings_blindToSettings)
  · exact held_handleEnableKillSwitch held req
  · exact (held_handleDisableKillSwitch held).imp fun _ _ kept _ => kept
  · rename_i verb
    exact absurd verb other
  · exact held.spared (spares_handleRefreshAllowIP req leavings_refreshAllowIP)
  · refine (tracks_captureDNS held.releasable).bind ?_
    rintro _ (error | _) recorded <;> exact fun _ => held.record recorded
  · refine (tracks_releaseDNS held.releasable.fresh).bind ?_
    rintro _ _ rfl _
    exact held.release
  · rename_i verb
    exact (held_handleAllowServedEgress held (first verb)).imp fun _ _ kept _ => kept
  · refine (tracks_revokeServedEgress held).bind ?_
    rintro _ _ rfl _
    exact held.revoke
  · exact fun _ => held

omit held

end

end Bacchus.Netd
