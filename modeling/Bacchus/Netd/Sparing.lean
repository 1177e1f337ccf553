import Bacchus.Netd.Server

/-!
# Handlers that spare what is observed

An observation looks at a part of what a handler can change. Most handlers only touch the routes
and the session's own record of its device. Where a handler touches what is observed and no call
fails, the observation is followed call by call.
-/

namespace Bacchus.Netd

open Task

section

variable {Observed α β : Type} {observe : Scope → Observed}

/-- The task leaves the observation alone. -/
def Spares (observe : Scope → Observed) (work : Work α) : Prop :=
  ∀ (Allowed : Answer → Prop) (observed : Observed),
    work.Tracks observe Allowed (fun after _ => after = observed) observed

variable {rest : α → Work β}

/-- What spares in each part spares. -/
theorem Spares.bind {work : Work α} (first : Spares observe work)
    (second : ∀ result, Spares observe (rest result)) : Spares observe (work >>= rest) := by
  intro Allowed observed
  refine (first Allowed observed).bind ?_
  rintro _ result rfl
  exact second result Allowed _

/-- A task that stops on an error. -/
theorem Spares.guard {work : Work (Except String α)} {rest : Except String α → Work β}
    (first : Spares observe work) (stop : ∀ error, Spares observe (rest (.error error)))
    (go : ∀ value, Spares observe (rest (.ok value))) : Spares observe (work >>= rest) := by
  refine first.bind fun result => ?_
  cases result with
  | error error => exact stop error
  | ok value => exact go value

/-- A spared observation is still there when the rest of a task starts. -/
theorem Spares.before {Allowed : Answer → Prop} {Post : Observed → β → Prop} {work : Work α}
    {observed : Observed} (spares : Spares observe work)
    (tracks : ∀ result, (rest result).Tracks observe Allowed Post observed) :
    (work >>= rest).Tracks observe Allowed Post observed := by
  refine (spares Allowed observed).bind ?_
  rintro _ result rfl
  exact tracks result

/-- Returning spares everything. -/
theorem spares_pure (result : α) : Spares observe (pure result) := fun _ _ => rfl

/-- One action spares what it leaves. -/
theorem spares_await {ready : Scope → Bool} {body : Scope → Answer → Scope × α}
    (quiet : ∀ scope answer, observe (body scope answer).1 = observe scope) :
    Spares observe (await ready body) :=
  fun _ _ => tracks_quiet quiet

/-- A section under the mutex spares what it leaves. -/
theorem spares_locked {body : Scope → Scope × α}
    (quiet : ∀ scope, observe (body scope).1 = observe scope) : Spares observe (locked body) :=
  spares_await fun scope _ => quiet scope

/-- A read spares everything. -/
theorem spares_lockedRead (read : SessionState → α) : Spares observe (lockedRead read) :=
  spares_await fun _ _ => rfl

/-- A read without the mutex spares everything. -/
theorem spares_bareRead (read : SessionState → α) : Spares observe (bareRead read) :=
  spares_await fun _ _ => rfl

variable {update : SessionState → SessionState}

/-- An update spares what it leaves. -/
theorem spares_lockedUpdate (quiet : ∀ scope : Scope,
      observe { scope with session := update scope.session } = observe scope) :
    Spares observe (lockedUpdate update) :=
  spares_await fun scope _ => quiet scope

/-- An update without the mutex spares what it leaves. -/
theorem spares_bareUpdate (quiet : ∀ scope : Scope,
      observe { scope with session := update scope.session } = observe scope) :
    Spares observe (bareUpdate update) :=
  spares_await fun scope _ => quiet scope

/-- A query spares everything. -/
theorem spares_query (call : Kernel → Answer → α) : Spares observe (query call) := by
  refine spares_await fun scope answer => ?_
  cases answer.error <;> rfl

/-- Opening a socket spares everything. -/
theorem spares_dial : Spares observe dial := spares_query _

variable {call : Kernel → Kernel}

/-- A change spares what it leaves. -/
theorem spares_change
    (quiet : ∀ scope : Scope, observe { scope with kernel := call scope.kernel } = observe scope) :
    Spares observe (change call) := by
  refine spares_await fun scope answer => ?_
  cases answer.error with
  | some => rfl
  | none => exact quiet scope

/-- A change that may fail spares what it leaves. -/
theorem spares_attempt
    (quiet : ∀ scope : Scope, observe { scope with kernel := call scope.kernel } = observe scope) :
    Spares observe (attempt call) := by
  refine spares_await fun scope answer => ?_
  cases answer.made with
  | true => exact quiet scope
  | false => rfl

/-- What runs over a socket spares what its body does. -/
theorem spares_netlink {body : Work (Except String α)} (inner : Spares observe body) :
    Spares observe (netlink body) := by
  exact .guard spares_dial (fun _ => spares_pure _) fun _ => inner

/-- A loop spares what its body does. -/
theorem spares_each {Item : Type} {body : Item → Work Unit}
    (every : ∀ item, Spares observe (body item)) (items : List Item) :
    Spares observe (each body items) := by
  induction items with
  | nil => exact spares_pure _
  | cons item items ih => exact (every item).bind fun _ => ih

/-- A refusal spares everything. -/
theorem spares_refuse (code : Code) (error : List Piece) : Spares observe (refuse code error) :=
  spares_pure _

/-- A success spares everything. -/
theorem spares_succeed : Spares observe succeed := spares_pure _

/-- Adding to the allowlist spares what is not in it. -/
theorem spares_handleRefreshAllowIP (req : Request) (quiet : ∀ (scope : Scope) addr,
      observe { scope with kernel := scope.kernel.refreshAllowIP (.v4 addr) } = observe scope) :
    Spares observe (handleRefreshAllowIP req) := by
  refine .bind (spares_lockedRead _) fun armed => ?_
  split
  · exact spares_succeed
  · split
    · refine .guard spares_dial (fun _ => spares_succeed) fun _ => ?_
      exact .bind (spares_attempt fun scope => quiet scope _) fun _ => spares_succeed
    · exact spares_refuse _ _

/-- The observation looks neither at the routes nor at the session's gateway and device. -/
structure Blind (observe : Scope → Observed) : Prop where
  routes : ∀ (scope : Scope) (routes : List RouteSpec),
    observe { scope with kernel := { scope.kernel with routes } } = observe scope
  fibRule4 : ∀ (scope : Scope) (rule : Bool),
    observe { scope with kernel := { scope.kernel with fibRule4 := rule } } = observe scope
  fibRule6 : ∀ (scope : Scope) (rule : Bool),
    observe { scope with kernel := { scope.kernel with fibRule6 := rule } } = observe scope
  gw : ∀ (scope : Scope) (gw : Option GatewayInfo),
    observe { scope with session := { scope.session with gw } } = observe scope
  tunIndex : ∀ (scope : Scope) (index : Nat),
    observe { scope with session := { scope.session with tunIndex := index } } = observe scope
  tunAddr : ∀ (scope : Scope) (addr : Option (BitVec 32)),
    observe { scope with session := { scope.session with tunAddr := addr } } = observe scope

section

variable (blind : Blind observe)
include blind

theorem spares_installRoutes (blocks : List Netip.Prefix) (gateway : Option Netip.Addr)
    (outIface : Nat) : Spares observe (installRoutes blocks gateway outIface) := by
  refine .bind (spares_netlink ?_) fun _ => spares_pure _
  exact .bind (spares_each (fun _ => spares_attempt fun scope => blind.routes scope _) blocks)
    fun _ => spares_pure _

/-- Asking for the gateway spares it. -/
theorem spares_handleDefaultGateway : Spares observe handleDefaultGateway := by
  refine .guard (spares_netlink (spares_query _)) (fun _ => spares_refuse _ _) fun info => ?_
  exact .bind (spares_lockedUpdate fun scope => blind.gw scope _) fun _ => spares_pure _

variable (req : Request)

/-- Exclusion routes spare it. -/
theorem spares_handleExclusionRoutes (v6 : Bool) :
    Spares observe (handleExclusionRoutes req v6) := by
  refine .bind (spares_lockedRead _) fun gw => ?_
  cases gw with
  | none => exact spares_refuse _ _
  | some gw =>
    simp only
    generalize (if v6 then gw.nextHopV6 else some gw.nextHop) = nextHop
    cases nextHop with
    | none => exact spares_succeed
    | some =>
      cases parsePrefixes v6 req.prefixes with
      | error => exact spares_pure _
      | ok => exact .bind (spares_installRoutes blind _ _ _) fun _ => spares_succeed

/-- Inclusion routes spare it. -/
theorem spares_handleInclusionRoutes :
    Spares observe (handleInclusionRoutes req) := by
  refine .bind (spares_lockedRead _) fun tunIndex => ?_
  split
  · exact spares_refuse _ _
  · cases parsePrefixes false req.prefixes with
    | error => exact spares_pure _
    | ok => exact .bind (spares_installRoutes blind _ _ _) fun _ => spares_succeed

/-- Removing routes spares it. -/
theorem spares_handleRemoveRoutes :
    Spares observe (handleRemoveRoutes req) := by
  unfold handleRemoveRoutes
  cases parsePrefixes false req.prefixes with
  | error => exact spares_pure _
  | ok =>
    refine .bind (spares_netlink ?_) fun _ => spares_succeed
    exact .bind (spares_each (fun _ => spares_attempt fun scope => blind.routes scope _) _)
      fun _ => spares_pure _

/-- Creating the device spares it. -/
theorem spares_handleCreateTUN : Spares observe handleCreateTUN := by
  refine .guard (spares_query _) (fun _ => spares_refuse _ _) fun index => ?_
  exact .bind (spares_lockedUpdate fun scope => blind.tunIndex scope _) fun _ => spares_pure _

/-- Configuring the device spares it. -/
theorem spares_handleConfigureTUN :
    Spares observe (handleConfigureTUN req) := by
  refine .bind (spares_lockedRead _) fun tunIndex => ?_
  split
  · exact spares_refuse _ _
  · split
    · split
      · exact spares_refuse _ _
      · refine .guard (spares_netlink ?_) (fun _ => spares_refuse _ _) fun _ => ?_
        · refine .guard (spares_change fun _ => rfl) (fun _ => spares_pure _) fun _ => ?_
          refine .guard (spares_change fun _ => rfl) (fun _ => spares_pure _) fun _ => ?_
          refine .bind (spares_change fun scope => blind.fibRule4 scope _) fun installed => ?_
          cases installed <;> exact spares_pure _
        · exact .bind (spares_lockedUpdate fun scope => blind.tunAddr scope _)
            fun _ => spares_succeed
    · exact spares_refuse _ _

theorem spares_addSplitDefault (tunIndex : Nat) (halves : List Netip.Prefix) :
    Spares observe (addSplitDefault tunIndex halves) := by
  induction halves with
  | nil => exact spares_pure _
  | cons half halves ih =>
    exact .guard (spares_change fun scope => blind.routes scope _) (fun _ => spares_pure _)
      fun _ => ih

/-- The split default spares it. -/
theorem spares_handleSplitDefaultRoute (req : Request) :
    Spares observe (handleSplitDefaultRoute req) := by
  refine .bind (spares_lockedRead _) fun tun => ?_
  split
  · exact spares_refuse _ _
  · exact spares_refuse _ _
  · split
    · exact spares_refuse _ _
    · exact .guard (spares_netlink (spares_addSplitDefault blind _ _)) (fun _ => spares_refuse _ _)
        fun _ => spares_succeed

end

/-- The observation looks neither at the settings nor at the session's memory of them. -/
structure BlindToSettings (observe : Scope → Observed) : Prop where
  memory : ∀ (scope : Scope) (ipv6For ipv6Was : String), observe { scope with
    session := { scope.session with ipv6For, ipv6Was } } = observe scope
  ipv6 : ∀ (scope : Scope) (ipv6 : String → String),
    observe { scope with kernel := { scope.kernel with ipv6 } } = observe scope

section

variable (blind : BlindToSettings observe)
include blind

/-- Giving the settings back spares what does not depend on them. -/
theorem spares_restoreIPv6 (ipv6For ipv6Was : String) :
    Spares observe (restoreIPv6 ipv6For ipv6Was) := by
  unfold restoreIPv6
  split
  · exact spares_pure _
  · exact spares_attempt fun scope => blind.ipv6 scope _

/-- Turning IPv6 off spares it. -/
theorem spares_handleDisableIPv6 : Spares observe handleDisableIPv6 := by
  refine .bind (spares_lockedRead _) fun gw => ?_
  cases gw with
  | none => exact spares_succeed
  | some =>
    refine .guard (spares_query _) (fun _ => spares_succeed) fun prior => ?_
    refine .guard (spares_change fun scope => blind.ipv6 scope _) (fun _ => spares_succeed)
      fun _ => ?_
    refine .bind (spares_lockedUpdate fun scope => ?_) fun _ => spares_succeed
    split
    · exact blind.memory scope _ _
    · rfl

/-- Turning IPv6 on spares it. -/
theorem spares_handleEnableIPv6 : Spares observe handleEnableIPv6 :=
  .bind (spares_locked fun scope => blind.memory scope _ _) fun _ =>
    .bind (spares_restoreIPv6 blind _ _) fun _ => spares_succeed

end

end

/-- The answer of a call that succeeds, the commit of a transaction included. -/
def Answer.Succeeds (answer : Answer) : Prop := answer.error = none ∧ answer.commit = none

/-- While every call succeeds, the work ends as `Post` says. -/
abbrev Work.Ends {Observed α : Type} (observe : Scope → Observed) (Post : Observed → α → Prop)
    (seen : Observed) (work : Work α) : Prop :=
  work.Tracks observe Answer.Succeeds Post seen

section

variable {Observed α β : Type} {observe : Scope → Observed} {Post : Observed → β → Prop}
  {seen : Observed}

/-- A query first. -/
theorem after_query {call : Kernel → Answer → α} {rest : Except String α → Work β}
    (next : ∀ (scope : Scope) (answer : Answer), observe scope = seen →
      (rest (.ok (call scope.kernel answer))).Ends observe Post seen) :
    (query call >>= rest).Ends observe Post seen := by
  have asked : (query call).Ends observe (fun final result => final = seen ∧
      ∃ scope answer, observe scope = seen ∧ result = .ok (call scope.kernel answer)) seen := by
    refine tracks_await fun scope answer succeeds observed => ?_
    rw [succeeds.1]
    exact ⟨observed, scope, answer, observed, rfl⟩
  refine asked.bind ?_
  rintro _ _ ⟨rfl, scope, answer, observed, rfl⟩
  exact next scope answer observed

/-- A socket first. -/
theorem after_dial {rest : Except String Unit → Work β}
    (next : (rest (.ok ())).Ends observe Post seen) :
    (dial >>= rest).Ends observe Post seen :=
  after_query fun _ _ _ => next

/-- What runs over a socket. -/
theorem tracks_netlink {Post : Observed → Except String α → Prop} {body : Work (Except String α)}
    (inner : body.Ends observe Post seen) :
    (netlink body).Ends observe Post seen :=
  after_dial inner

section

variable {call : Kernel → Kernel} (after : Observed)
  (moves : ∀ scope : Scope, observe scope = seen →
    observe { scope with kernel := call scope.kernel } = after)

include moves

/-- A change of the machine. -/
theorem tracks_change :
    (change call).Ends observe (fun final result => final = after ∧ result = .ok ()) seen := by
  refine tracks_await fun scope answer succeeds observed => ?_
  rw [succeeds.1]
  exact ⟨moves scope observed, rfl⟩

/-- A change first. -/
theorem after_change {rest : Except String Unit → Work β}
    (next : (rest (.ok ())).Ends observe Post after) :
    (change call >>= rest).Ends observe Post seen := by
  refine (tracks_change after moves).bind ?_
  rintro _ _ ⟨rfl, rfl⟩
  exact next

/-- A change whose failure is ignored. -/
theorem tracks_attempt :
    (attempt call).Ends observe (fun final _ => final = after) seen := by
  refine tracks_await fun scope answer succeeds observed => ?_
  rw [Answer.made, succeeds.1]
  exact moves scope observed

/-- A change first whose failure is ignored. -/
theorem after_attempt {rest : Unit → Work β}
    (next : (rest ()).Ends observe Post after) :
    (attempt call >>= rest).Ends observe Post seen := by
  refine (tracks_attempt after moves).bind ?_
  rintro _ _ rfl
  exact next

end

/-- A transaction that succeeds. -/
theorem tracks_transact {msgs : List NftMsg} (after : Observed)
    (moves : ∀ scope : Scope, observe scope = seen →
      observe { scope with kernel := scope.kernel.batch msgs } = after) :
    (transact msgs).Ends observe (fun final result => final = after ∧ result = .ok ()) seen := by
  refine tracks_await fun scope answer succeeds observed => ?_
  rw [Answer.committed, succeeds.2]
  exact ⟨moves scope observed, rfl⟩

variable {read : SessionState → α}

/-- A read under the mutex first. -/
theorem after_lockedRead {rest : α → Work β} (next : ∀ scope : Scope, observe scope = seen →
      (rest (read scope.session)).Ends observe Post seen) :
    (lockedRead read >>= rest).Ends observe Post seen := by
  have read : (lockedRead read).Ends observe (fun final result => final = seen ∧
      ∃ scope, observe scope = seen ∧ result = read scope.session) seen :=
    tracks_await fun scope _ _ observed => ⟨observed, scope, observed, rfl⟩
  refine read.bind ?_
  rintro _ _ ⟨rfl, scope, observed, rfl⟩
  exact next scope observed

/-- What is observed is the same without the mutex. -/
theorem after_bareRead {rest : α → Work β} (next : ∀ scope : Scope, observe scope = seen →
      (rest (read scope.session)).Ends observe Post seen) :
    (bareRead read >>= rest).Ends observe Post seen :=
  after_lockedRead next

variable {rest : Unit → Work β} {update : SessionState → SessionState} (after : Observed)
  (moves : ∀ scope : Scope, observe scope = seen →
    observe { scope with session := update scope.session } = after)

include moves

theorem tracks_lockedUpdate :
    (lockedUpdate update).Ends observe (fun final _ => final = after) seen :=
  tracks_await fun scope _ _ observed => moves scope observed

/-- An update under the mutex first. -/
theorem after_lockedUpdate (next : (rest ()).Ends observe Post after) :
    (lockedUpdate update >>= rest).Ends observe Post seen := by
  refine (tracks_lockedUpdate after moves).bind ?_
  rintro _ _ rfl
  exact next

/-- An update without the mutex. -/
theorem tracks_bareUpdate :
    (bareUpdate update).Ends observe (fun final _ => final = after) seen :=
  tracks_lockedUpdate after moves

/-- An update first, without the mutex. -/
theorem after_bareUpdate (next : (rest ()).Ends observe Post after) :
    (bareUpdate update >>= rest).Ends observe Post seen :=
  after_lockedUpdate after moves next

end

end Bacchus.Netd
