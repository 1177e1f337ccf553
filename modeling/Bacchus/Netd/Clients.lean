import Bacchus.Netd.Serving
import Bacchus.Netd.Sparing

/-!
# Clients one after another

The helper as it is used: one client at a time sends requests, each handled to its end, and
closes its session or is lost. What the IPv6 and kill-switch handlers work on is followed as one
observation.
-/

namespace Bacchus.Netd

open Bacchus.Task

/-- What one client after another does. -/
inductive ClientLabel where
  | request (conn : ConnId) (uid : UInt32) (req : Request) (exchange : Exchange)
  /-- The connection is lost. -/
  | gone (answers : Nat → Answer)

/-- The helper serving requests one by one. A panic ends the run. -/
def clients (settings : String → String) : Machine Helper ClientLabel where
  initial helper := helper.sessions = [] ∧ helper.sess = none ∧ helper.mutex = none ∧
    helper.kernel.ipv6 = settings
  step helper
    | .request conn uid req exchange =>
      match respond conn uid req exchange helper with
      | (next, .reply _) => some next
      | (_, .panic) => none
    | .gone answers => some (leave answers helper)

/-- What the IPv6 and the kill-switch handlers of a session work on. -/
@[ext] structure Enforcement where
  ipv6For : String
  ipv6Was : String
  ipv6 : String → String
  armed : Bool
  /-- The lockdown table exists. -/
  locked : Bool

def Scope.enforcement (scope : Scope) : Enforcement where
  ipv6For := scope.session.ipv6For
  ipv6Was := scope.session.ipv6Was
  ipv6 := scope.kernel.ipv6
  armed := scope.session.killSwitchArmed
  locked := scope.kernel.table.isSome

section

variable {Observed α : Type} {view : Enforcement → Observed}

/-- The task leaves a view of the observation alone. -/
abbrev Aside (view : Enforcement → Observed) (work : Work α) : Prop :=
  Spares (fun scope => view scope.enforcement) work

theorem enforcement_blind (view : Enforcement → Observed) :
    Blind fun scope => view scope.enforcement where
  routes _ _ := rfl
  fibRule4 _ _ := rfl
  fibRule6 _ _ := rfl
  gw _ _ := rfl
  tunIndex _ _ := rfl
  tunAddr _ _ := rfl

/-- Reaping the routes leaves the enforcement. -/
theorem aside_reapRoutes : Aside view reapRoutes := by
  refine .bind (spares_netlink ?_) fun _ => spares_pure _
  refine .guard (spares_query _) (fun _ => spares_pure _) fun routes => ?_
  refine .bind (spares_each (fun _ => spares_attempt fun _ => rfl) routes) fun _ => ?_
  refine .bind (spares_attempt fun _ => rfl) fun _ => ?_
  refine .bind (spares_attempt fun _ => rfl) fun _ => ?_
  exact .bind (spares_attempt fun _ => rfl) fun _ => spares_pure _

theorem aside_handleRefreshAllowIP (req : Request) :
    Aside view (handleRefreshAllowIP req) :=
  spares_handleRefreshAllowIP req fun _ _ =>
    congrArg view (Enforcement.ext rfl rfl rfl rfl Option.isSome_map)

theorem aside_captureViaResolved (tunIndex : Nat) (sink : Netip.Addr) :
    Aside view (captureViaResolved tunIndex sink) := by
  refine .guard (spares_change fun _ => rfl) (fun _ => spares_pure _) fun _ => ?_
  refine .guard (spares_change fun _ => rfl) (fun _ => spares_pure _) fun _ => ?_
  refine .bind (spares_bareUpdate fun _ => rfl) fun _ => ?_
  refine .bind (spares_bareRead _) fun gw => ?_
  cases gw with
  | none => exact spares_pure _
  | some =>
    simp only
    split
    · exact spares_pure _
    · refine .bind (spares_query _) fun prior => ?_
      exact .guard (spares_change fun _ => rfl) (fun _ => spares_pure _)
        fun _ => .bind (spares_bareUpdate fun _ => rfl) fun _ => spares_pure _

theorem aside_replaceResolvConf (remember : DnsState → DnsState) (sink : Netip.Addr) :
    Aside view (replaceResolvConf remember sink) := by
  refine .bind (spares_bareUpdate fun _ => rfl) fun _ => ?_
  exact .guard (spares_change fun _ => rfl) (fun _ => spares_pure _)
    fun _ => .bind (spares_bareUpdate fun _ => rfl) fun _ => spares_pure _

theorem aside_captureViaResolvConf (sink : Netip.Addr) :
    Aside view (captureViaResolvConf sink) := by
  refine .bind (spares_query _) fun found => ?_
  split
  · exact spares_pure _
  · exact aside_replaceResolvConf _ _
  · exact .guard (spares_query _) (fun _ => spares_pure _) fun target => aside_replaceResolvConf _ _
  · exact .guard (spares_query _) (fun _ => spares_pure _)
      fun content => aside_replaceResolvConf _ _

theorem aside_captureDNS : Aside view captureDNS := by
  refine .bind (spares_bareRead _) fun session => ?_
  split
  · exact spares_pure _
  · split
    · exact spares_pure _
    · exact spares_pure _
    · refine .bind spares_dial fun bus => ?_
      cases bus with
      | error => exact aside_captureViaResolvConf _
      | ok _ =>
        refine .bind (spares_query _) fun running => ?_
        split
        · exact aside_captureViaResolved _ _
        · exact aside_captureViaResolvConf _

theorem aside_releaseViaResolved (dns : DnsState) : Aside view (releaseViaResolved dns) := by
  refine .guard spares_dial (fun _ => spares_pure _) fun _ => ?_
  have cleared : Aside view (if dns.tunIndex > 0 then
      attempt (Kernel.updateLink dns.tunIndex fun _ => {}) else pure ()) := by
    split
    · exact spares_attempt fun _ => rfl
    · exact spares_pure _
  simp only
  split
  · exact .bind (spares_attempt fun _ => rfl) fun _ => cleared
  · exact cleared

theorem aside_releaseViaResolvConf (dns : DnsState) : Aside view (releaseViaResolvConf dns) := by
  unfold releaseViaResolvConf
  split
  · exact .guard (spares_change fun _ => rfl) (fun _ => spares_pure _)
      fun _ => spares_attempt fun _ => rfl
  · split
    · exact spares_attempt fun _ => rfl
    · exact spares_attempt fun _ => rfl

/-- Giving the resolver back leaves the enforcement. -/
theorem aside_releaseDNS : Aside view releaseDNS := by
  refine .bind (spares_bareRead _) fun dns => ?_
  split
  · simp only
    split
    · exact .bind (aside_releaseViaResolved dns) fun _ => spares_bareUpdate fun _ => rfl
    · exact .bind (aside_releaseViaResolvConf dns) fun _ => spares_bareUpdate fun _ => rfl
  · exact spares_pure _

theorem aside_handleCaptureDNS : Aside view handleCaptureDNS := by
  exact .guard aside_captureDNS (fun _ => spares_refuse _ _) fun _ => spares_succeed

/-- Closing the session leaves the enforcement. -/
theorem aside_closeSession : Aside view closeSession :=
  .bind aside_releaseDNS fun _ => spares_succeed

theorem aside_handleAllowServedEgress : Aside view handleAllowServedEgress := by
  refine .bind (spares_lockedRead _) fun armed => ?_
  split
  · exact spares_refuse _ _
  · refine .guard (spares_netlink ?_) (fun _ => spares_refuse _ _) fun src => ?_
    · refine .guard (spares_query _) (fun _ => spares_pure _) fun _ => ?_
      refine .guard (spares_query _) (fun _ => spares_pure _) fun src => ?_
      refine .bind (spares_await fun _ _ => rfl) fun uid => ?_
      refine .bind (spares_change fun _ => rfl) fun added => ?_
      cases added <;> exact spares_pure _
    · exact .bind (spares_lockedUpdate fun _ => rfl) fun _ => spares_pure _

/-- Revoking the served egress leaves the enforcement. -/
theorem aside_revokeServedEgress : Aside view revokeServedEgress := by
  refine .bind (spares_locked fun _ => rfl) fun served => ?_
  cases served with
  | none => exact spares_pure _
  | some =>
    refine .bind (spares_netlink (spares_change fun _ => rfl)) fun _ => ?_
    refine .guard spares_dial (fun _ => spares_pure _) fun _ => ?_
    refine spares_attempt fun scope => congrArg view ?_
    exact Enforcement.ext rfl rfl rfl rfl Option.isSome_map

/-- What the kill-switch handlers work on. -/
def Enforcement.lockdown (seen : Enforcement) : Bool × Bool := (seen.armed, seen.locked)

/-- What the IPv6 handlers work on. -/
def Enforcement.settings (seen : Enforcement) : String × String × (String → String) :=
  (seen.ipv6For, seen.ipv6Was, seen.ipv6)

/-- The lockdown does not depend on the saved settings. -/
theorem lockdown_blind : BlindToSettings fun scope => scope.enforcement.lockdown where
  memory _ _ _ := rfl
  ipv6 _ _ := rfl

theorem aside_clearTable : Aside Enforcement.settings clearTable := by
  refine .bind (spares_query _) fun found => ?_
  split
  · exact spares_attempt fun _ => rfl
  · exact spares_pure _

theorem aside_transact (msgs : List NftMsg) : Aside Enforcement.settings (transact msgs) := by
  refine spares_await fun scope answer => ?_
  cases answer.committed <;> rfl

theorem aside_arm (spec : KillSwitchSpec) : Aside Enforcement.settings (arm spec) := by
  refine .guard spares_dial (fun _ => spares_refuse _ _) fun _ => ?_
  refine .bind aside_clearTable fun _ => ?_
  split
  · exact spares_pure _
  · refine .bind (aside_transact _) fun committed => ?_
    cases committed with
    | error => exact .bind (spares_attempt fun _ => rfl) fun _ => spares_refuse _ _
    | ok _ => exact .bind (spares_lockedUpdate fun _ => rfl) fun _ => spares_succeed

/-- Arming leaves the settings. -/
theorem aside_handleEnableKillSwitch (req : Request) :
    Aside Enforcement.settings (handleEnableKillSwitch req) := by
  refine .bind (spares_lockedRead _) fun tunIndex => ?_
  split
  · exact spares_refuse _ _
  · refine .guard (spares_query _) (fun _ => spares_refuse _ _) fun lo => ?_
    refine .bind (spares_lockedRead _) fun servedSrc => ?_
    split
    · exact spares_pure _
    · exact aside_arm _

/-- Disarming leaves the settings. -/
theorem aside_handleDisableKillSwitch : Aside Enforcement.settings handleDisableKillSwitch := by
  refine .guard spares_dial (fun _ => spares_succeed) fun _ => ?_
  refine .bind (spares_attempt fun _ => rfl) fun _ => ?_
  exact .bind (spares_lockedUpdate fun _ => rfl) fun _ => spares_succeed

/-- Recovery leaves the settings. -/
theorem aside_handleRecoverKillSwitch : Aside Enforcement.settings handleRecoverKillSwitch := by
  refine .guard spares_dial (fun _ => spares_succeed) fun _ => ?_
  refine .bind (spares_query _) fun found => ?_
  split
  · exact spares_succeed
  · exact spares_succeed
  · refine .bind (spares_locked fun _ => rfl) fun live => ?_
    split
    · exact spares_succeed
    · refine .bind (spares_attempt fun _ => rfl) fun _ => ?_
      exact .bind aside_reapRoutes fun _ => spares_succeed

/-- The verbs whose handlers work on what is followed. -/
def Verb.enforces : Verb → Bool
  | .disablePhysicalIPv6 | .enablePhysicalIPv6 | .enableKillSwitch | .disableKillSwitch
  | .recoverKillSwitch => true
  | _ => false

/-- A request about something else leaves the enforcement. -/
theorem aside_handle {req : Request}
    (other : (Verb.parse req.verb).any Verb.enforces = false) : Aside view (handle req) := by
  unfold handle
  split
  · exact spares_handleDefaultGateway (enforcement_blind view)
  · exact spares_handleExclusionRoutes (enforcement_blind view) req false
  · exact spares_handleExclusionRoutes (enforcement_blind view) req true
  · exact spares_handleInclusionRoutes (enforcement_blind view) req
  · exact spares_handleRemoveRoutes (enforcement_blind view) req
  · exact spares_handleCreateTUN (enforcement_blind view)
  · exact spares_handleConfigureTUN (enforcement_blind view) req
  · exact spares_handleSplitDefaultRoute (enforcement_blind view) req
  all_goals first
    | exact aside_handleRefreshAllowIP req
    | exact aside_handleCaptureDNS
    | exact aside_closeSession
    | exact aside_handleAllowServedEgress
    | exact .bind aside_revokeServedEgress fun _ => spares_succeed
    | exact spares_refuse _ _
    | simp_all [Verb.enforces]

end

/-- What is followed, for one session. -/
def Helper.enforcement (helper : Helper) (id : SessionId) : Enforcement :=
  (helper.scope id).enforcement

section

variable {α Observed : Type} {Allowed : Answer → Prop} {Post : Observed → α → Prop} {work : Work α}
  {helper : Helper} {id : SessionId} {answers : Nat → Answer}

theorem scope_restore (bound : id < helper.sessions.length) (scope : Scope) :
    ((helper.restore id scope).scope id).session = scope.session ∧
      ((helper.restore id scope).scope id).kernel = scope.kernel := by
  simp [Helper.scope, Helper.session, Helper.restore, List.getD_eq_getElem?_getD, bound]

/-- The scope written back is the session's. -/
theorem enforcement_restore (bound : id < helper.sessions.length) (scope : Scope) :
    (helper.restore id scope).enforcement id = scope.enforcement := by
  obtain ⟨sameSession, sameKernel⟩ := scope_restore bound scope
  simp only [Helper.enforcement, Scope.enforcement, sameSession, sameKernel]

/-- What a handler does to what is watched of a session and the kernel; it opens and closes
nothing. -/
theorem exec_watch (watch : SessionState → Kernel → Observed)
    (bound : id < helper.sessions.length) (allowed : ∀ index, Allowed (answers index))
    (tracks : work.Tracks (fun scope => watch scope.session scope.kernel) Allowed Post
      (watch (helper.session id).toSessionState helper.kernel)) :
    let after := (Work.on work id).exec answers helper
    after.1.sess = helper.sess ∧ after.1.sessions.length = helper.sessions.length ∧
      Post (watch (after.1.session id).toSessionState after.1.kernel) after.2 := by
  let Good (other : Helper) : Prop :=
    other.sess = helper.sess ∧ other.sessions.length = helper.sessions.length
  have keeps : ∀ {state : Helper} (scope : Scope), Good state → Good (state.restore id scope) :=
    fun scope good => ⟨good.1, (List.length_modify ..).trans good.2⟩
  have writes : ∀ {state : Helper} (scope : Scope), Good state →
      watch ((state.restore id scope).scope id).session ((state.restore id scope).scope id).kernel =
        watch scope.session scope.kernel := by
    intro state scope good
    obtain ⟨sameSession, sameKernel⟩ := scope_restore (good.2 ▸ bound) scope
    rw [sameSession, sameKernel]
  have start : Good helper := ⟨rfl, rfl⟩
  obtain ⟨good, post⟩ := @Task.Tracks.execZoom _ _ _ _ _ _ _ (fun state : Helper => state.scope id)
    (Helper.restore id) (fun scope => watch scope.session scope.kernel) Good keeps writes work
    answers helper start allowed tracks
  exact ⟨good.1, good.2, post⟩

/-- What a handler tracks of the enforcement, over a whole run of it. -/
theorem exec_on {view : Enforcement → Observed} (bound : id < helper.sessions.length)
    (allowed : ∀ index, Allowed (answers index))
    (tracks : work.Tracks (fun scope => view scope.enforcement) Allowed Post
      (view (helper.enforcement id))) :
    let after := (Work.on work id).exec answers helper
    after.1.sess = helper.sess ∧ after.1.sessions.length = helper.sessions.length ∧
      Post (view (after.1.enforcement id)) after.2 :=
  exec_watch (fun session kernel => view ⟨session.ipv6For, session.ipv6Was, kernel.ipv6,
    session.killSwitchArmed, kernel.table.isSome⟩) bound allowed tracks

/-- A handler keeps the slot and the sessions' number. -/
theorem exec_frame (work : Work α) (bound : id < helper.sessions.length) (answers : Nat → Answer) :
    ((Work.on work id).exec answers helper).1.sess = helper.sess ∧
      ((Work.on work id).exec answers helper).1.sessions.length = helper.sessions.length := by
  obtain ⟨sess, length, -⟩ := @exec_on α Unit (fun _ => True) (fun _ _ => True) work helper id
    answers (fun _ => ()) bound (fun _ => trivial) (tracks_true work)
  exact ⟨sess, length⟩

/-- After a request the slot is free or still the session's. -/
theorem exec_slot {other : SessionId} (bound : id < helper.sessions.length)
    (slot : helper.sess = some id)
    (taken : ((Work.on work id).exec answers helper).1.sess = some other) :
    other = id ∧ other < ((Work.on work id).exec answers helper).1.sessions.length := by
  obtain ⟨sess, length⟩ := exec_frame work bound answers
  obtain rfl : other = id := Option.some.inj ((sess ▸ taken).symm.trans slot)
  exact ⟨rfl, bound.trans_eq length.symm⟩

/-- A run of such a handler leaves the view. -/
theorem aside_exec {view : Enforcement → Observed} (aside : Aside view work)
    (bound : id < helper.sessions.length) (answers : Nat → Answer) :
    let after := (Work.on work id).exec answers helper
    after.1.sess = helper.sess ∧ after.1.sessions.length = helper.sessions.length ∧
      view (after.1.enforcement id) = view (helper.enforcement id) :=
  exec_on bound (fun _ => trivial) (aside (fun _ => True) _)

end

/-- The answers after the first. -/
abbrev laterAnswers (answers : Nat → Answer) (index : Nat) : Answer := answers (index + 1)

@[simp] theorem restore_scope (helper : Helper) (id : SessionId) :
    helper.restore id (helper.scope id) = helper := by
  have same : helper.sessions.modify id (fun session =>
      { session with toSessionState := (helper.session id).toSessionState }) = helper.sessions := by
    apply List.ext_getElem?
    intro other
    rw [List.getElem?_modify]
    by_cases here : id = other
    · subst here
      cases found : helper.sessions[id]? with
      | none => rfl
      | some session => simp [Helper.session, List.getD_eq_getElem?_getD, found]
    · simp [here]
  simp only [Helper.restore, Helper.scope, same]

section

variable {α β : Type} {helper : Helper} {id : SessionId} {answers : Nat → Answer}

/-- One handler after another. -/
theorem exec_then (first : Work α) (rest : α → Work β) :
    (Work.on (first >>= rest) id).exec answers helper =
      (Work.on (rest ((Work.on first id).exec answers helper).2) id).exec
        ((Work.on first id).leftover answers helper)
        ((Work.on first id).exec answers helper).1 := by
  rw [Work.on, zoom_bind, exec_bind]
  rfl

/-- A section under the mutex. -/
theorem exec_locked (body : Scope → Scope × α) (rest : α → Work β) :
    (Work.on (locked body >>= rest) id).exec answers helper =
      (Work.on (rest (body (helper.scope id)).2) id).exec (laterAnswers answers)
        (helper.restore id (body (helper.scope id)).1) := by
  simp only [Work.on, locked, await, act_bind, done_bind, zoom, exec]

/-- A read under the mutex. -/
theorem exec_lockedView (view : Scope → α) (rest : α → Work β) :
    (Work.on (locked (fun scope => (scope, view scope)) >>= rest) id).exec answers helper =
      (Work.on (rest (view (helper.scope id))) id).exec (laterAnswers answers) helper := by
  rw [exec_locked, restore_scope]

/-- A system call that reads. -/
theorem exec_query (call : Kernel → Answer → α) (rest : Except String α → Work β) :
    (Work.on (query call >>= rest) id).exec answers helper = match (answers 0).error with
      | some error => (Work.on (rest (.error error)) id).exec (laterAnswers answers) helper
      | none =>
        (Work.on (rest (.ok (call helper.kernel (answers 0)))) id).exec (laterAnswers answers)
          helper := by
  cases failed : (answers 0).error <;>
    simp only [Work.on, query, syscall, atomically, await, act_bind, done_bind,
      zoom, exec, failed] <;>
    exact congrArg (exec _ _) (restore_scope helper id)

/-- A system call that changes the machine, or fails. -/
theorem exec_change (call : Kernel → Kernel) (rest : Except String Unit → Work β) :
    (Work.on (change call >>= rest) id).exec answers helper = match (answers 0).error with
      | some error => (Work.on (rest (.error error)) id).exec (laterAnswers answers) helper
      | none =>
        (Work.on (rest (.ok ())) id).exec (laterAnswers answers)
          { helper with kernel := call helper.kernel } := by
  cases failed : (answers 0).error <;>
    simp only [Work.on, change, syscall, atomically, await, act_bind, done_bind, zoom, exec, failed]
  · have same := restore_scope helper id
    have written : helper.restore id { helper.scope id with kernel := call helper.kernel } =
        { helper with kernel := call helper.kernel } :=
      congrArg (fun other : Helper => { other with kernel := call helper.kernel }) same
    exact congrArg (exec _ _) written
  · exact congrArg (exec _ _) (restore_scope helper id)

/-- A change of the machine that no answer stops, with what it returns. -/
theorem exec_machine (move : Kernel → Answer → Kernel) (result : Answer → α) (rest : α → Work β) :
    (Work.on (atomically (fun scope answer =>
        ({ scope with kernel := move scope.kernel answer }, result answer)) >>= rest)
        id).exec answers helper =
      (Work.on (rest (result (answers 0))) id).exec (laterAnswers answers)
        { helper with kernel := move helper.kernel (answers 0) } := by
  have written : helper.restore id { helper.scope id with
      kernel := move helper.kernel (answers 0) } =
        { helper with kernel := move helper.kernel (answers 0) } :=
    congrArg (fun other : Helper => { other with kernel := move helper.kernel (answers 0) })
      (restore_scope helper id)
  simp only [Work.on, atomically, await, act_bind, done_bind, zoom, exec]
  exact congrArg (exec _ _) written

/-- A change whose failure is ignored. -/
theorem exec_attempt (call : Kernel → Kernel) (rest : Unit → Work β) :
    (Work.on (attempt call >>= rest) id).exec answers helper =
      (Work.on (rest ()) id).exec (laterAnswers answers) { helper with
        kernel := if (answers 0).made then call helper.kernel else helper.kernel } :=
  exec_machine (fun kernel answer => if answer.made then call kernel else kernel) (fun _ => ()) rest

/-- A batch that is committed or not. -/
theorem exec_transact (msgs : List NftMsg) (rest : Except String Unit → Work β) :
    (Work.on (transact msgs >>= rest) id).exec answers helper =
      (Work.on (rest ((answers 0).commit.elim (.ok ()) .error)) id).exec (laterAnswers answers)
        { helper with
          kernel := if (answers 0).committed then helper.kernel.batch msgs else helper.kernel } :=
  exec_machine (fun kernel answer => if answer.committed then kernel.batch msgs else kernel)
    (fun answer => answer.commit.elim (Except.ok ()) Except.error) rest

/-- Where a table only stands for an armed session, nothing is to be recovered. -/
theorem exec_handleRecoverKillSwitch (slot : helper.sess = some id)
    (armed : (helper.enforcement id).locked → (helper.enforcement id).armed) :
    ((Work.on handleRecoverKillSwitch id).exec answers helper).1 = helper := by
  rw [handleRecoverKillSwitch, dial, exec_query]
  cases (answers 0).error with
  | some => rfl
  | none =>
    rw [exec_query]
    cases (answers 1).error with
    | some => rfl
    | none =>
      cases present : helper.kernel.table.isSome with
      | false => rfl
      | true =>
        have live : (helper.scope id).live := by
          simp only [Helper.scope, slot, Option.any_some]
          exact armed present
        rw [exec_lockedView, live]
        rfl

end

/-- What an open leaves alone, and what it does to a table left behind. -/
structure Reaped (before after : Helper) (answers : Nat → Answer) : Prop where
  sess : after.sess = before.sess
  sessions : after.sessions = before.sessions
  ipv6 : after.kernel.ipv6 = before.kernel.ipv6
  lifted : before.kernel.table.isSome = false ∨
    (answers 0).error = none ∧ (answers 1).error = none ∧ (answers 2).made →
    after.kernel.table.isSome = false

/-- The view and the write of `reapForOpen`. -/
private def onKernel {α : Type} (work : Work α) : Task Helper Answer α :=
  work.zoom (fun helper => helper.scope helper.sessions.length)
    fun helper scope => { helper with kernel := scope.kernel }

private theorem aside_onKernel {α : Type} {work : Work α}
    (aside : Aside (fun seen => (seen.ipv6, seen.locked)) work) (helper : Helper)
    (answers : Nat → Answer) :
    let after := ((onKernel work).exec answers helper).1
    after.sess = helper.sess ∧ after.sessions = helper.sessions ∧
      after.kernel.ipv6 = helper.kernel.ipv6 ∧
      after.kernel.table.isSome = helper.kernel.table.isSome := by
  let Good (other : Helper) : Prop := other.sess = helper.sess ∧ other.sessions = helper.sessions
  have start : Good helper := ⟨rfl, rfl⟩
  obtain ⟨good, same⟩ := @Task.Tracks.execZoom _ _ _ _ (fun _ => True) _ _
    (fun state : Helper => state.scope state.sessions.length)
    (fun state scope => { state with kernel := scope.kernel })
    (fun scope => (scope.kernel.ipv6, scope.kernel.table.isSome)) Good
    (fun _ good => good) (fun _ _ => rfl) work answers helper start (fun _ => trivial)
    (aside (fun _ => True) _)
  exact ⟨good.1, good.2, congrArg Prod.fst same, congrArg Prod.snd same⟩

private theorem exec_onKernel_query {α β : Type} (call : Kernel → Answer → α)
    (rest : Except String α → Work β) (answers : Nat → Answer) (helper : Helper) :
    (onKernel (query call >>= rest)).exec answers helper = match (answers 0).error with
      | some error => (onKernel (rest (.error error))).exec (laterAnswers answers) helper
      | none =>
        (onKernel (rest (.ok (call helper.kernel (answers 0))))).exec (laterAnswers answers)
          helper := by
  cases failed : (answers 0).error <;>
    simp only [onKernel, query, syscall, atomically, await, act_bind, done_bind,
      zoom, exec, failed, Helper.scope]

private theorem exec_onKernel_attempt {β : Type} (call : Kernel → Kernel)
    (rest : Unit → Work β) (answers : Nat → Answer) (helper : Helper) :
    (onKernel (attempt call >>= rest)).exec answers helper =
      (onKernel (rest ())).exec (laterAnswers answers) { helper with
        kernel := if (answers 0).made then call helper.kernel else helper.kernel } := by
  simp only [onKernel, attempt, atomically, await, act_bind, done_bind, zoom, exec, Helper.scope]

theorem reaped (helper : Helper) (answers : Nat → Answer) :
    Reaped helper (reapForOpen.exec answers helper).1 answers := by
  have routes : ∀ (kernel : Kernel) (rest : Nat → Answer), kernel.ipv6 = helper.kernel.ipv6 →
      (helper.kernel.table.isSome = false ∨ (answers 0).error = none ∧ (answers 1).error = none ∧
        (answers 2).made → kernel.table.isSome = false) →
      Reaped helper ((onKernel reapRoutes).exec rest { helper with kernel }).1 answers := by
    intro kernel rest sameSettings lifted
    obtain ⟨sess, sessions, ipv6, locked⟩ :=
      aside_onKernel aside_reapRoutes { helper with kernel } rest
    exact ⟨sess, sessions, ipv6.trans sameSettings, fun cleared => locked.trans (lifted cleared)⟩
  have untouched : ∀ rest : Nat → Answer, ¬ ((answers 0).error = none ∧ (answers 1).error = none ∧
      (answers 2).made) →
      Reaped helper ((onKernel reapRoutes).exec rest helper).1 answers := by
    intro rest failed
    refine routes helper.kernel rest rfl ?_
    rintro (absent | worked)
    · exact absent
    · exact absurd worked failed
  change Reaped helper ((onKernel reapOrphan).exec answers helper).1 answers
  rw [reapOrphan, dial, exec_onKernel_query]
  cases dialled : (answers 0).error with
  | some => exact untouched _ (by simp [dialled])
  | none =>
    simp only [clearTable, bind_assoc]
    rw [exec_onKernel_query]
    cases looked : (answers 1).error with
    | some => exact untouched _ (by simp [looked])
    | none =>
      cases present : helper.kernel.table.isSome with
      | false => exact routes helper.kernel _ rfl fun _ => present
      | true =>
        rw [exec_onKernel_attempt]
        cases deleted : (answers 2).made with
        | false => exact untouched _ (by simp [deleted])
        | true => exact routes helper.kernel.deleteTable _ rfl fun _ => rfl

/-- An open that draws no token gives up the mutex; otherwise the new session remembers nothing and
is not armed. -/
theorem install_cases (conn : ConnId) (uid : UInt32) (helper : Helper) (mint : Answer) :
    (install conn uid helper mint).1 = { helper with mutex := none } ∨
      (install conn uid helper mint).1.sess = some helper.sessions.length ∧
        (install conn uid helper mint).1.sessions.length = helper.sessions.length + 1 ∧
        (install conn uid helper mint).1.enforcement helper.sessions.length =
          ⟨"", "", helper.kernel.ipv6, false, helper.kernel.table.isSome⟩ := by
  unfold install
  split
  · exact .inl rfl
  · refine .inr ⟨rfl, by simp, ?_⟩
    simp [Helper.enforcement, Scope.enforcement, Helper.scope, Helper.session]

/-- The ways a client moves the helper. -/
inductive Served (helper : Helper) : ClientLabel → Helper → Prop where
  /-- A request that is answered at once. -/
  | answered {conn uid req exchange} : Served helper (.request conn uid req exchange) helper
  | opened {conn uid req exchange cleared} (empty : helper.sess = none)
      (verb : Verb.parse req.verb = some .open)
      (reaped : Reaped helper cleared exchange.answers) :
      Served helper (.request conn uid req exchange) (install conn uid cleared exchange.mint).1
  | handled {conn uid req exchange id} (slot : helper.sess = some id)
      (authorised : req.token = (helper.session id).token)
      (fine : ((Work.on (handle req) id).exec exchange.answers helper).2 ≠ .panic) :
      Served helper (.request conn uid req exchange)
        ((Work.on (handle req) id).exec exchange.answers helper).1
  | closed {conn uid req exchange id} (slot : helper.sess = some id)
      (authorised : req.token = (helper.session id).token)
      (verb : Verb.parse req.verb = some .close) :
      Served helper (.request conn uid req exchange)
        ((Work.on closeSession id).exec exchange.answers { helper with sess := none }).1
  /-- The connection of nobody's session is lost. -/
  | idle {answers} (empty : helper.sess = none) : Served helper (.gone answers) helper
  | gone {answers id} (slot : helper.sess = some id) :
      Served helper (.gone answers)
        ((Work.on teardown id).exec answers { helper with sess := none }).1

/-- Each step serves one client. -/
theorem served_of_step {settings : String → String} {helper next : Helper} {label : ClientLabel}
    (moves : (clients settings).step helper label = some next) : Served helper label next := by
  cases label with
  | request conn uid req exchange =>
    simp only [clients, respond] at moves
    cases taken : turn req helper with
    | mk after turned =>
      rw [taken] at moves
      cases turned with
      | answer =>
        cases moves
        rw [turn_answer taken]
        exact .answered
      | openNew =>
        obtain ⟨rfl, empty, verb⟩ := turn_openNew taken
        cases moves
        exact .opened empty verb (reaped _ _)
      | work id =>
        obtain ⟨slot, token, ⟨rfl, rfl⟩ | ⟨rfl, rfl, verb⟩⟩ := turn_work taken
        · rcases run : (Work.on (handle req) id).exec exchange.answers after with
            ⟨final, _ | _⟩
          · simp only [run, Option.some.injEq] at moves
            have fine : ((Work.on (handle req) id).exec exchange.answers after).2 ≠
                .panic := by
              rw [run]
              nofun
            have handled := @Served.handled _ conn uid _ _ _ slot token fine
            rw [run] at handled
            exact moves ▸ handled
          · simp only [run, reduceCtorEq] at moves
        · rcases run : (Work.on closeSession id).exec exchange.answers
              { helper with sess := none } with ⟨final, _ | _⟩
          · simp only [run, Option.some.injEq] at moves
            have closed := @Served.closed _ conn uid _ exchange _ slot token verb
            rw [run] at closed
            exact moves ▸ closed
          · simp only [run, reduceCtorEq] at moves
  | gone =>
    cases moves
    unfold leave
    split
    · next empty => exact .idle empty
    · next id slot => exact .gone slot

/-- A client that sends a verb with the token of the sample. -/
def sends (verb : Verb) (exchange : Exchange) : ClientLabel :=
  .request 0 1000 (verbWith verb "t") exchange

/-- The helper starts with no session. -/
theorem initial_clients : (clients fun _ => "0\n").initial {} := ⟨rfl, rfl, rfl, rfl⟩

end Bacchus.Netd
