import Bacchus.Netd.Leavings

/-!
# What a session leaves in force

Over runs of clients one after another. A lost client takes its carve-out and its capture of the
resolver along. A close only releases the resolver, and one rule is deleted at a time.
-/

namespace Bacchus.Netd

open Netip

/-- What of a session is in force, seen from the helper. -/
def Helper.leavings (helper : Helper) (id : SessionId) : Leavings :=
  Netd.leavings (helper.session id).toSessionState helper.kernel

/-- The helper serving clients on a machine whose resolver was found in some state. -/
def clientsOver (found : Resolver) : Machine Helper ClientLabel where
  initial helper := helper.sessions = [] ∧ helper.sess = none ∧ helper.mutex = none ∧
    helper.kernel.resolver = found
  step := (clients fun _ => "").step

/-- No call of the step fails. -/
def CallsSucceed : ClientLabel → Prop
  | .request _ _ _ exchange => ∀ index, (exchange.answers index).Succeeds
  | .gone answers => ∀ index, (answers index).Succeeds

/-- A session is opened over at most one rule left by an earlier process, asks for a carve-out while
it has none or is refused one, and is closed without one. -/
def Tidy (helper : Helper) : ClientLabel → Prop
  | .gone _ => True
  | .request _ _ req _ =>
    match Verb.parse req.verb with
    | some .open => helper.sess = none → helper.kernel.servedRules.length ≤ 1
    | some .allowServedEgress => ∀ id, helper.sess = some id →
        req.token = (helper.session id).token →
          (helper.session id).killSwitchArmed = false → (helper.session id).servedSrc = none
    | some .close => ∀ id, helper.sess = some id →
        req.token = (helper.session id).token → (helper.session id).servedSrc = none
    | _ => True

/-- What is in force is the open session's, and nothing once it has ended. -/
structure Accounted (found : Resolver) (helper : Helper) : Prop where
  slot : ∀ {id}, helper.sess = some id → id < helper.sessions.length
  held : ∀ {id}, helper.sess = some id → Held found (helper.leavings id)
  released : helper.sess = none → Released found helper.kernel.resolver
  cleared : helper.sess = none → helper.sessions ≠ [] →
    helper.kernel.servedRules = [] ∧ helper.kernel.allowance = []

section

variable {found : Resolver} {helper : Helper} {id : SessionId} {answers : Nat → Answer}

theorem accounted_initial (valid : (clientsOver found).initial helper) :
    Accounted found helper where
  slot taken := by rw [valid.2.1] at taken; cases taken
  held taken := by rw [valid.2.1] at taken; cases taken
  released _ := by rw [valid.2.2.2]; exact released_refl found
  cleared _ opened := absurd valid.1 opened

/-- Nothing of a session is in force. -/
structure Ended (found : Resolver) (seen : Leavings) : Prop where
  released : Released found seen.resolver
  rules : seen.rules = []
  allowance : seen.allowance = []

theorem Accounted.exec {α : Type} {work : Work α} (accounted : Accounted found helper)
    (slot : helper.sess = some id)
    (ends : Held found (((Work.on work id).exec answers helper).1.leavings id)) :
    Accounted found ((Work.on work id).exec answers helper).1 := by
  obtain ⟨sess, -⟩ := exec_frame work (accounted.slot slot) answers
  have open_ : ((Work.on work id).exec answers helper).1.sess ≠ none := by
    rw [sess, slot]
    exact Option.some_ne_none id
  refine ⟨fun taken => (exec_slot (accounted.slot slot) slot taken).2, fun taken => ?_,
    fun empty => absurd empty open_, fun empty => absurd empty open_⟩
  rw [(exec_slot (accounted.slot slot) slot taken).1]
  exact ends

variable {req : Request}

theorem accounted_handled (accounted : Accounted found helper) (slot : helper.sess = some id)
    (succeeds : ∀ index, (answers index).Succeeds)
    (first : Verb.parse req.verb = some .allowServedEgress →
      (helper.session id).killSwitchArmed = false → (helper.session id).servedSrc = none)
    (fine : ((Work.on (handle req) id).exec answers helper).2 ≠ .panic) :
    Accounted found ((Work.on (handle req) id).exec answers helper).1 := by
  have held := accounted.held slot
  by_cases recovers : Verb.parse req.verb = some .recoverKillSwitch
  · have handler : handle req = handleRecoverKillSwitch := by
      rw [handle, recovers]
    rw [handler, exec_handleRecoverKillSwitch slot held.armed]
    exact accounted
  · obtain ⟨-, -, kept⟩ := exec_watch leavings (accounted.slot slot) succeeds
      (held_handle held recovers first)
    exact accounted.exec slot (kept fine)

/-- The last work for a session that has been taken out of the slot. -/
theorem Accounted.last {α : Type} {work : Work α} (accounted : Accounted found helper)
    (slot : helper.sess = some id) (succeeds : ∀ index, (answers index).Succeeds)
    (tracks : work.Ends Scope.leavings (fun after _ => Ended found after)
      (helper.leavings id)) :
    Accounted found ((Work.on work id).exec answers { helper with sess := none }).1 := by
  have bound : id < { helper with sess := none }.sessions.length := accounted.slot slot
  obtain ⟨sess, -, ended⟩ := exec_watch leavings bound succeeds tracks
  have empty : ((Work.on work id).exec answers { helper with sess := none }).1.sess = none := sess
  refine ⟨fun taken => ?_, fun taken => ?_, fun _ => ended.released,
    fun _ _ => ⟨ended.rules, ended.allowance⟩⟩
  · rw [empty] at taken
    cases taken
  · rw [empty] at taken
    cases taken

variable {seen : Leavings}

theorem ended_closeSession (held : Held found seen) (revoked : seen.served = none) :
    closeSession.Ends Scope.leavings (fun after _ => Ended found after) seen := by
  refine (tracks_releaseDNS held.releasable.fresh).bind ?_
  rintro _ _ rfl
  exact ⟨held.releasable.released, held.rules_nil revoked, held.allowance_nil revoked⟩

/-- A lost client takes everything along, whether or not the lockdown is held. -/
theorem ended_teardown (held : Held found seen) :
    teardown.Ends Scope.leavings (fun after _ => Ended found after) seen := by
  refine (tracks_releaseDNS held.releasable.fresh).bind ?_
  rintro _ _ rfl
  refine (tracks_revokeServedEgress held.release).bind ?_
  rintro _ _ rfl
  refine (spares_bareRead _).before fun armed => ?_
  split
  · exact ⟨held.releasable.released, rfl, rfl⟩
  · refine (tracks_reapRoutes fun session => session).bind ?_
    rintro _ _ rfl
    refine (spares_bareRead _).before fun captured => ?_
    refine (spares_restoreIPv6 leavings_blindToSettings _ _ _ _).imp ?_
    rintro _ _ rfl
    exact ⟨held.releasable.released, rfl, rfl⟩

theorem tracks_reapOrphan (unlocked : seen.locked = false → seen.allowance = []) :
    reapOrphan.Ends (fun scope => leavings {} scope.kernel) (fun after _ => after =
        { seen with locked := false, allowance := [], rules := seen.rules.drop 1 }) seen := by
  refine after_dial ?_
  refine (tracks_clearTable_leavings (fun _ => {}) unlocked).bind ?_
  rintro _ _ rfl
  exact tracks_reapRoutes fun _ => {}

theorem reapForOpen_leaves (succeeds : ∀ index, (answers index).Succeeds) :
    let after := (reapForOpen.exec answers helper).1
    after.sess = helper.sess ∧ after.sessions = helper.sessions ∧
      after.kernel.table.isSome = false ∧ after.kernel.allowance = [] ∧
      after.kernel.servedRules = helper.kernel.servedRules.drop 1 ∧
      after.kernel.resolver = helper.kernel.resolver := by
  let Good (other : Helper) : Prop := other.sess = helper.sess ∧ other.sessions = helper.sessions
  have start : Good helper := ⟨rfl, rfl⟩
  have unlocked : (leavings {} helper.kernel).locked = false →
      (leavings {} helper.kernel).allowance = [] := allowance_of_unlocked
  obtain ⟨good, seen⟩ := @Task.Tracks.execZoom _ _ _ _ Answer.Succeeds _ _
    (fun state : Helper => state.scope state.sessions.length)
    (fun state scope => { state with kernel := scope.kernel })
    (fun scope => leavings {} scope.kernel) Good
    (fun _ good => good) (fun _ _ => rfl) reapOrphan answers helper start succeeds
    (tracks_reapOrphan unlocked)
  exact ⟨good.1, good.2, congrArg Leavings.locked seen, congrArg Leavings.allowance seen,
    congrArg Leavings.rules seen, congrArg Leavings.resolver seen⟩

theorem held_fresh {kernel : Kernel} (unlocked : kernel.table.isSome = false)
    (bare : kernel.servedRules = []) (released : Released found kernel.resolver) :
    Held found (leavings {} kernel) where
  few := by
    rw [show (leavings {} kernel).rules = [] from bare]
    exact Nat.zero_le 1
  rules rule member := by
    rw [show (leavings {} kernel).rules = [] from bare] at member
    exact absurd member List.not_mem_nil
  allowance element member := by
    rw [show (leavings {} kernel).allowance = [] from allowance_of_unlocked unlocked] at member
    exact absurd member List.not_mem_nil
  unlocked := allowance_of_unlocked
  armed locked := by
    rw [show (leavings {} kernel).locked = false from unlocked] at locked
    cases locked
  releasable := ⟨released, fun _ => rfl⟩

theorem accounted_opened {conn : ConnId} {uid : UInt32} {mint : Answer}
    (accounted : Accounted found helper) (empty : helper.sess = none)
    (succeeds : ∀ index, (answers index).Succeeds)
    (few : helper.kernel.servedRules.length ≤ 1) :
    Accounted found (install conn uid (reapForOpen.exec answers helper).1 mint).1 := by
  obtain ⟨sess, _, unlocked, allowance, rules, resolver⟩ :=
    @reapForOpen_leaves helper answers succeeds
  have bare : (reapForOpen.exec answers helper).1.kernel.servedRules = [] :=
    rules.trans (List.drop_eq_nil_of_le few)
  have released : Released found (reapForOpen.exec answers helper).1.kernel.resolver :=
    resolver ▸ accounted.released empty
  generalize (reapForOpen.exec answers helper).1 = cleared at *
  unfold install
  split
  · refine ⟨fun taken => ?_, fun taken => ?_, fun _ => released, fun _ _ => ⟨bare, allowance⟩⟩
    all_goals
      rw [show cleared.sess = some _ from taken] at sess
      rw [← sess] at empty
      cases empty
  · refine ⟨fun taken => ?_, fun taken => ?_, fun none => ?_, fun none => ?_⟩
    · cases taken
      simp
    · cases taken
      simpa [Helper.leavings, Helper.session] using held_fresh unlocked bare released
    · cases none
    · cases none

theorem step_open {next : Helper} {conn : ConnId} {uid : UInt32} {exchange : Exchange}
    (empty : helper.sess = none) (verb : Verb.parse req.verb = some .open)
    (moves : (clientsOver found).step helper (.request conn uid req exchange) = some next) :
    next = (install conn uid (reapForOpen.exec exchange.answers helper).1 exchange.mint).1 := by
  simp only [clientsOver, clients, respond, turn, verb, empty, Option.some.injEq] at moves
  exact moves.symm

/-- Every request keeps what is held accounted for. -/
theorem accounted_step {next : Helper} {label : ClientLabel} (accounted : Accounted found helper)
    (guard : CallsSucceed label ∧ Tidy helper label)
    (moves : (clientsOver found).step helper label = some next) : Accounted found next := by
  obtain ⟨succeeds, tidy⟩ := guard
  have served : Served helper label next := @served_of_step (fun _ => "") _ _ _ moves
  cases served with
  | answered | idle => exact accounted
  | opened empty verb =>
    rw [step_open empty verb moves]
    simp only [Tidy, verb] at tidy
    exact accounted_opened accounted empty succeeds (tidy empty)
  | handled slot authorised fine =>
    refine accounted_handled accounted slot succeeds (fun verb => ?_) fine
    simp only [Tidy, verb] at tidy
    exact tidy _ slot authorised
  | closed slot authorised verb =>
    simp only [Tidy, verb] at tidy
    exact accounted.last slot succeeds
      (ended_closeSession (accounted.held slot) (tidy _ slot authorised))
  | gone slot => exact accounted.last slot succeeds (ended_teardown (accounted.held slot))

/-- While calls succeed, carve-outs do not overlap and none is left to a close: once a session has
ended nothing it made is in force, and under a later one only what that made. -/
theorem ended_leaves_nothing {labels : List ClientLabel}
    (runs : (clientsOver found).Runs (fun helper label => CallsSucceed label ∧ Tidy helper label)
      labels helper) :
    (helper.sess = none → helper.sessions ≠ [] → helper.kernel.servedRules = [] ∧
      helper.kernel.allowance = [] ∧ Released found helper.kernel.resolver) ∧
    ∀ id, helper.sess = some id →
      (∀ rule ∈ helper.kernel.servedRules, (helper.session id).servedSrc = some rule.1) ∧
      (∀ element ∈ helper.kernel.allowance, (helper.session id).servedSrc = some (.v4 element)) ∧
      Released found ((helper.session id).dns.undone helper.kernel.resolver) := by
  have accounted : Accounted found helper := runs.invariant accounted_initial accounted_step
  refine ⟨fun ended opened => ?_, fun id slot => ?_⟩
  · obtain ⟨rules, allowance⟩ := accounted.cleared ended opened
    exact ⟨rules, allowance, accounted.released ended⟩
  · have held := accounted.held slot
    exact ⟨held.rules, held.allowance, held.releasable.released⟩

end

theorem initial_clientsOver : (clientsOver ({} : Kernel).resolver).initial {} :=
  ⟨rfl, rfl, rfl, rfl⟩

/-- The source read for a carve-out. -/
def sourced (src : BitVec 32) : Exchange where
  answers _ := { index := 7, source := .v4 src }
  mint := { token := "t" }

/-- A session that carves egress out and arms. -/
def carvesAndArms : List ClientLabel :=
  [sends .open smooth, sends .allowServedEgress (sourced 0xc0a80005), sends .createTUN smooth,
    sends .enableKillSwitch smooth]

/-- What a look at the helper shows: session, rules and allowance. -/
def Helper.egress (helper : Helper) : Option SessionId × List (Addr × UInt32) × List (BitVec 32) :=
  (helper.sess, helper.kernel.servedRules, helper.kernel.allowance)

/-- A client lost while armed leaves no carve-out, with the lockdown held. -/
theorem armed_loss_leaves_nothing :
    ∃ helper, (clientsOver ({} : Kernel).resolver).Runs
        (fun helper label => CallsSucceed label ∧ Tidy helper label)
        (carvesAndArms ++ [.gone smooth.answers]) helper ∧
      helper.kernel.table.isSome = true ∧ helper.kernel.servedRules = [] ∧
      helper.kernel.allowance = [] ∧
      Released ({} : Kernel).resolver helper.kernel.resolver := by
  have met : (clientsOver ({} : Kernel).resolver).Meets
      (fun helper label => CallsSucceed label ∧ Tidy helper label) {}
      (carvesAndArms ++ [.gone smooth.answers]) := by
    refine ⟨⟨fun _ => ⟨rfl, rfl⟩, fun _ => Nat.zero_le 1⟩, ⟨fun _ => ⟨rfl, rfl⟩, ?_⟩,
      ⟨fun _ => ⟨rfl, rfl⟩, trivial⟩, ⟨fun _ => ⟨rfl, rfl⟩, trivial⟩,
      ⟨fun _ => ⟨rfl, rfl⟩, trivial⟩, trivial⟩
    intro id slot _ _
    cases slot
    rfl
  obtain ⟨helper, runs, ended, opened, locked⟩ : ∃ helper,
      (clientsOver ({} : Kernel).resolver).Runs _ (carvesAndArms ++ [.gone smooth.answers]) helper ∧
      helper.sess = none ∧ helper.sessions.length ≠ 0 ∧ helper.kernel.table.isSome :=
    Machine.exists_runs initial_clientsOver met (by decide)
  obtain ⟨rules, allowance, released⟩ :=
    (ended_leaves_nothing runs).1 ended (List.length_eq_zero_iff.not.mp opened)
  exact ⟨helper, runs, locked, rules, allowance, released⟩

/-- Two carve-outs from different sources; the client is lost while armed. -/
def carvesTwice : List ClientLabel :=
  [sends .open smooth, sends .allowServedEgress (sourced 0xc0a80005),
    sends .allowServedEgress (sourced 0x0a000005), sends .createTUN smooth,
    sends .enableKillSwitch smooth, .gone smooth.answers]

/-- A close leaves the rule and the allowance of the session in force. A second carve-out from
another source leaves a rule even when the client is lost. -/
theorem close_leaves_carve_out :
    (∃ helper, (clientsOver ({} : Kernel).resolver).Runs (fun _ label => CallsSucceed label)
        (carvesAndArms ++ [sends .close smooth]) helper ∧
      helper.egress = (none, [(.v4 0xc0a80005, 1000)], [0xc0a80005])) ∧
    ∃ helper, (clientsOver ({} : Kernel).resolver).Runs (fun _ label => CallsSucceed label)
        carvesTwice helper ∧
      helper.egress = (none, [(.v4 0x0a000005, 1000)], []) := by
  refine ⟨Machine.exists_runs initial_clientsOver ?_ (by decide),
    Machine.exists_runs initial_clientsOver ?_ (by decide)⟩
  · exact ⟨fun _ => ⟨rfl, rfl⟩, fun _ => ⟨rfl, rfl⟩, fun _ => ⟨rfl, rfl⟩, fun _ => ⟨rfl, rfl⟩,
      fun _ => ⟨rfl, rfl⟩, trivial⟩
  · exact ⟨fun _ => ⟨rfl, rfl⟩, fun _ => ⟨rfl, rfl⟩, fun _ => ⟨rfl, rfl⟩, fun _ => ⟨rfl, rfl⟩,
      fun _ => ⟨rfl, rfl⟩, fun _ => ⟨rfl, rfl⟩, trivial⟩

end Bacchus.Netd
