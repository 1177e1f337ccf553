import Bacchus.Netd.Clients

/-!
# The lockdown and its record

A session is recorded as armed where its table is committed, and no longer where it is lifted. A
failed deletion and a failed second arming are not looked at, nor a table that an open could not
lift, nor whether a failed transaction was committed.
-/

namespace Bacchus.Netd

open Bacchus.Task

/-- The open session is armed exactly when the lockdown table exists. -/
structure Agreed (helper : Helper) : Prop where
  slot : ∀ {id}, helper.sess = some id → id < helper.sessions.length
  agrees : ∀ {id}, helper.sess = some id →
    (helper.enforcement id).armed = (helper.enforcement id).locked

/-- The operations on the table that have to work: the three by which an open lifts a table left
behind, a second arming, the clean-up of a first one that was committed and then failed, and the
deletion of a disarm. -/
def TableObeys (helper : Helper) : ClientLabel → Prop
  | .gone _ => True
  | .request _ _ req exchange =>
    match Verb.parse req.verb with
    | some .open =>
      helper.sess = none → helper.kernel.table.isSome →
        (exchange.answers 0).error = none ∧ (exchange.answers 1).error = none ∧
          (exchange.answers 2).made
    | some .enableKillSwitch =>
      (helper.kernel.table.isSome → ∀ index, (exchange.answers index).commit = none) ∧
        (helper.kernel.table.isSome = false → (exchange.answers 5).commit ≠ none →
          (exchange.answers 5).landed → (exchange.answers 6).made)
    | some .disableKillSwitch =>
      helper.kernel.table.isSome → (exchange.answers 0).error = none →
        (exchange.answers 1).made
    | _ => True

section

variable {helper : Helper} {id : SessionId} {answers : Nat → Answer}

/-- Clearing a stale table changes the machine only; without a table it uses one answer. -/
theorem exec_clearTable : ∃ kernel : Kernel,
    ((Work.on clearTable id).exec answers helper).1 = { helper with kernel } ∧
      (helper.kernel.table.isSome = false → kernel.table.isSome = false ∧
        (Work.on clearTable id).leftover answers helper = laterAnswers answers) := by
  rw [clearTable, exec_query]
  have used : helper.kernel.table.isSome = false →
      (Work.on clearTable id).leftover answers helper = laterAnswers answers := by
    intro absent
    cases failed : (answers 0).error <;>
      simp [Work.on, clearTable, query, syscall, atomically, await, zoom, leftover, failed, absent,
        Helper.scope]
  cases (answers 0).error with
  | some => exact ⟨_, rfl, fun absent => ⟨absent, used absent⟩⟩
  | none =>
    cases present : helper.kernel.table.isSome with
    | false => exact ⟨_, rfl, fun absent => ⟨present, used present⟩⟩
    | true =>
      exact ⟨_, congrArg Prod.fst (exec_attempt Kernel.deleteTable pure), by rintro ⟨⟩⟩

variable (bound : id < helper.sessions.length)
  (agrees : (helper.enforcement id).armed = (helper.enforcement id).locked)
include bound agrees

/-- An arming is recorded once it is committed; a failed one leaves no table if there was none. -/
theorem agrees_arm (spec : KillSwitchSpec)
    (commits : helper.kernel.table.isSome → ∀ index, (answers index).commit = none)
    (lifts : helper.kernel.table.isSome = false → (answers 2).commit ≠ none →
      (answers 2).landed → (answers 3).made) :
    let after := (Work.on (arm spec) id).exec answers helper
    after.2 ≠ .panic → (after.1.enforcement id).armed = (after.1.enforcement id).locked := by
  dsimp only
  rw [arm, dial, exec_query]
  cases (answers 0).error with
  | some => exact fun _ => agrees
  | none =>
    dsimp only
    rw [exec_then]
    obtain ⟨kernel, cleared, absent⟩ := @exec_clearTable helper id (laterAnswers answers)
    rw [cleared]
    have committing : helper.kernel.table.isSome →
        ((Work.on clearTable id).leftover (laterAnswers answers) helper 0).commit = none :=
      fun present => @leftover_every _ _ _ _ Answer.Commits _
        (fun index => commits present (index + 1)) helper 0
    generalize (Work.on clearTable id).leftover (laterAnswers answers) helper = rest at *
    cases killSwitchMsgs spec with
    | none => exact fun fine => absurd rfl fine
    | some msgs =>
      dsimp only
      rw [exec_transact]
      cases failed : (rest 0).commit with
      | none =>
        rw [Answer.committed, failed]
        dsimp only [Option.elim, Option.isNone, Bool.true_or]
        rw [lockedUpdate, exec_locked]
        intro _
        exact congrArg Enforcement.armed (enforcement_restore bound _)
      | some error =>
        have missing : helper.kernel.table.isSome = false := by
          cases present : helper.kernel.table.isSome with
          | false => rfl
          | true =>
            cases failed.symm.trans (committing present)
        obtain ⟨lifted, rfl⟩ := absent missing
        dsimp only [Option.elim]
        rw [exec_attempt]
        -- What was committed before the failure is deleted, and there was nothing else.
        refine fun _ => (agrees.trans missing).trans ?_
        change _ = (if (answers 3).made = true then Kernel.deleteTable _ else _).table.isSome
        cases made : (answers 3).made with
        | true => rfl
        | false =>
          have refused : (answers 2).landed = false := by
            rw [Bool.eq_false_iff]
            intro landed
            cases made.symm.trans (lifts missing (by rw [failed]; rintro ⟨⟩) landed)
          change _ =
            (if (answers 2).committed = true then kernel.batch msgs else kernel).table.isSome
          rw [Answer.committed, failed, refused]
          exact lifted.symm

theorem agrees_handleEnableKillSwitch (req : Request)
    (commits : helper.kernel.table.isSome → ∀ index, (answers index).commit = none)
    (lifts : helper.kernel.table.isSome = false → (answers 5).commit ≠ none →
      (answers 5).landed → (answers 6).made) :
    let after := (Work.on (handleEnableKillSwitch req) id).exec answers helper
    after.2 ≠ .panic → (after.1.enforcement id).armed = (after.1.enforcement id).locked := by
  dsimp only
  rw [handleEnableKillSwitch, lockedRead, exec_lockedView]
  split
  · exact fun _ => agrees
  rw [exec_query]
  cases (answers 1).error with
  | some => exact fun _ => agrees
  | none =>
    dsimp only
    rw [lockedRead, exec_lockedView]
    split
    · exact fun _ => agrees
    · exact agrees_arm bound agrees _ (fun present index => commits present (index + 3)) lifts

/-- A disarm that opens its socket deletes the table, then clears the record. -/
theorem agrees_handleDisableKillSwitch
    (obeys : helper.kernel.table.isSome → (answers 0).error = none →
      (answers 1).made) :
    let after := ((Work.on handleDisableKillSwitch id).exec answers helper).1
    (after.enforcement id).armed = (after.enforcement id).locked := by
  rw [handleDisableKillSwitch, dial, exec_query]
  cases dialled : (answers 0).error with
  | some => exact agrees
  | none =>
    dsimp only
    rw [exec_attempt, lockedUpdate, exec_locked]
    refine (congrArg Enforcement.armed (enforcement_restore bound _)).trans ?_
    refine Eq.trans ?_ (congrArg Enforcement.locked (enforcement_restore bound _)).symm
    change false = (if (answers 1).made = true then helper.kernel.deleteTable
      else helper.kernel).table.isSome
    cases made : (answers 1).made with
    | true => rfl
    | false =>
      cases present : helper.kernel.table.isSome with
      | false => exact present.symm
      | true => cases made.symm.trans (obeys present dialled)

end

variable {helper : Helper} {id : SessionId} {answers : Nat → Answer}

theorem Agreed.exec {α : Type} {work : Work α} (agreed : Agreed helper)
    (slot : helper.sess = some id)
    (agrees : (((Work.on work id).exec answers helper).1.enforcement id).armed =
      (((Work.on work id).exec answers helper).1.enforcement id).locked) :
    Agreed ((Work.on work id).exec answers helper).1 := by
  refine ⟨fun taken => (exec_slot (agreed.slot slot) slot taken).2, fun taken => ?_⟩
  rw [(exec_slot (agreed.slot slot) slot taken).1]
  exact agrees

theorem Agreed.aside {α : Type} {work : Work α} (aside : Aside Enforcement.lockdown work)
    (agreed : Agreed helper) (slot : helper.sess = some id) :
    Agreed ((Work.on work id).exec answers helper).1 := by
  obtain ⟨-, -, same⟩ := aside_exec aside (agreed.slot slot) answers
  obtain ⟨armed, locked⟩ := Prod.mk.inj same
  exact agreed.exec slot (armed.trans ((agreed.agrees slot).trans locked.symm))

variable {req : Request} {exchange : Exchange}

theorem agreed_handled {conn : ConnId} {uid : UInt32} (agreed : Agreed helper)
    (slot : helper.sess = some id) (obeys : TableObeys helper (.request conn uid req exchange))
    (fine : ((Work.on (handle req) id).exec exchange.answers helper).2 ≠ .panic) :
    Agreed ((Work.on (handle req) id).exec exchange.answers helper).1 := by
  have bound := agreed.slot slot
  have agrees := agreed.agrees slot
  by_cases other : (Verb.parse req.verb).any Verb.enforces = false
  · exact agreed.aside (aside_handle other) slot
  · rw [Bool.not_eq_false, Option.any_eq_true] at other
    obtain ⟨verb, named, enforces⟩ := other
    simp only [TableObeys, named] at obeys
    simp only [handle, named] at fine ⊢
    cases verb with
    | disablePhysicalIPv6 => exact agreed.aside (spares_handleDisableIPv6 lockdown_blind) slot
    | enablePhysicalIPv6 => exact agreed.aside (spares_handleEnableIPv6 lockdown_blind) slot
    | enableKillSwitch =>
      exact agreed.exec slot (agrees_handleEnableKillSwitch bound agrees req obeys.1 obeys.2 fine)
    | disableKillSwitch =>
      exact agreed.exec slot (agrees_handleDisableKillSwitch bound agrees obeys)
    | recoverKillSwitch =>
      rw [exec_handleRecoverKillSwitch slot fun stands => agrees.trans stands]
      exact agreed
    | _ => cases enforces

theorem agreed_of_empty (empty : helper.sess = none) : Agreed helper where
  slot taken := by rw [empty] at taken; cases taken
  agrees taken := by rw [empty] at taken; cases taken

variable {settings : String → String}

theorem agreed_initial (valid : (clients settings).initial helper) :
    Agreed helper := agreed_of_empty valid.2.1

theorem agreed_opened {cleared : Helper} {conn : ConnId} {uid : UInt32} (empty : helper.sess = none)
    (verb : Verb.parse req.verb = some .open) (reaped : Reaped helper cleared exchange.answers)
    (obeys : TableObeys helper (.request conn uid req exchange)) :
    Agreed (install conn uid cleared exchange.mint).1 := by
  simp only [TableObeys, verb] at obeys
  have lifted : cleared.kernel.table.isSome = false := by
    apply reaped.lifted
    cases present : helper.kernel.table.isSome with
    | false => exact .inl rfl
    | true => exact .inr (obeys empty present)
  rcases install_cases conn uid cleared exchange.mint with same | ⟨sess, length, seen⟩
  · rw [same]
    exact agreed_of_empty (reaped.sess.trans empty)
  · refine ⟨fun taken => ?_, fun taken => ?_⟩
    · rw [sess] at taken
      cases taken
      rw [length]
      exact Nat.lt_succ_self _
    · rw [sess] at taken
      cases taken
      rw [seen, lifted]

/-- Every request keeps the record true. -/
theorem agreed_step {next : Helper} {label : ClientLabel} (agreed : Agreed helper)
    (obeys : TableObeys helper label)
    (moves : (clients settings).step helper label = some next) : Agreed next := by
  cases served_of_step moves with
  | answered | idle => exact agreed
  | opened empty verb reaped => exact agreed_opened empty verb reaped obeys
  | handled slot authorised fine => exact agreed_handled agreed slot obeys fine
  | closed slot =>
    refine agreed_of_empty ((exec_frame closeSession ?_ _).1.trans rfl)
    exact agreed.slot slot
  | gone slot =>
    refine agreed_of_empty ((exec_frame teardown ?_ _).1.trans rfl)
    exact agreed.slot slot

theorem aside_teardown : Aside Enforcement.lockdown teardown := by
  refine .bind aside_releaseDNS fun _ => ?_
  refine .bind aside_revokeServedEgress fun _ => ?_
  refine .bind (spares_bareRead _) fun armed => ?_
  split
  · exact spares_pure _
  · refine .bind aside_reapRoutes fun _ => ?_
    exact .bind (spares_bareRead _) fun captured => spares_restoreIPv6 lockdown_blind _ _

/-- While the operations on the table that nobody looks at succeed, the open session is recorded as
armed exactly when the table exists, and the loss of the client leaves a lockdown exactly then. -/
theorem armed_iff_locked {settings : String → String} {labels : List ClientLabel} {helper : Helper}
    (runs : (clients settings).Runs TableObeys labels helper) {id : SessionId}
    (slot : helper.sess = some id) :
    (helper.session id).killSwitchArmed = helper.kernel.table.isSome ∧
      ∀ answers, (leave answers helper).kernel.table.isSome =
        (helper.session id).killSwitchArmed := by
  have agreed : Agreed helper := runs.invariant agreed_initial agreed_step
  have agrees : (helper.session id).killSwitchArmed = helper.kernel.table.isSome :=
    agreed.agrees slot
  refine ⟨agrees, fun answers => ?_⟩
  have bound : id < { helper with sess := none }.sessions.length := agreed.slot slot
  obtain ⟨-, -, same⟩ := aside_exec aside_teardown bound answers
  rw [agrees]
  simp only [leave, slot]
  exact congrArg Prod.snd same

/-- What a look at the helper shows: session, record and table. -/
def Helper.lockdown (helper : Helper) : Option SessionId × Bool × Bool :=
  (helper.sess, (helper.session 0).killSwitchArmed, helper.kernel.table.isSome)

/-- A client that arms without a failure is recorded as armed. -/
theorem smooth_arming_agrees :
    ∃ helper, (clients fun _ => "0\n").Runs TableObeys
        [sends .open smooth, sends .createTUN smooth, sends .enableKillSwitch smooth] helper ∧
      helper.lockdown = (some 0, true, true) ∧
      (helper.session 0).killSwitchArmed = helper.kernel.table.isSome := by
  obtain ⟨helper, runs, shows⟩ : ∃ helper, (clients fun _ => "0\n").Runs TableObeys
      [sends .open smooth, sends .createTUN smooth, sends .enableKillSwitch smooth] helper ∧
      helper.lockdown = (some 0, true, true) := by
    refine Machine.exists_runs initial_clients ?_ (by decide)
    exact ⟨fun _ _ => ⟨rfl, rfl, rfl⟩, trivial,
      ⟨fun _ _ => rfl, fun _ failed => absurd rfl failed⟩, trivial⟩
  exact ⟨helper, runs, shows, (armed_iff_locked runs (congrArg Prod.fst shows)).1⟩

/-- The disarm opens its socket and fails to delete the table. -/
def busyTable : Exchange where
  answers index := if index = 1 then { error := some "device or resource busy" } else {}
  mint := {}

/-- A disarm whose deletion fails leaves the table, and a session not armed. -/
theorem failed_disarm_disagrees :
    ∃ labels helper, (clients fun _ => "0\n").Runs Machine.free labels helper ∧
      helper.lockdown = (some 0, false, true) := by
  refine ⟨[sends .open smooth, sends .createTUN smooth, sends .enableKillSwitch smooth,
    sends .disableKillSwitch busyTable], ?_⟩
  exact Machine.exists_runs initial_clients (Machine.meets_free _ _) (by decide)

end Bacchus.Netd
