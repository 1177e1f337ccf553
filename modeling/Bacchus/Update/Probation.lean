import Bacchus.Update.Demotion
import Bacchus.Update.Updater

/-!
# The probation of an applied release

What follows one successful `Apply`: starts, and confirmations by the process that applied and by
the release. The first start claims the marker, and `Confirm` clears a claimed marker for whoever
calls it.
-/

namespace Bacchus.Update

/-- The process that calls `Confirm`. -/
inductive Confirmer where
  /-- The process that called `Apply`. It still runs the replaced binary. -/
  | applier
  /-- The process of the last start. -/
  | release

inductive ProbationLabel where
  | start (io : StartupIo)
  | confirm (caller : Confirmer) (read remove : Io)

structure Probation where
  disk : Disk
  /-- What the target held before the `Apply`. -/
  replaced : Bytes
  starts : Nat := 0
  /-- The release has called `Confirm` between its first start and the next one. -/
  confirmed : Bool := false

/-- The disk a successful `Apply` leaves at a target with `replaced` and no marker. -/
def Applied (digest : Bytes → Bytes) (path : String) (replaced : Bytes) (disk : Disk) : Prop :=
  ∃ (artifact : Artifact) (release : String) (before : Disk) (answers : Nat → Io),
    before.marker = none ∧ before.target = some replaced ∧
    Apply.run digest path applyOperations { artifact, release } before answers =
      (disk, .returned none)

/-- Starts and confirmations after one `Apply`; before the first start nothing could confirm. -/
def probation (digest : Bytes → Bytes) (path : String) : Machine Probation ProbationLabel where
  initial state :=
    Applied digest path state.replaced state.disk ∧ state.starts = 0 ∧ state.confirmed = false
  step state
    | .start io =>
      some { state with disk := (checkStartup state.disk io).1, starts := state.starts + 1 }
    | .confirm .applier read remove => some { state with disk := confirm state.disk read remove }
    | .confirm .release read remove =>
      if state.starts = 0 then none
      else some { state with
        disk := confirm state.disk read remove
        confirmed := state.confirmed || state.starts = 1 }

/-- The release has started once and not confirmed. -/
def Probation.onTrial (state : Probation) : Prop := state.starts = 1 ∧ state.confirmed = false

/-- The file operations the probation rests on succeed, and the process that applied does not clear
the marker during the trial. -/
def orderly (state : Probation) : ProbationLabel → Prop
  | .start io =>
    (state.starts = 0 → io.read = .ok ∧ io.stat = .ok ∧ io.claim ≠ .failed) ∧
      (state.onTrial → io.read = .ok ∧ io.stat = .ok ∧ io.demote = .ok ∧ io.clear = .ok)
  | .confirm .applier read remove => state.onTrial → read ≠ .ok ∨ remove ≠ .ok
  | .confirm .release read remove => state.onTrial → read = .ok ∧ remove = .ok

section

variable {digest : Bytes → Bytes} {path : String} {replaced : Bytes}

/-- An unclaimed marker lies beside the binary the apply has replaced. -/
def Unclaimed (replaced : Bytes) (disk : Disk) : Prop :=
  ∃ marker, disk.marker = some (.record marker) ∧ marker.started = false ∧
    disk.previous = some replaced

/-- What an `Apply` of a target with `replaced` has established at each point from which it can
succeed. -/
def Landing (replaced : Bytes) (disk : Disk) : ApplyPoint → Prop
  | .verify | .mark => disk.target = some replaced
  | .stat | .moveAside =>
    disk.target = some replaced ∧
      ∃ marker, disk.marker = some (.record marker) ∧ marker.started = false
  | .publish movedAside => movedAside ∧ Unclaimed replaced disk
  | .sync | .returned none => Unclaimed replaced disk
  | .restore | .unmark _ | .returned (some _) => True

theorem Landing.step {apply : Apply} {disk : Disk} (landing : Landing replaced disk apply.point)
    (io : Io) :
    Landing replaced (apply.step digest path disk io).1 (apply.step digest path disk io).2 := by
  obtain ⟨_, _, point⟩ := apply
  cases point with
  | verify =>
    simp only [Apply.step]
    split
    · split
      · exact landing
      · trivial
    · trivial
  | mark =>
    cases io with
    | ok => exact ⟨landing, _, rfl, rfl⟩
    | unsynced | failed => trivial
  | stat =>
    obtain ⟨target, marked⟩ := landing
    simp only [Apply.step, target]
    cases io with
    | ok => exact ⟨target, marked⟩
    | unsynced | failed => trivial
  | moveAside =>
    obtain ⟨target, marker, marked, fresh⟩ := landing
    simp only [Apply.step, target]
    cases io with
    | ok => exact ⟨rfl, marker, marked, fresh, rfl⟩
    | unsynced | failed => trivial
  | publish =>
    obtain ⟨moved, unclaimed⟩ := landing
    simp only [Apply.step, moved]
    split
    · exact unclaimed
    · trivial
  | restore =>
    simp only [Apply.step]
    split <;> trivial
  | unmark => trivial
  | sync | returned => exact landing

theorem Landing.run {apply : Apply} {disk : Disk} (landing : Landing replaced disk apply.point)
    (count : Nat) (answers : Nat → Io) :
    Landing replaced (apply.run digest path count disk answers).1
      (apply.run digest path count disk answers).2 := by
  induction count generalizing apply disk answers with
  | zero => exact landing
  | succ count ih => exact ih (landing.step (answers 0)) fun index => answers (index + 1)

theorem Applied.unclaimed {disk : Disk} (applied : Applied digest path replaced disk) :
    Unclaimed replaced disk := by
  obtain ⟨artifact, release, before, answers, _, target, returned⟩ := applied
  have landed : Landing replaced before ApplyPoint.verify := target
  have final := @Landing.run digest path replaced { artifact, release } before landed
    applyOperations answers
  rw [returned] at final
  exact final

end

/-- A start has claimed the marker beside the binary the apply has replaced. -/
def Claimed (replaced : Bytes) (disk : Disk) : Prop :=
  ∃ marker, disk.marker = some (.record marker) ∧ marker.started ∧
    disk.previous = some replaced

/-- The stages of the probation: before the first start, on trial, and over. -/
inductive Stage (state : Probation) : Prop where
  | waiting (unstarted : state.starts = 0) (unconfirmed : state.confirmed = false)
      (unclaimed : Unclaimed state.replaced state.disk)
  | trial (trying : state.onTrial) (claimed : Claimed state.replaced state.disk)
  | settled (started : state.starts ≠ 0) (ended : ¬ state.onTrial)
      (cleared : state.disk.marker = none)

section

variable {replaced : Bytes} {disk : Disk}

/-- An unclaimed marker is left alone by every `Confirm`. -/
theorem Unclaimed.confirm_eq (unclaimed : Unclaimed replaced disk) (read remove : Io) :
    confirm disk read remove = disk := by
  obtain ⟨_, marked, fresh, _⟩ := unclaimed
  unfold confirm
  rw [marked]
  cases read <;> simp [readMarker, fresh]

variable {io : StartupIo}

theorem Unclaimed.start (unclaimed : Unclaimed replaced disk) (read : io.read = .ok)
    (stat : io.stat = .ok) (claim : io.claim ≠ .failed) :
    Claimed replaced (checkStartup disk io).1 := by
  obtain ⟨marker, marked, fresh, kept⟩ := unclaimed
  refine ⟨{ marker with started := true }, ?_, rfl, ?_⟩ <;>
    simp [checkStartup, read, marked, readMarker, kept, stat, fresh, claim]

/-- The next start puts the replaced binary back and clears the marker. -/
theorem Claimed.start (claimed : Claimed replaced disk) (read : io.read = .ok)
    (stat : io.stat = .ok) (demote : io.demote = .ok) (clear : io.clear = .ok) :
    (checkStartup disk io).2.demotes ∧ (checkStartup disk io).1.target = some replaced ∧
      (checkStartup disk io).1.marker = none := by
  obtain ⟨marker, marked, started, kept⟩ := claimed
  simp [checkStartup, read, marked, readMarker, kept, stat, started, demote, clear, clearMarker,
    Startup.demotes]

/-- A claimed marker is cleared exactly by a `Confirm` whose file operations succeed. -/
theorem Claimed.confirm_eq (claimed : Claimed replaced disk) (read remove : Io) :
    confirm disk read remove =
      if read = .ok ∧ remove = .ok then { disk with marker := none } else disk := by
  obtain ⟨marker, marked, started, _⟩ := claimed
  unfold confirm
  rw [marked]
  cases read <;> simp [readMarker, started]

theorem checkStartup_unmarked (cleared : disk.marker = none) (io : StartupIo) :
    (checkStartup disk io).1 = disk ∧ (checkStartup disk io).2.demotes = false := by
  unfold checkStartup
  rw [cleared]
  cases io.read <;> exact ⟨rfl, rfl⟩

theorem confirm_unmarked (cleared : disk.marker = none) (read remove : Io) :
    confirm disk read remove = disk := by
  unfold confirm
  rw [cleared]
  cases read <;> rfl

variable {digest : Bytes → Bytes} {path : String} {state next : Probation}

theorem Stage.start (stage : Stage state) (met : orderly state (.start io)) :
    Stage { state with disk := (checkStartup state.disk io).1, starts := state.starts + 1 } := by
  cases stage with
  | waiting unstarted unconfirmed unclaimed =>
    obtain ⟨read, stat, claim⟩ := met.1 unstarted
    exact .trial ⟨by simp [unstarted], unconfirmed⟩ (unclaimed.start read stat claim)
  | trial trying claimed =>
    obtain ⟨read, stat, demote, clear⟩ := met.2 trying
    refine .settled (Nat.succ_ne_zero _) ?_ (claimed.start read stat demote clear).2.2
    rintro ⟨once, _⟩
    have first := trying.1
    simp only at once
    omega
  | settled started ended cleared =>
    refine .settled (Nat.succ_ne_zero _) ?_ ?_
    · rintro ⟨once, _⟩
      simp only at once
      omega
    · rw [(checkStartup_unmarked cleared io).1]
      exact cleared

/-- Every step keeps the trial's stage. -/
theorem Stage.step {label : ProbationLabel} (stage : Stage state) (met : orderly state label)
    (moves : (probation digest path).step state label = some next) : Stage next := by
  cases label with
  | start =>
    cases moves
    exact stage.start met
  | confirm caller read remove =>
    cases caller with
    | applier =>
      cases moves
      cases stage with
      | waiting unstarted unconfirmed unclaimed =>
        rw [unclaimed.confirm_eq]
        exact .waiting unstarted unconfirmed unclaimed
      | trial trying claimed =>
        have kept : ¬ (read = .ok ∧ remove = .ok) := not_and_or.mpr (met trying)
        rw [claimed.confirm_eq, if_neg kept]
        exact .trial trying claimed
      | settled started ended cleared =>
        rw [confirm_unmarked cleared]
        exact .settled started ended cleared
    | release =>
      simp only [probation] at moves
      split_ifs at moves with unstarted
      cases moves
      cases stage with
      | waiting none => exact absurd none unstarted
      | trial trying claimed =>
        refine .settled unstarted (fun still => ?_) ?_
        · simp [Probation.onTrial, trying.1] at still
        · rw [claimed.confirm_eq, if_pos (met trying)]
      | settled started ended cleared =>
        refine .settled started (fun still => ended ⟨still.1, ?_⟩) ?_
        · exact (Bool.or_eq_false_iff.mp still.2).1
        · rw [confirm_unmarked cleared]
          exact cleared

theorem stage_of_runs {labels : List ProbationLabel}
    (runs : (probation digest path).Runs orderly labels state) : Stage state := by
  refine runs.invariant ?_ fun stage met moves => stage.step met moves
  rintro start ⟨applied, unstarted, unconfirmed⟩
  exact .waiting unstarted unconfirmed applied.unclaimed

/-- In an orderly probation no confirmation before the first start clears the marker, a release that
has confirmed is never demoted, and one that has not is replaced on its second start by the bytes
from before the apply. -/
theorem probation_decides {labels : List ProbationLabel}
    (runs : (probation digest path).Runs orderly labels state) :
    (state.starts = 0 → ∀ read remove, (confirm state.disk read remove).marker.isSome = true) ∧
      (state.confirmed = true → ∀ io, (checkStartup state.disk io).2.demotes = false) ∧
      (state.onTrial → ∀ io, orderly state (.start io) →
        (checkStartup state.disk io).2.demotes = true ∧
          (checkStartup state.disk io).1.target = some state.replaced ∧
          (checkStartup state.disk io).1.marker = none) := by
  cases stage_of_runs runs with
  | waiting unstarted unconfirmed unclaimed =>
    refine ⟨fun _ read remove => ?_, fun confirmed => ?_, fun trying => ?_⟩
    · rw [unclaimed.confirm_eq]
      obtain ⟨marker, marked, _⟩ := unclaimed
      rw [marked]
      rfl
    · rw [unconfirmed] at confirmed
      cases confirmed
    · exact absurd (unstarted.symm.trans trying.1) (by decide)
  | trial trying claimed =>
    refine ⟨fun unstarted => ?_, fun confirmed => ?_, fun _ io met => ?_⟩
    · exact absurd (unstarted.symm.trans trying.1) (by decide)
    · exact absurd (confirmed.symm.trans trying.2) (by decide)
    · obtain ⟨read, stat, demote, clear⟩ := met.2 trying
      exact claimed.start read stat demote clear
  | settled started ended cleared =>
    refine ⟨fun unstarted => absurd unstarted started, fun _ io => ?_,
      fun trying => absurd trying ended⟩
    exact (checkStartup_unmarked cleared io).2

end

/-- The files before the apply: one release at the target, the next one staged. -/
def awaitingApply (digest : Bytes → Bytes) : Disk where
  target := some [1]
  staged := Function.update (fun _ => none) (nodeRow digest [2]).name (some [2])

/-- The apply of the staged release has returned. -/
def applied (digest : Bytes → Bytes) (path : String) : Probation where
  disk :=
    { target := some [2]
      previous := some [1]
      marker := some (.record
        (Apply.marker { artifact := nodeRow digest [2], release := "1.1.0" } path))
      staged := Function.update (awaitingApply digest).staged (nodeRow digest [2]).name none }
  replaced := [1]

theorem initial_applied (digest : Bytes → Bytes) (path : String) :
    (probation digest path).initial (applied digest path) := by
  refine ⟨⟨nodeRow digest [2], "1.1.0", awaitingApply digest, fun _ => .ok, rfl, rfl, ?_⟩, rfl, rfl⟩
  simp only [applyOperations, Apply.run, Apply.step, awaitingApply, Function.update_self,
    verifyArtifact_nodeRow]
  rfl

/-- The process that applied confirms too early to matter, and the release starts. -/
def crashing : List ProbationLabel := [.confirm .applier .ok .ok, .start {}]

/-- The release confirms its first start. -/
def healthy : List ProbationLabel := [.start {}, .confirm .release .ok .ok]

/-- A digest of 32 bytes that tells short contents apart. -/
def paddedDigest (content : Bytes) : Bytes := (content ++ List.replicate 32 0).take 32

/-- The release that does not confirm is replaced on its second start; the other is not. -/
theorem crashing_and_healthy_decided :
    (∃ state, (probation paddedDigest "/opt/node").Runs orderly crashing state ∧ state.onTrial ∧
      (checkStartup state.disk {}).2.demotes = true ∧
      (checkStartup state.disk {}).1.target = some [1] ∧
      (checkStartup state.disk {}).1.marker = none) ∧
    ∃ state, (probation paddedDigest "/opt/node").Runs orderly healthy state ∧
      state.confirmed = true ∧ ∀ io, (checkStartup state.disk io).2.demotes = false := by
  constructor
  · have runs : (probation paddedDigest "/opt/node").Runs orderly crashing _ :=
      .ofFollow (initial_applied paddedDigest "/opt/node") rfl (by
        simp [crashing, Machine.Meets, probation, orderly, applied, Probation.onTrial])
    exact ⟨_, runs, ⟨rfl, rfl⟩, (probation_decides runs).2.2 ⟨rfl, rfl⟩ {} (by simp [orderly])⟩
  · have runs : (probation paddedDigest "/opt/node").Runs orderly healthy _ :=
      .ofFollow (initial_applied paddedDigest "/opt/node") rfl (by
        simp [healthy, Machine.Meets, probation, orderly, applied, Probation.onTrial])
    exact ⟨_, runs, rfl, (probation_decides runs).2.1 rfl⟩

/-- The release starts, and the process that applied it confirms. -/
def mistaken : List ProbationLabel := [.start {}, .confirm .applier .ok .ok]

/-- A release that never confirms is kept on its second start if the process that applied it
confirmed after the first. -/
theorem applier_confirms_unproven :
    ∃ state, (probation paddedDigest "/opt/node").Runs Machine.free mistaken state ∧
      state.onTrial ∧ state.replaced = [1] ∧ (checkStartup state.disk {}).2 = .go ∧
      (checkStartup state.disk {}).1.target = some [2] := by
  refine ⟨_, .ofFollow (initial_applied paddedDigest "/opt/node") rfl (Machine.meets_free _ _),
    ⟨rfl, rfl⟩, rfl, ?_⟩
  exact ⟨rfl, rfl⟩

end Bacchus.Update
