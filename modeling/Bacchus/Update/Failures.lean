import Bacchus.Update.Floor
import Bacchus.Update.Operations
import Bacchus.Update.Window

/-!
# A check that fails

The failure of some operations of `Check` is only logged. Any other ends the call with an error
and with the target as it was, unless the rename that restores it fails as well.
-/

namespace Bacchus.Update

/-- A failure here is only logged, or ignored. -/
def CheckPoint.tolerated : CheckPoint → Bool
  | .load _ | .raiseFloor _ _ _ | .reverify _ | .stage _ .flush | .apply _ _ .sync
  | .clearPending _ => true
  | _ => false

/-- The operation removes a file. -/
def CheckPoint.removes : CheckPoint → Bool
  | .stage _ (.remove _) | .apply _ _ (.unmark _) => true
  | _ => false

/-- The rename that puts the previous binary back. -/
def CheckPoint.restores : CheckPoint → Bool
  | .apply _ _ .restore => true
  | _ => false

/-- The call is going to return an error. -/
def CheckPoint.failed : CheckPoint → Bool
  | .stage _ (.remove (some _)) | .stage _ (.returned (some _)) => true
  | .apply _ _ .restore | .apply _ _ (.unmark _) | .apply _ _ (.returned (some _)) => true
  | .returned (some _) => true
  | _ => false

section

variable {cfg : Config} {trust : Trust} {offer : Offer} {tail : StageTail} {checking : Checking}

/-- A call that fails stays failed. -/
theorem failed_step (failed : checking.point.failed) :
    (checking.step cfg trust offer tail).point.failed := by
  obtain ⟨point, _, _, _⟩ := checking
  cases point with
  | stage job point =>
    cases point with
    | remove error | returned error =>
      rcases error with _ | error
      · cases failed
      · rfl
    | _ => cases failed
  | apply job index point =>
    cases point with
    | restore =>
      simp only [Checking.step, Apply.step, Job.apply]
      split <;> rfl
    | unmark => rfl
    | returned error =>
      rcases error with _ | error
      · cases failed
      · rfl
    | _ => cases failed
  | returned => exact failed
  | _ => cases failed

variable {temporary : Option Bytes} {outcome : Outcome}

theorem failed_of_stage_fails {job : Job} {point : StagePoint} {files : Files}
    (fails : point.fails trust.digest offer.serve job.artifact offer.io.stage tail
      ⟨files.disk, temporary⟩) (reported : (CheckPoint.stage job point).tolerated = false)
    (kept : (CheckPoint.stage job point).removes = false) :
    (Checking.step cfg trust offer tail
      ⟨.stage job point, files, temporary, outcome⟩).point.failed := by
  cases point with
  | create | copy | closeSource | size | chmod | sync | close | name =>
    simp only [StagePoint.fails, ne_eq, decide_eq_true_eq] at fails
    simp only [Checking.step, StagePoint.step, if_neg fails, CheckPoint.failed]
  | fetch =>
    simp only [StagePoint.fails, Option.isNone_iff_eq_none] at fails
    simp only [Checking.step, StagePoint.step, fails, CheckPoint.failed]
  | verify =>
    by_cases reopen : offer.io.stage.reopen = .ok
    · cases verified : verifyArtifact trust.digest job.artifact (temporary.getD []) with
      | ok => simp [StagePoint.fails, reopen, verified, Except.toBool] at fails
      | error =>
        simp only [Checking.step, StagePoint.step, if_pos reopen, verified, CheckPoint.failed]
    · simp only [Checking.step, StagePoint.step, if_neg reopen, CheckPoint.failed]
  | flush => cases reported
  | remove => cases kept
  | returned => cases fails

theorem failed_of_apply_fails {job : Job} {point : ApplyPoint} {index : Nat} {files : Files}
    (fails : (job.apply point).fails trust.digest files.disk (offer.io.apply index))
    (reported : (CheckPoint.apply job index point).tolerated = false)
    (kept : (CheckPoint.apply job index point).removes = false) :
    (Checking.step cfg trust offer tail
      ⟨.apply job index point, files, temporary, outcome⟩).point.failed := by
  cases point with
  | verify =>
    cases staged : files.disk.staged job.artifact.name with
    | none => simp only [Checking.step, Apply.step, Job.apply, staged, CheckPoint.failed]
    | some content =>
      cases answer : offer.io.apply index with
      | failed | unsynced =>
        simp only [Checking.step, Apply.step, Job.apply, staged, answer, CheckPoint.failed]
      | ok =>
        cases verified : verifyArtifact trust.digest job.artifact content with
        | ok => simp [Apply.fails, Job.apply, staged, answer, verified, Except.toBool] at fails
        | error =>
          simp only [Checking.step, Apply.step, Job.apply, staged, answer, verified,
            CheckPoint.failed]
  | mark | stat =>
    cases answer : offer.io.apply index with
    | ok => simp [Apply.fails, Job.apply, answer] at fails
    | failed | unsynced =>
      simp only [Checking.step, Apply.step, Job.apply, answer, CheckPoint.failed]
  | moveAside =>
    simp only [Checking.step, Apply.step, Job.apply]
    split
    · next answer target => simp [Apply.fails, Job.apply, answer, target] at fails
    · rfl
  | publish moved =>
    simp only [Checking.step, Apply.step, Job.apply]
    split
    · next answer staged => simp [Apply.fails, Job.apply, answer, staged] at fails
    · cases moved <;> rfl
  | restore =>
    simp only [Checking.step, Apply.step, Job.apply]
    split <;> rfl
  | unmark => cases kept
  | sync => cases reported
  | returned => cases fails

/-- An operation whose failure is not tolerated makes the call fail. -/
theorem failed_of_fails (fails : checking.fails cfg trust offer tail)
    (reported : checking.point.tolerated = false) (kept : checking.point.removes = false) :
    (checking.step cfg trust offer tail).point.failed := by
  obtain ⟨point, _, _, _⟩ := checking
  cases point with
  | self =>
    simp only [Checking.fails] at fails
    cases current : cfg.self with
    | ok =>
      rw [current] at fails
      cases fails
    | error => simp only [Checking.step, current, CheckPoint.failed]
  | gate | returned => cases fails
  | load | raiseFloor | reverify | clearPending => cases reported
  | fetchManifest =>
    simp only [Checking.fails, Option.isNone_iff_eq_none] at fails
    simp only [Checking.step, fails, CheckPoint.failed]
  | verify self minSeq pending raw =>
    simp only [Checking.fails] at fails
    cases verified : (parseBundle trust raw).bind fun bundle =>
        verify trust bundle offer.now minSeq with
    | ok =>
      rw [verified] at fails
      cases fails
    | error => simp only [Checking.step, verified, CheckPoint.failed]
  | release self pending manifest =>
    simp only [Checking.fails] at fails
    cases parsed : Version.parse manifest.release with
    | ok =>
      rw [parsed] at fails
      cases fails
    | error => simp only [Checking.step, parsed, CheckPoint.failed]
  | stage => exact failed_of_stage_fails fails reported kept
  | setPending =>
    simp only [Checking.fails, Bool.not_eq_true'] at fails
    simp only [Checking.step, fails, Bool.not_false, if_true, CheckPoint.failed]
  | apply => exact failed_of_apply_fails fails reported kept

theorem run_succ (count : Nat) :
    checking.run cfg trust offer tail (count + 1) =
      (checking.run cfg trust offer tail count).step cfg trust offer tail :=
  (run_add checking count 1).symm

theorem failed_run (count : Nat) (failed : checking.point.failed) :
    (checking.run cfg trust offer tail count).point.failed := by
  induction count generalizing checking with
  | zero => exact failed
  | succ count ih => exact ih (failed_step failed)

theorem run_returned (count : Nat) {error : Option CheckError}
    (returned : checking.point = .returned error) :
    checking.run cfg trust offer tail count = checking := by
  induction count with
  | zero => rfl
  | succ count ih =>
    rw [run_succ, ih]
    simp only [Checking.step, returned]

end

/-- The target and the marker are as they were. -/
structure Disk.Kept (before disk : Disk) : Prop where
  target : disk.target = before.target
  marker : disk.marker = before.marker

/-- The error of an apply that removes its marker. -/
def ApplyError.unmarks : ApplyError → Bool
  | .marker | .stat | .moveAside | .publish => true
  | .reopen | .artifact _ | .publishUnrestored => false

/-- What an apply that returns this error has left. -/
def ApplyError.Leaves (before disk : Disk) : ApplyError → Prop
  | .reopen | .artifact _ => before.Kept disk
  | .publishUnrestored => disk.target = none
  | .marker | .stat | .moveAside | .publish => disk.target = before.target ∧ disk.marker = none

/-- The error of the apply, where that is what failed. -/
def CheckError.failure : CheckError → Option ApplyError
  | .apply (.returned error) => error
  | _ => none

/-- What a check that returns this error has left. -/
def CheckError.Leaves (before disk : Disk) (error : CheckError) : Prop :=
  match error.failure with
  | some failure => failure.Leaves before disk
  | none => before.Kept disk

/-- The target holds a file that matches the row. -/
def Disk.Published (digest : Bytes → Bytes) (artifact : Artifact) (disk : Disk) : Prop :=
  ∃ content, disk.target = some content ∧ artifact.Matches digest content

/-- Where the files are at each point of an apply. -/
def Settled (digest : Bytes → Bytes) (before : Disk) (apply : Apply) (disk : Disk) : Prop :=
  match apply.point with
  | .verify => before.Kept disk
  | .mark => before.Kept disk ∧ apply.verifies digest disk
  | .stat => disk.target = before.target ∧ apply.verifies digest disk
  | .moveAside =>
    disk.target = before.target ∧ before.target.isSome ∧ apply.verifies digest disk
  | .publish moved =>
    disk.target = none ∧ apply.verifies digest disk ∧
      if moved then disk.previous = before.target ∧ before.target.isSome
      else before.target = none
  | .restore => disk.target = none ∧ disk.previous = before.target ∧ before.target.isSome
  | .unmark error => disk.target = before.target ∧ error.unmarks
  | .sync | .returned none => disk.Published digest apply.artifact
  | .returned (some error) => error.Leaves before disk

section

variable {digest : Bytes → Bytes} {path : String} {before : Disk} {apply : Apply} {disk : Disk}

theorem Settled.step (settled : Settled digest before apply disk) {io : Io}
    (removed : ∀ error, apply.point = .unmark error → io = .ok) :
    Settled digest before { apply with point := (apply.step digest path disk io).2 }
      (apply.step digest path disk io).1 := by
  obtain ⟨artifact, _, point⟩ := apply
  cases point with
  | verify =>
    simp only [Apply.step]
    split
    · next content staged =>
      split
      · next verified => exact ⟨settled, by simp [Apply.verifies, staged, verified]⟩
      · exact settled
    · exact settled
  | mark =>
    obtain ⟨kept, verified⟩ := settled
    cases io with
    | ok => exact ⟨kept.target, verified⟩
    | unsynced | failed => exact ⟨kept.target, rfl⟩
  | stat =>
    obtain ⟨target, verified⟩ := settled
    cases io with
    | ok =>
      cases found : disk.target with
      | none =>
        simp only [Apply.step, found]
        exact ⟨found, verified, target.symm.trans found⟩
      | some =>
        simp only [Apply.step, found]
        exact ⟨target, by rw [← target, found]; rfl, verified⟩
    | unsynced | failed => exact ⟨target, rfl⟩
  | moveAside =>
    obtain ⟨target, existed, verified⟩ := settled
    simp only [Apply.step]
    split
    · next binary found => exact ⟨rfl, verified, by rw [← target, found]; exact ⟨rfl, rfl⟩⟩
    · exact ⟨target, rfl⟩
  | publish moved =>
    obtain ⟨target, verified, aside⟩ := settled
    simp only [Apply.step]
    split
    · next content staged =>
      obtain ⟨_, found, matching⟩ := (Option.any_eq_true _ _).mp verified
      rw [staged] at found
      cases found
      exact ⟨content, rfl, matches_of_verifyArtifact (of_decide_eq_true matching)⟩
    · cases moved with
      | true => exact ⟨target, aside⟩
      | false => exact ⟨target.trans (show before.target = none from aside).symm, rfl⟩
  | restore =>
    obtain ⟨target, prev, existed⟩ := settled
    simp only [Apply.step]
    split
    · next binary found => exact ⟨found.symm.trans prev, rfl⟩
    · exact target
  | unmark error =>
    obtain ⟨target, unmarks⟩ := settled
    simp only [Apply.step, if_pos (removed error rfl)]
    cases error with
    | reopen | artifact | publishUnrestored => cases unmarks
    | _ => exact ⟨target, rfl⟩
  | sync | returned => exact settled

end

section

variable (cfg : Config) (trust : Trust) (offer : Offer) (before : Files)

/-- The job is the row for this build of the accepted manifest. -/
structure Job.Vouched (job : Job) : Prop where
  accepted : accepts cfg trust before offer = some job.manifest
  row : job.manifest.find cfg.os cfg.arch cfg.role = some job.artifact

/-- At these points of `Stage` there is no temporary. -/
def StagePoint.clean : StagePoint → Bool
  | .create | .flush | .remove none | .returned _ => true
  | _ => false

/-- What the call has learnt and what the files hold at each point. -/
def Checking.Faithful (checking : Checking) : Prop :=
  let disk := checking.files.disk
  let untouched := checking.files = before ∧ checking.temporary = none
  let unmoved := disk = before.disk ∧ checking.temporary = none
  match checking.point with
  | .self => untouched
  | .gate self => untouched ∧ cfg.self = .ok self
  | .load self => untouched ∧ cfg.self = .ok self ∧ offer.gated = false
  | .fetchManifest self minSeq _ =>
    untouched ∧ cfg.self = .ok self ∧ offer.gated = false ∧
      minSeq = (before.state.read offer.io.load).1.minSeq
  | .verify self minSeq _ raw =>
    untouched ∧ cfg.self = .ok self ∧ offer.gated = false ∧
      minSeq = (before.state.read offer.io.load).1.minSeq ∧ offer.manifest = some raw
  | .raiseFloor _ _ manifest | .release _ _ manifest =>
    unmoved ∧ accepts cfg trust before offer = some manifest
  | .reverify job => unmoved ∧ job.Vouched cfg trust offer before
  | .stage job point =>
    before.disk.Kept disk ∧ job.Vouched cfg trust offer before ∧
      (point.clean → checking.temporary = none)
  | .setPending job =>
    before.disk.Kept disk ∧ checking.temporary = none ∧ job.Vouched cfg trust offer before
  | .apply job _ point =>
    Settled trust.digest before.disk (job.apply point) disk ∧ checking.temporary = none ∧
      job.Vouched cfg trust offer before
  | .clearPending job =>
    disk.Published trust.digest job.artifact ∧ checking.temporary = none ∧
      job.Vouched cfg trust offer before
  | .returned none =>
    checking.temporary = none ∧ (before.disk.Kept disk ∨
      ∃ job : Job, job.Vouched cfg trust offer before ∧
        disk.Published trust.digest job.artifact)
  | .returned (some error) => checking.temporary = none ∧ error.Leaves before.disk disk

end

section

variable {digest : Bytes → Bytes} {serve : Artifact → Option Bytes} {artifact : Artifact}
  {io : StageIo} {tail : StageTail} {bench : Bench}

theorem kept_stage_step (point : StagePoint) :
    bench.disk.Kept (point.step digest serve artifact io tail bench).1.disk := by
  cases point with
  | create | name =>
    simp only [StagePoint.step]
    split_ifs <;> exact ⟨rfl, rfl⟩
  | fetch =>
    simp only [StagePoint.step]
    split <;> exact ⟨rfl, rfl⟩
  | verify =>
    simp only [StagePoint.step]
    split_ifs
    · split <;> exact ⟨rfl, rfl⟩
    · exact ⟨rfl, rfl⟩
  | _ => exact ⟨rfl, rfl⟩

/-- The temporary is gone wherever it is expected to be. -/
theorem clean_stage_step {point : StagePoint} (gone : point.clean → bench.temporary = none)
    (removed : ∀ error, point = .remove error → tail.remove = .ok)
    (clean : (point.step digest serve artifact io tail bench).2.clean) :
    (point.step digest serve artifact io tail bench).1.temporary = none := by
  cases point with
  | create =>
    simp only [StagePoint.step] at clean ⊢
    split_ifs at clean ⊢ with created
    · cases clean
    · exact gone rfl
  | fetch =>
    simp only [StagePoint.step] at clean
    split at clean <;> cases clean
  | copy | closeSource | size | chmod | sync | close =>
    simp only [StagePoint.step] at clean
    split_ifs at clean <;> cases clean
  | verify =>
    simp only [StagePoint.step] at clean
    split_ifs at clean
    · split at clean <;> cases clean
    · cases clean
  | name =>
    simp only [StagePoint.step] at clean ⊢
    split_ifs at clean ⊢ with named
    · rfl
    · cases clean
  | flush | returned => exact gone rfl
  | remove error => simp only [StagePoint.step, if_pos (removed error rfl)]

end

section

variable {cfg : Config} {trust : Trust} {offer : Offer} {tail : StageTail} {before : Files}
  {checking : Checking}

theorem Disk.Kept.trans {first second third : Disk} (left : first.Kept second)
    (right : second.Kept third) : first.Kept third :=
  ⟨right.target.trans left.target, right.marker.trans left.marker⟩

theorem Disk.kept_of_eq {first second : Disk} (same : second = first) : first.Kept second := by
  subst same
  exact ⟨rfl, rfl⟩

theorem self_error {error : CheckError} (unknown : cfg.self = .error error) :
    error = .currentRelease ∨ error = .unstamped := by
  unfold Config.self at unknown
  split_ifs at unknown with configured
  · cases parsed : Version.parse cfg.currentRelease <;> rw [parsed] at unknown <;> cases unknown
    exact .inl rfl
  · split at unknown <;> cases unknown
    exact .inr rfl

/-- Every operation keeps the files as they should be. -/
theorem Checking.Faithful.step (faithful : checking.Faithful cfg trust offer before)
    (removed : checking.point.removes → checking.fails cfg trust offer tail = false) :
    (checking.step cfg trust offer tail).Faithful cfg trust offer before := by
  obtain ⟨point, files, temporary, _⟩ := checking
  cases point with
  | self =>
    obtain ⟨rfl, rfl⟩ := faithful
    cases current : cfg.self with
    | error =>
      simp only [Checking.step, current]
      rcases self_error current with rfl | rfl <;> exact ⟨rfl, rfl, rfl⟩
    | ok =>
      simp only [Checking.step, current]
      exact ⟨⟨rfl, rfl⟩, current⟩
  | gate =>
    obtain ⟨⟨rfl, rfl⟩, current⟩ := faithful
    simp only [Checking.step]
    split_ifs with gated
    · exact ⟨rfl, .inl ⟨rfl, rfl⟩⟩
    · exact ⟨⟨rfl, rfl⟩, current, eq_false_of_ne_true gated⟩
  | load =>
    obtain ⟨⟨rfl, rfl⟩, current, gated⟩ := faithful
    exact ⟨⟨rfl, rfl⟩, current, gated, rfl⟩
  | fetchManifest =>
    obtain ⟨⟨rfl, rfl⟩, current, gated, floor⟩ := faithful
    cases served : offer.manifest with
    | none =>
      simp only [Checking.step, served]
      exact ⟨rfl, rfl, rfl⟩
    | some =>
      simp only [Checking.step, served]
      exact ⟨⟨rfl, rfl⟩, current, gated, floor, served⟩
  | verify self minSeq pending raw =>
    obtain ⟨⟨rfl, rfl⟩, current, gated, floor, served⟩ := faithful
    cases verified : (parseBundle trust raw).bind fun bundle =>
        Update.verify trust bundle offer.now minSeq with
    | error =>
      simp only [Checking.step, verified]
      exact ⟨rfl, rfl, rfl⟩
    | ok =>
      simp only [Checking.step, verified]
      refine ⟨⟨rfl, rfl⟩, ?_⟩
      rw [floor] at verified
      simp only [accepts, current, gated, served, Option.bind_some, verified]
      rfl
  | raiseFloor | returned => exact faithful
  | release =>
    obtain ⟨⟨same, gone⟩, accepted⟩ := faithful
    simp only [Checking.step]
    split
    · exact ⟨gone, Disk.kept_of_eq same⟩
    · split_ifs
      · exact ⟨gone, .inl (Disk.kept_of_eq same)⟩
      · split
        · exact ⟨gone, .inl (Disk.kept_of_eq same)⟩
        · next found =>
          split_ifs
          · exact ⟨⟨same, gone⟩, accepted, found⟩
          · exact ⟨Disk.kept_of_eq same, ⟨accepted, found⟩, fun _ => gone⟩
  | reverify =>
    obtain ⟨⟨same, gone⟩, vouched⟩ := faithful
    simp only [Checking.step]
    split_ifs
    · exact ⟨gone, .inl (Disk.kept_of_eq same)⟩
    · exact ⟨Disk.kept_of_eq same, gone, vouched⟩
    · exact ⟨Disk.kept_of_eq same, vouched, fun _ => gone⟩
  | stage job point =>
    obtain ⟨kept, vouched, clean⟩ := faithful
    rcases exists_or_forall_not (point = .returned ·) with ⟨error, rfl⟩ | running
    · cases error with
      | none => exact ⟨kept, clean rfl, vouched⟩
      | some => exact ⟨clean rfl, kept⟩
    · rw [step_stage running]
      refine ⟨kept.trans (@kept_stage_step _ _ _ _ _ ⟨files.disk, temporary⟩ point), vouched, ?_⟩
      refine @clean_stage_step _ _ _ _ _ ⟨files.disk, temporary⟩ point clean ?_
      rintro error rfl
      simpa [Checking.fails, StagePoint.fails] using removed rfl
  | setPending job =>
    obtain ⟨kept, gone, vouched⟩ := faithful
    simp only [Checking.step]
    generalize files.state.setPending (job.pending cfg) offer.io.pendingRead
      offer.io.pendingWrite = result
    obtain ⟨state, recorded⟩ := result
    cases recorded with
    | false => exact ⟨gone, kept⟩
    | true =>
      cases defer : cfg.defer with
      | true => exact ⟨gone, .inl kept⟩
      | false => exact ⟨kept, gone, vouched⟩
  | apply job index point =>
    obtain ⟨settled, gone, vouched⟩ := faithful
    rcases exists_or_forall_not (point = .returned ·) with ⟨error, rfl⟩ | running
    · cases error with
      | none => exact ⟨settled, gone, vouched⟩
      | some => exact ⟨gone, settled⟩
    · rw [step_apply running]
      refine ⟨settled.step ?_, gone, vouched⟩
      rintro error unmarks
      cases unmarks
      simpa [Checking.fails, Apply.fails, Job.apply] using removed rfl
  | clearPending job =>
    obtain ⟨published, gone, vouched⟩ := faithful
    exact ⟨gone, .inr ⟨job, vouched, published⟩⟩

end

/-- The error of an apply that has come to write its marker. -/
def ApplyError.marked (error : ApplyError) : Bool := error.unmarks || error = .publishUnrestored

/-- The apply has come to write its marker. -/
def ApplyPoint.marked : ApplyPoint → Bool
  | .verify | .mark => false
  | .returned (some error) => error.marked
  | _ => true

/-- The call may have changed the marker. -/
def CheckPoint.marked : CheckPoint → Bool
  | .apply _ _ point => point.marked
  | .returned (some error) => error.failure.any ApplyError.marked
  | .clearPending _ | .returned none => true
  | _ => false

/-- Publishing failed, and so did putting the previous binary back. -/
def CheckPoint.unrestored : CheckPoint → Bool
  | .apply _ _ (.returned error) => error = some .publishUnrestored
  | .returned (some error) => error.failure = some .publishUnrestored
  | _ => false

section

variable {digest : Bytes → Bytes} {path : String} {before : Disk} {apply : Apply} {disk : Disk}
  {io : Io}

theorem marked_apply_step (settled : Settled digest before apply disk)
    (marked : apply.point.marked) : (apply.step digest path disk io).2.marked := by
  obtain ⟨_, _, point⟩ := apply
  cases point with
  | verify | mark => cases marked
  | stat | moveAside | restore =>
    simp only [Apply.step]
    split <;> rfl
  | publish moved =>
    simp only [Apply.step]
    split
    · rfl
    · cases moved <;> rfl
  | unmark =>
    obtain ⟨_, unmarks⟩ := settled
    simp only [Apply.step, ApplyPoint.marked, ApplyError.marked, unmarks, Bool.true_or]
  | sync => rfl
  | returned => exact marked

/-- Only an apply that has come to write its marker changes it. -/
theorem marker_apply_step (unmarked : (apply.step digest path disk io).2.marked = false)
    (before : apply.point.marked = false) :
    (apply.step digest path disk io).1.marker = disk.marker := by
  obtain ⟨_, _, point⟩ := apply
  cases point with
  | verify =>
    simp only [Apply.step]
    split
    · split <;> rfl
    · rfl
  | mark => cases io <;> cases unmarked
  | returned => rfl
  | _ => cases before

variable {binary : Bytes}

theorem Disk.Published.matches {artifact : Artifact} (published : disk.Published digest artifact)
    (held : disk.target = some binary) : artifact.Matches digest binary := by
  obtain ⟨_, target, matching⟩ := published
  cases target.symm.trans held
  exact matching

theorem ApplyError.Leaves.target_of_some {error : ApplyError} (leaves : error.Leaves before disk)
    (held : disk.target = some binary) : before.target = some binary := by
  cases error with
  | reopen | artifact => exact leaves.target.symm.trans held
  | publishUnrestored => cases (show disk.target = none from leaves).symm.trans held
  | marker | stat | moveAside | publish => exact leaves.1.symm.trans held

theorem Settled.verified (settled : Settled digest before apply disk)
    (held : disk.target = some binary) :
    before.target = some binary ∨ apply.artifact.Matches digest binary := by
  obtain ⟨artifact, _, point⟩ := apply
  cases point with
  | verify => exact .inl (settled.target.symm.trans held)
  | mark => exact .inl (settled.1.target.symm.trans held)
  | stat | moveAside | unmark => exact .inl (settled.1.symm.trans held)
  | publish | restore => cases settled.1.symm.trans held
  | sync => exact .inr (Disk.Published.matches settled held)
  | returned error =>
    cases error with
    | none => exact .inr (Disk.Published.matches settled held)
    | some => exact .inl (ApplyError.Leaves.target_of_some settled held)

end

/-- The call has returned. -/
def CheckPoint.returns : CheckPoint → Bool
  | .returned _ => true
  | _ => false

variable {point : CheckPoint}

theorem CheckPoint.returned_of_returns (returns : point.returns) :
    ∃ error, point = .returned error := by
  cases point with
  | returned error => exact ⟨error, rfl⟩
  | _ => cases returns

/-- A call of `Check` after so many operations. -/
def checkAfter (cfg : Config) (trust : Trust) (files : Files) (offer : Offer) (tail : StageTail)
    (count : Nat) : Checking :=
  Checking.run cfg trust offer tail count { files }

section

variable {cfg : Config} {trust : Trust} {offer : Offer} {tail : StageTail} {before : Files}
  {checking : Checking}

theorem marked_step (faithful : checking.Faithful cfg trust offer before)
    (marked : checking.point.marked) :
    (checking.step cfg trust offer tail).point.marked := by
  obtain ⟨point, _, _, _⟩ := checking
  cases point with
  | apply job index point =>
    rcases exists_or_forall_not (point = .returned ·) with ⟨error, rfl⟩ | running
    · cases error with
      | none => rfl
      | some => exact marked
    · rw [step_apply running]
      exact @marked_apply_step _ cfg.target _ (job.apply point) _ _ faithful.1 marked
  | clearPending => rfl
  | returned => exact marked
  | _ => cases marked

/-- Outside `Stage` and `Apply` a call leaves the disk, and reports no rename back that failed. -/
theorem quiet_step (staging : ∀ job point, checking.point ≠ .stage job point)
    (applying : ∀ job index point, checking.point ≠ .apply job index point) :
    (checking.step cfg trust offer tail).files.disk = checking.files.disk ∧
      ((checking.step cfg trust offer tail).point.unrestored →
        checking.point.unrestored) := by
  obtain ⟨point, files, _, _⟩ := checking
  cases point with
  | self =>
    simp only [Checking.step]
    split
    · next error unknown =>
      refine ⟨rfl, fun unrestored => ?_⟩
      rcases self_error unknown with rfl | rfl <;> cases unrestored
    · exact ⟨rfl, fun unrestored => by cases unrestored⟩
  | gate | fetchManifest | verify | release | reverify =>
    simp only [Checking.step]
    repeat' split
    all_goals exact ⟨rfl, fun unrestored => by cases unrestored⟩
  | setPending =>
    refine ⟨rfl, fun unrestored => ?_⟩
    simp only [Checking.step] at unrestored
    split_ifs at unrestored <;> cases unrestored
  | load | raiseFloor | clearPending => exact ⟨rfl, fun unrestored => by cases unrestored⟩
  | stage job point => exact absurd rfl (staging job point)
  | apply job index point => exact absurd rfl (applying job index point)
  | returned => exact ⟨rfl, id⟩

/-- Only an apply that has come to write its marker changes it. -/
theorem marker_step (unmarked : (checking.step cfg trust offer tail).point.marked = false)
    (before : checking.point.marked = false) :
    (checking.step cfg trust offer tail).files.disk.marker = checking.files.disk.marker := by
  obtain ⟨point, files, temporary, _⟩ := checking
  cases point with
  | stage job point =>
    rcases exists_or_forall_not (point = .returned ·) with ⟨error, rfl⟩ | running
    · cases error <;> rfl
    · rw [step_stage running]
      exact (@kept_stage_step _ _ _ _ _ ⟨files.disk, temporary⟩ point).marker
  | apply job index point =>
    rcases exists_or_forall_not (point = .returned ·) with ⟨error, rfl⟩ | running
    · cases error <;> rfl
    · rw [step_apply running] at unmarked ⊢
      exact marker_apply_step unmarked before
  | _ => exact congrArg Disk.marker (quiet_step (by rintro _ _ ⟨⟩) (by rintro _ _ _ ⟨⟩)).1

/-- A call reports that the rename back failed only if it did. -/
theorem unrestored_step (faithful : checking.Faithful cfg trust offer before)
    (unrestored : (checking.step cfg trust offer tail).point.unrestored) :
    checking.point.unrestored ∨
      checking.point.restores ∧ checking.fails cfg trust offer tail := by
  obtain ⟨point, files, _, _⟩ := checking
  cases point with
  | stage job point =>
    rcases exists_or_forall_not (point = .returned ·) with ⟨error, rfl⟩ | running
    · cases error <;> cases unrestored
    · rw [step_stage running] at unrestored
      cases unrestored
  | apply job index point =>
    cases point with
    | verify =>
      simp only [Checking.step, Apply.step, Job.apply] at unrestored
      split at unrestored
      · split at unrestored <;> cases unrestored
      · cases unrestored
    | mark | stat | moveAside =>
      simp only [Checking.step, Apply.step, Job.apply] at unrestored
      split at unrestored <;> cases unrestored
    | publish moved =>
      simp only [Checking.step, Apply.step, Job.apply] at unrestored
      split at unrestored
      · cases unrestored
      · cases moved <;> cases unrestored
    | restore =>
      refine .inr ⟨rfl, ?_⟩
      simp only [Checking.step, Apply.step, Job.apply] at unrestored
      split at unrestored
      · cases unrestored
      · next other =>
        simp only [Checking.fails, Apply.fails, Job.apply]
        cases answer : offer.io.apply index with
        | failed | unsynced => rfl
        | ok =>
          cases kept : files.disk.previous with
          | none => rfl
          | some binary => exact absurd kept (other binary answer)
    | unmark error =>
      obtain ⟨⟨_, unmarks⟩, -⟩ := faithful
      cases error with
      | publishUnrestored => cases unmarks
      | _ => cases unrestored
    | sync => cases unrestored
    | returned error =>
      cases error with
      | none => cases unrestored
      | some error =>
        cases error with
        | publishUnrestored => exact .inl rfl
        | _ => cases unrestored
  | _ => exact .inl ((quiet_step (by rintro _ _ ⟨⟩) (by rintro _ _ _ ⟨⟩)).2 unrestored)

section

variable {files : Files}

theorem checkAfter_succ (count : Nat) :
    checkAfter cfg trust files offer tail (count + 1) =
      (checkAfter cfg trust files offer tail count).step cfg trust offer tail :=
  run_succ count

variable (removals : ∀ count, (checkAfter cfg trust files offer tail count).point.removes →
    (checkAfter cfg trust files offer tail count).fails cfg trust offer tail = false)

include removals

theorem faithful_checkAfter (count : Nat) :
    (checkAfter cfg trust files offer tail count).Faithful cfg trust offer files := by
  induction count with
  | zero => exact ⟨rfl, rfl⟩
  | succ count ih =>
    rw [checkAfter_succ]
    exact ih.step (removals count)

/-- Until the call may have changed the marker, it is as it was. -/
theorem marker_checkAfter {count : Nat}
    (unmarked : (checkAfter cfg trust files offer tail count).point.marked = false) :
    (checkAfter cfg trust files offer tail count).files.disk.marker = files.disk.marker := by
  induction count with
  | zero => rfl
  | succ count ih =>
    rw [checkAfter_succ] at unmarked ⊢
    have earlier : (checkAfter cfg trust files offer tail count).point.marked = false := by
      by_contra marked
      exact Bool.noConfusion (unmarked.symm.trans
        (marked_step (faithful_checkAfter removals count) (eq_true_of_ne_false marked)))
    exact (marker_step unmarked earlier).trans (ih earlier)

theorem marked_later {count more : Nat}
    (marked : (checkAfter cfg trust files offer tail count).point.marked) :
    (checkAfter cfg trust files offer tail (count + more)).point.marked := by
  induction more with
  | zero => exact marked
  | succ more ih =>
    rw [← Nat.add_assoc, checkAfter_succ]
    exact marked_step (faithful_checkAfter removals (count + more)) ih

theorem restored_checkAfter
    (restores : ∀ count, (checkAfter cfg trust files offer tail count).point.restores →
      (checkAfter cfg trust files offer tail count).fails cfg trust offer tail = false)
    (count : Nat) : (checkAfter cfg trust files offer tail count).point.unrestored = false := by
  induction count with
  | zero => rfl
  | succ count ih =>
    have faithful := faithful_checkAfter removals count
    rw [checkAfter_succ]
    by_contra unrestored
    rcases unrestored_step faithful (eq_true_of_ne_false unrestored) with earlier | ⟨here, fails⟩
    · exact Bool.noConfusion (ih.symm.trans earlier)
    · exact Bool.noConfusion ((restores count here).symm.trans fails)

end

/-- What is at the target was there before, or matches the accepted manifest's row. -/
theorem Checking.Faithful.verified (faithful : checking.Faithful cfg trust offer before)
    {binary : Bytes} (held : checking.files.disk.target = some binary) :
    before.disk.target = some binary ∨ ∃ job : Job, job.Vouched cfg trust offer before ∧
      job.artifact.Matches trust.digest binary := by
  obtain ⟨point, files, _, _⟩ := checking
  cases point with
  | self =>
    obtain ⟨rfl, -⟩ := faithful
    exact .inl held
  | gate | load | fetchManifest | verify =>
    obtain ⟨⟨rfl, -⟩, -⟩ := faithful
    exact .inl held
  | raiseFloor | release | reverify =>
    obtain ⟨⟨same, -⟩, -⟩ := faithful
    exact .inl (same ▸ held)
  | stage | setPending => exact .inl (faithful.1.target.symm.trans held)
  | apply job =>
    obtain ⟨settled, -, vouched⟩ := faithful
    exact (settled.verified held).imp_right fun matching => ⟨job, vouched, matching⟩
  | clearPending job =>
    obtain ⟨published, -, vouched⟩ := faithful
    exact .inr ⟨job, vouched, published.matches held⟩
  | returned error =>
    cases error with
    | none =>
      obtain ⟨-, kept | ⟨job, vouched, published⟩⟩ := faithful
      · exact .inl (kept.target.symm.trans held)
      · exact .inr ⟨job, vouched, published.matches held⟩
    | some =>
      obtain ⟨-, leaves⟩ := faithful
      unfold CheckError.Leaves at leaves
      split at leaves
      · exact .inl (leaves.target_of_some held)
      · exact .inl (leaves.target.symm.trans held)

variable {error : Option CheckError}

theorem Checking.Faithful.temporary (faithful : checking.Faithful cfg trust offer before)
    (returned : checking.point = .returned error) : checking.temporary = none := by
  obtain ⟨point, _, temporary, _⟩ := checking
  cases returned
  cases error <;> exact faithful.1

/-- A call that returned an error has the target as it was, unless the rename back failed; and no
marker, if it may have changed it. -/
theorem Checking.Faithful.error_leaves (faithful : checking.Faithful cfg trust offer before)
    {error : CheckError} (returned : checking.point = .returned (some error))
    (restored : checking.point.unrestored = false) :
    checking.files.disk.target = before.disk.target ∧
      (checking.point.marked → checking.files.disk.marker = none) := by
  obtain ⟨point, files, _, _⟩ := checking
  cases returned
  obtain ⟨-, leaves⟩ := faithful
  simp only [CheckPoint.unrestored] at restored
  simp only [CheckPoint.marked]
  unfold CheckError.Leaves at leaves
  generalize error.failure = failure at leaves restored ⊢
  cases failure with
  | none => exact ⟨leaves.target, fun marked => by cases marked⟩
  | some failure =>
    cases failure with
    | reopen | artifact => exact ⟨leaves.target, fun marked => by cases marked⟩
    | publishUnrestored => cases restored
    | marker | stat | moveAside | publish => exact ⟨leaves.1, fun _ => leaves.2⟩

theorem checkAfter_ended {files : Files} {last : Nat} {final : Checking}
    (ends : checkAfter cfg trust files offer tail last = final)
    (returned : final.point = .returned error) (more : Nat) :
    checkAfter cfg trust files offer tail (more + last) = final := by
  unfold checkAfter at ends ⊢
  rw [Nat.add_comm, ← run_add, ends]
  exact run_returned more returned

end

/-- When the operations that remove a file succeed, a call of `Check` ends with the result of
`check`. Every operation that fails makes it return an error, apart from those tolerated. When it
returns an error and no rename back fails, the target is as it was, the marker is gone or was never
touched, and the temporary is gone. At no time does the target hold anything but what was there and
what matches the row of the accepted manifest. -/
theorem failed_check_leaves_target (cfg : Config) (trust : Trust) (files : Files) (offer : Offer)
    (tail : StageTail)
    (removals : ∀ count, (checkAfter cfg trust files offer tail count).point.removes = true →
      (checkAfter cfg trust files offer tail count).fails cfg trust offer tail = false) :
    (∃ last, checkAfter cfg trust files offer tail last =
        ⟨.returned (check cfg trust files offer).error, (check cfg trust files offer).files,
          none, (check cfg trust files offer).outcome⟩) ∧
    (∀ count,
      (checkAfter cfg trust files offer tail count).fails cfg trust offer tail = true →
      (checkAfter cfg trust files offer tail count).point.tolerated = false →
      (check cfg trust files offer).error ≠ none) ∧
    ((check cfg trust files offer).error ≠ none →
      (∀ count, (checkAfter cfg trust files offer tail count).point.restores = true →
        (checkAfter cfg trust files offer tail count).fails cfg trust offer tail = false) →
      (check cfg trust files offer).files.disk.target = files.disk.target ∧
        ((check cfg trust files offer).files.disk.marker = none ∨
          ∀ count, (checkAfter cfg trust files offer tail count).files.disk.marker =
            files.disk.marker)) ∧
    ∀ count binary,
      (checkAfter cfg trust files offer tail count).files.disk.target = some binary →
      files.disk.target = some binary ∨ ∃ job : Job, job.Vouched cfg trust offer files ∧
        job.artifact.Matches trust.digest binary := by
  obtain ⟨left, last, ends⟩ := @concludes_check cfg trust offer tail files
  change checkAfter cfg trust files offer tail last = _ at ends
  have faithful := faithful_checkAfter removals
  have gone := faithful last
  rw [ends] at gone
  obtain rfl : left = none := gone.temporary rfl
  have ended := checkAfter_ended ends rfl
  refine ⟨⟨last, ends⟩, fun count fails reported => ?_, fun failed restores => ?_,
    fun count binary held => (faithful count).verified held⟩
  · have kept : (checkAfter cfg trust files offer tail count).point.removes = false := by
      by_contra removes
      exact Bool.noConfusion ((removals count (eq_true_of_ne_false removes)).symm.trans fails)
    have later := @failed_run cfg trust offer tail _ last (failed_of_fails fails reported kept)
    rw [← checkAfter_succ, checkAfter, run_add] at later
    change (checkAfter cfg trust files offer tail (count + 1 + last)).point.failed
      at later
    rw [ended] at later
    intro nothing
    rw [nothing] at later
    cases later
  · obtain ⟨error, reason⟩ := Option.ne_none_iff_exists'.mp failed
    have restored := restored_checkAfter removals restores last
    rw [ends] at restored
    obtain ⟨target, cleared⟩ := gone.error_leaves (congrArg CheckPoint.returned reason) restored
    refine ⟨target, or_iff_not_imp_left.mpr fun present count => marker_checkAfter removals ?_⟩
    -- Had the call come to write its marker, it would have removed it again.
    by_contra marked
    have later := @marked_later cfg trust offer tail files removals count last
      (eq_true_of_ne_false marked)
    rw [ended] at later
    exact present (cleared later)

/-- The operation takes back what the call has done. -/
def CheckPoint.undoes (point : CheckPoint) : Bool := point.removes || point.restores

theorem CheckPoint.undoes_of_removes (removes : point.removes) : point.undoes := by
  rw [CheckPoint.undoes, removes, Bool.true_or]

theorem CheckPoint.undoes_of_restores (restores : point.restores) : point.undoes := by
  rw [CheckPoint.undoes, restores, Bool.or_true]

/-- The staged file cannot be renamed onto the target; all else succeeds. -/
def refusingPublish : Offer :=
  { offered [2] with io := { apply := fun index => if index = 4 then .failed else .ok } }

/-- An update whose last rename fails leaves the node's binary, and no marker. -/
theorem refused_publish_leaves_target :
    (checkAfter nodeConfig openTrust runningNode.files refusingPublish {} 25).fails nodeConfig
      openTrust refusingPublish {} = true ∧
    (check nodeConfig openTrust runningNode.files refusingPublish).error ≠ none ∧
    (check nodeConfig openTrust runningNode.files refusingPublish).files.disk.target =
      some [1] := by
  have returns : (checkAfter nodeConfig openTrust runningNode.files refusingPublish {}
      29).point.returns := by
    decide +kernel
  have early : ∀ count < 29, (checkAfter nodeConfig openTrust runningNode.files refusingPublish {}
      count).point.undoes →
        (checkAfter nodeConfig openTrust runningNode.files refusingPublish {} count).fails
          nodeConfig openTrust refusingPublish {} = false := by
    decide +kernel
  have throughout (count : Nat) (undoes : (checkAfter nodeConfig openTrust runningNode.files
      refusingPublish {} count).point.undoes) :
      (checkAfter nodeConfig openTrust runningNode.files refusingPublish {} count).fails nodeConfig
        openTrust refusingPublish {} = false := by
    by_cases before : count < 29
    · exact early count before undoes
    · obtain ⟨_, rfl⟩ := Nat.exists_eq_add_of_le' (Nat.le_of_not_lt before)
      obtain ⟨error, returned⟩ := CheckPoint.returned_of_returns returns
      rw [checkAfter_ended rfl returned, returned] at undoes
      cases undoes
  obtain ⟨-, reported, leaves, -⟩ := failed_check_leaves_target nodeConfig openTrust
    runningNode.files refusingPublish {} fun count removes =>
      throughout count (CheckPoint.undoes_of_removes removes)
  have failing : (checkAfter nodeConfig openTrust runningNode.files refusingPublish {} 25).fails
      nodeConfig openTrust refusingPublish {} := by
    decide +kernel
  have error := reported 25 failing (by decide +kernel)
  exact ⟨failing, error, (leaves error fun count restores =>
    throughout count (CheckPoint.undoes_of_restores restores)).1⟩

/-- The record cannot be written once the release is published. -/
def refusingClear : Offer := { offered [2] with io := { clearWrite := .failed } }

/-- A release is published and its pending record cannot be cleared: the call returns no error, and
the target has changed. -/
theorem uncleared_record_not_returned :
    (∀ count ≤ 29, (checkAfter nodeConfig openTrust runningNode.files refusingClear {} count).fails
      nodeConfig openTrust refusingClear {} = decide (count = 28)) ∧
    (checkAfter nodeConfig openTrust runningNode.files refusingClear {} 28).point.restores = false ∧
    (checkAfter nodeConfig openTrust runningNode.files refusingClear {} 29).point.returns = true ∧
    (check nodeConfig openTrust runningNode.files refusingClear).error = none ∧
    (check nodeConfig openTrust runningNode.files refusingClear).files.disk.target ≠
      runningNode.files.disk.target := by
  decide +kernel

end Bacchus.Update
