import Bacchus.Update.Updater

/-!
# Check, one operation at a time

`Check` as a sequence of single operations, each of which may fail, with every state of the files
in between. It ends with what `check` leaves and returns.
-/

namespace Bacchus.Update

/-- The operations of `Stage` without an effect on its result: the directory's flush, and the
deferred removal. -/
structure StageTail where
  flush : Io := .ok
  remove : Io := .ok

/-- The operation `Stage` makes next. -/
inductive StagePoint where
  | create
  | fetch
  | copy (content : Bytes)
  | closeSource
  | size
  | chmod
  | sync
  | close
  | verify
  | name
  | flush
  /-- The deferred removal, before the call returns. -/
  | remove (error : Option StageError)
  | returned (error : Option StageError)

/-- The directory of the target while a call of `Stage` is under way. -/
structure Bench where
  disk : Disk
  /-- The file `CreateTemp` made. -/
  temporary : Option Bytes := none

section

variable (digest : Bytes → Bytes) (serve : Artifact → Option Bytes) (artifact : Artifact)
  (io : StageIo) (tail : StageTail)

/-- One operation of `Stage`. -/
def StagePoint.step (bench : Bench) : StagePoint → Bench × StagePoint
  | .create =>
    if io.create = .ok then ({ bench with temporary := some [] }, .fetch)
    else (bench, .returned (some .create))
  | .fetch =>
    match serve artifact with
    | some content => (bench, .copy content)
    | none => (bench, .remove (some .fetch))
  | .copy content =>
    -- At most one byte past the declared size is copied.
    ({ bench with temporary := some (content.take (artifact.size + 1).toNat) },
      if io.copy = .ok then .closeSource else .remove (some .download))
  | .closeSource => (bench, if io.closeSource = .ok then .size else .remove (some .closeSource))
  | .size =>
    let copied := (bench.temporary.getD []).length
    (bench, if (copied : Int) = artifact.size then .chmod
      else .remove (some (.sizeMismatch copied artifact.size)))
  | .chmod => (bench, if io.chmod = .ok then .sync else .remove (some .chmod))
  | .sync => (bench, if io.sync = .ok then .close else .remove (some .sync))
  | .close => (bench, if io.close = .ok then .verify else .remove (some .close))
  | .verify =>
    -- The file as written is read back.
    if io.reopen = .ok then
      match verifyArtifact digest artifact (bench.temporary.getD []) with
      | .ok _ => (bench, .name)
      | .error error => (bench, .remove (some (.artifact error)))
    else (bench, .remove (some .reopen))
  | .name =>
    if io.name = .ok then
      ({ disk := { bench.disk with
          staged := Function.update bench.disk.staged artifact.name bench.temporary } }, .flush)
    else (bench, .remove (some .name))
  | .flush => (bench, .remove none)
  | .remove error =>
    ({ bench with temporary := if tail.remove = .ok then none else bench.temporary },
      .returned error)
  | .returned error => (bench, .returned error)

/-- The operation fails. -/
def StagePoint.fails (bench : Bench) : StagePoint → Bool
  | .create => io.create ≠ .ok
  | .fetch => (serve artifact).isNone
  | .copy _ => io.copy ≠ .ok
  | .closeSource => io.closeSource ≠ .ok
  | .size => ((bench.temporary.getD []).length : Int) ≠ artifact.size
  | .chmod => io.chmod ≠ .ok
  | .sync => io.sync ≠ .ok
  | .close => io.close ≠ .ok
  | .verify =>
    !(io.reopen = .ok && (verifyArtifact digest artifact (bench.temporary.getD [])).toBool)
  | .name => io.name ≠ .ok
  | .flush => tail.flush ≠ .ok
  | .remove _ => tail.remove ≠ .ok
  | .returned _ => false

/-- So many operations of `Stage`. -/
def StagePoint.run : Nat → Bench × StagePoint → Bench × StagePoint
  | 0, reached => reached
  | count + 1, (bench, point) =>
    StagePoint.run count (point.step digest serve artifact io tail bench)

/-- What `Stage` leaves and returns, by what came of the download. -/
def staged (disk : Disk) : Except StageError Bytes → Disk × Option StageError
  | .ok content =>
    ({ disk with staged := Function.update disk.staged artifact.name (some content) }, none)
  | .error error => (disk, some error)

/-- The call returns what a download with that result makes `Stage` return. -/
def StagePoint.Ends (disk : Disk) (reached : Bench × StagePoint)
    (downloaded : Except StageError Bytes) : Prop :=
  ∃ count left, StagePoint.run digest serve artifact io tail count reached =
    (⟨(staged artifact disk downloaded).1, left⟩, .returned (staged artifact disk downloaded).2)

end

section

variable {digest : Bytes → Bytes} {serve : Artifact → Option Bytes} {artifact : Artifact}
  {io : StageIo} {tail : StageTail} {disk : Disk}

theorem StagePoint.Ends.head {bench : Bench} {point : StagePoint}
    {downloaded : Except StageError Bytes}
    (rest : StagePoint.Ends digest serve artifact io tail disk
      (point.step digest serve artifact io tail bench) downloaded) :
    StagePoint.Ends digest serve artifact io tail disk (bench, point) downloaded := by
  obtain ⟨count, left, reached⟩ := rest
  exact ⟨count + 1, left, reached⟩

theorem ends_remove (left : Option Bytes) (error : StageError) :
    StagePoint.Ends digest serve artifact io tail disk (⟨disk, left⟩, .remove (some error))
      (.error error) :=
  ⟨1, _, rfl⟩

/-- An operation that fails throws its error, and the call goes to the removal. -/
theorem StagePoint.Ends.guard {left : Option Bytes} {next : StagePoint} {error : StageError}
    {passes : Prop} [Decidable passes] {rest : Except StageError Bytes}
    (goesOn : passes →
      StagePoint.Ends digest serve artifact io tail disk (⟨disk, left⟩, next) rest) :
    StagePoint.Ends digest serve artifact io tail disk
      (⟨disk, left⟩, if passes then next else .remove (some error))
      (if ¬passes then do throw error; rest else rest) := by
  by_cases holds : passes
  · rw [if_pos holds, if_neg (not_not.mpr holds)]
    exact goesOn holds
  · rw [if_neg holds, if_pos holds]
    exact ends_remove left error

/-- The operations of `Stage` leave what `stage` leaves, and return what it returns. -/
theorem ends_stage (temporary : Option Bytes) :
    StagePoint.Ends digest serve artifact io tail disk (⟨disk, temporary⟩, .create)
      (download digest serve artifact io) := by
  unfold download
  refine .head ?_
  by_cases create : io.create = .ok
  case neg =>
    simp only [StagePoint.step, create, ne_eq, not_false_eq_true, if_true, if_false]
    exact ⟨0, temporary, rfl⟩
  simp only [StagePoint.step, create, ne_eq, not_true_eq_false, if_true, if_false]
  refine .head ?_
  cases served : serve artifact with
  | none =>
    simp only [StagePoint.step, served]
    exact ends_remove _ _
  | some content =>
  simp only [StagePoint.step, served]
  refine .head (.guard fun _ => ?_)
  refine .head (.guard fun _ => ?_)
  refine .head (.guard fun _ => ?_)
  refine .head (.guard fun _ => ?_)
  refine .head (.guard fun _ => ?_)
  refine .head (.guard fun _ => .head ?_)
  by_cases reopen : io.reopen = .ok
  case neg =>
    simp only [StagePoint.step, reopen, not_false_eq_true, if_true, if_false]
    exact ends_remove _ _
  simp only [StagePoint.step, reopen, Option.getD_some, not_true_eq_false, if_true, if_false]
  cases verifyArtifact digest artifact (content.take (artifact.size + 1).toNat) with
  | error => exact ends_remove _ _
  | ok _ =>
    refine .head ?_
    by_cases name : io.name = .ok
    case neg =>
      simp only [StagePoint.step, name, not_false_eq_true, if_true, if_false]
      exact ends_remove _ _
    simp only [StagePoint.step, name, not_true_eq_false, if_true, if_false]
    exact ⟨2, _, rfl⟩

end

/-- The operation an apply makes next fails. -/
def Apply.fails (digest : Bytes → Bytes) (apply : Apply) (disk : Disk) (io : Io) : Bool :=
  match apply.point with
  | .verify =>
    !(io = .ok && (disk.staged apply.artifact.name).any fun content =>
      (verifyArtifact digest apply.artifact content).toBool)
  | .moveAside => !(io = .ok && disk.target.isSome)
  | .publish _ => !(io = .ok && (disk.staged apply.artifact.name).isSome)
  | .restore => !(io = .ok && disk.previous.isSome)
  | .mark | .stat | .unmark _ | .sync => io ≠ .ok
  | .returned _ => false

/-- The release a check brings in: its manifest, and the row for this build. -/
structure Job where
  manifest : Manifest
  artifact : Artifact

/-- The operation `Check` makes next. -/
inductive CheckPoint where
  | self
  | gate (self : Version)
  | load (self : Version)
  | fetchManifest (self : Version) (minSeq : Nat) (pending : Option Pending)
  | verify (self : Version) (minSeq : Nat) (pending : Option Pending) (raw : Bytes)
  | raiseFloor (self : Version) (pending : Option Pending) (manifest : Manifest)
  | release (self : Version) (pending : Option Pending) (manifest : Manifest)
  | reverify (job : Job)
  | stage (job : Job) (point : StagePoint)
  | setPending (job : Job)
  | apply (job : Job) (index : Nat) (point : ApplyPoint)
  | clearPending (job : Job)
  | returned (error : Option CheckError)

/-- A call of `Check` under way. -/
structure Checking where
  point : CheckPoint := .self
  files : Files
  temporary : Option Bytes := none
  outcome : Outcome := {}

/-- The call of `Apply` that publishes the job. -/
def Job.apply (job : Job) (point : ApplyPoint) : Apply :=
  { artifact := job.artifact, release := job.manifest.release, point }

section

variable (cfg : Config) (trust : Trust) (offer : Offer) (tail : StageTail)

def Job.pending (job : Job) : Pending :=
  ⟨job.manifest.release, job.manifest.seq, job.artifact, cfg.stagedPath job.artifact⟩

/-- The pending record names this artifact. -/
def Job.recorded (job : Job) (pending : Option Pending) : Bool :=
  pending.any fun pending =>
    pending.artifact.name = job.artifact.name ∧ pending.staged = cfg.stagedPath job.artifact

/-- The staged file is opened, and matches the row. -/
def Job.reverifies (job : Job) (disk : Disk) : Bool :=
  offer.io.reverify = .ok && (disk.staged job.artifact.name).any fun content =>
    (verifyArtifact trust.digest job.artifact content).toBool

/-- One operation of `Check`. -/
def Checking.step (checking : Checking) : Checking :=
  let files := checking.files
  let outcome := checking.outcome
  match checking.point with
  | .self =>
    match cfg.self with
    | .error error => { checking with point := .returned (some error) }
    | .ok self => { checking with point := .gate self }
  | .gate self =>
    if offer.gated then { checking with outcome := { gated := true }, point := .returned none }
    else { checking with point := .load self }
  | .load self =>
    -- A record that cannot be read is only logged; the floor that was recovered is used.
    let (record, loaded) := files.state.read offer.io.load
    { checking with
      point := .fetchManifest self record.minSeq (if loaded then record.pending else none) }
  | .fetchManifest self minSeq pending =>
    match offer.manifest with
    | none => { checking with point := .returned (some .fetchManifest) }
    | some raw => { checking with point := .verify self minSeq pending raw }
  | .verify self minSeq pending raw =>
    match (parseBundle trust raw).bind fun bundle => verify trust bundle offer.now minSeq with
    | .error error => { checking with point := .returned (some (.manifest error)) }
    | .ok manifest => { checking with point := .raiseFloor self pending manifest }
  | .raiseFloor self pending manifest =>
    let state := (files.state.raiseFloor manifest.seq offer.io.floorRead offer.io.floorWrite).1
    { checking with
      files := { files with state }
      outcome := { release := manifest.release }
      point := .release self pending manifest }
  | .release self pending manifest =>
    match Version.parse manifest.release with
    | .error _ => { checking with point := .returned (some (.release manifest.release)) }
    | .ok theirs =>
      if theirs.compare self ≤ 0 then
        { checking with outcome := { outcome with upToDate := true }, point := .returned none }
      else
        match manifest.find cfg.os cfg.arch cfg.role with
        | none =>
          { checking with
            outcome := { outcome with noArtifact := true }, point := .returned none }
        | some artifact =>
          let job : Job := ⟨manifest, artifact⟩
          { checking with
            point := if job.recorded cfg pending then .reverify job
              else .stage job .create }
  | .reverify job =>
    if job.reverifies trust offer files.disk then
      { checking with
        outcome := { outcome with staged := cfg.stagedPath job.artifact, deferred := true }
        point := if cfg.defer then .returned none else .apply job 0 .verify }
    else { checking with point := .stage job .create }
  | .stage _ (.returned (some error)) => { checking with point := .returned (some (.stage error)) }
  | .stage job (.returned none) =>
    { checking with
      outcome := { outcome with staged := cfg.stagedPath job.artifact }
      point := .setPending job }
  | .stage job point =>
    let (bench, point) := point.step trust.digest offer.serve job.artifact offer.io.stage tail
      ⟨files.disk, checking.temporary⟩
    { checking with
      files := { files with disk := bench.disk }
      temporary := bench.temporary
      point := .stage job point }
  | .setPending job =>
    let (state, recorded) :=
      files.state.setPending (job.pending cfg) offer.io.pendingRead offer.io.pendingWrite
    { checking with
      files := { files with state }
      outcome := if recorded && cfg.defer then { outcome with deferred := true } else outcome
      point := if !recorded then .returned (some .pending)
        else if cfg.defer then .returned none else .apply job 0 .verify }
  | .apply job _ (.returned none) => { checking with point := .clearPending job }
  | .apply _ _ (.returned (some error)) =>
    { checking with point := .returned (some (.apply (.returned (some error)))) }
  | .apply job index point =>
    let (disk, point) :=
      (job.apply point).step trust.digest cfg.target files.disk (offer.io.apply index)
    { checking with files := { files with disk }, point := .apply job (index + 1) point }
  | .clearPending job =>
    let state := (files.state.clearPending job.manifest.release offer.io.clearRead
      offer.io.clearWrite).1
    { checking with
      files := { files with state }
      outcome := { outcome with applied := true, deferred := false }
      point := .returned none }
  | .returned _ => checking

/-- The operation `Check` makes next fails. -/
def Checking.fails (checking : Checking) : Bool :=
  let files := checking.files
  match checking.point with
  | .self => (cfg.self).toOption.isNone
  | .gate _ => false
  | .load _ => !(files.state.read offer.io.load).2
  | .fetchManifest _ _ _ => offer.manifest.isNone
  | .verify _ minSeq _ raw =>
    ((parseBundle trust raw).bind fun bundle =>
      verify trust bundle offer.now minSeq).toOption.isNone
  | .raiseFloor _ _ manifest =>
    !(files.state.raiseFloor manifest.seq offer.io.floorRead offer.io.floorWrite).2
  | .release _ _ manifest => (Version.parse manifest.release).toOption.isNone
  | .reverify job => !job.reverifies trust offer files.disk
  | .stage job point =>
    point.fails trust.digest offer.serve job.artifact offer.io.stage tail
      ⟨files.disk, checking.temporary⟩
  | .setPending job =>
    !(files.state.setPending (job.pending cfg) offer.io.pendingRead offer.io.pendingWrite).2
  | .apply job index point => (job.apply point).fails trust.digest files.disk (offer.io.apply index)
  | .clearPending job =>
    !(files.state.clearPending job.manifest.release offer.io.clearRead offer.io.clearWrite).2
  | .returned _ => false

/-- The call after so many operations; once returned nothing more happens. -/
def Checking.run : Nat → Checking → Checking
  | 0, checking => checking
  | count + 1, checking => Checking.run count (checking.step cfg trust offer tail)

end

section

variable {cfg : Config} {trust : Trust} {offer : Offer} {tail : StageTail} {job : Job}
  {files : Files} {temporary : Option Bytes} {outcome : Outcome}

/-- One run after another. -/
theorem run_add (checking : Checking) (count more : Nat) :
    (checking.run cfg trust offer tail count).run cfg trust offer tail more =
      checking.run cfg trust offer tail (count + more) := by
  induction count generalizing checking with
  | zero => rw [Nat.zero_add, Checking.run]
  | succ count ih =>
    rw [Nat.succ_add]
    exact ih _

/-- A call that is at one state is later at another. -/
def Checking.Reaches (cfg : Config) (trust : Trust) (offer : Offer) (tail : StageTail)
    (first last : Checking) : Prop :=
  ∃ count, first.run cfg trust offer tail count = last

theorem Checking.Reaches.trans {first middle last : Checking}
    (before : Checking.Reaches cfg trust offer tail first middle)
    (after : Checking.Reaches cfg trust offer tail middle last) :
    Checking.Reaches cfg trust offer tail first last := by
  obtain ⟨count, rfl⟩ := before
  obtain ⟨more, rfl⟩ := after
  exact ⟨count + more, (run_add first count more).symm⟩

/-- A step of the staging. -/
theorem step_stage {point : StagePoint} (running : ∀ error, point ≠ .returned error) :
    Checking.step cfg trust offer tail ⟨.stage job point, files, temporary, outcome⟩ =
      ⟨.stage job (point.step trust.digest offer.serve job.artifact offer.io.stage tail
          ⟨files.disk, temporary⟩).2,
        { files with
          disk := (point.step trust.digest offer.serve job.artifact offer.io.stage tail
            ⟨files.disk, temporary⟩).1.disk },
        (point.step trust.digest offer.serve job.artifact offer.io.stage tail
          ⟨files.disk, temporary⟩).1.temporary, outcome⟩ := by
  cases point with
  | returned error => exact absurd rfl (running error)
  | _ => rfl

theorem stage_run_returned (count : Nat) (bench : Bench) (error : Option StageError) :
    StagePoint.run trust.digest offer.serve job.artifact offer.io.stage tail count
      (bench, .returned error) = (bench, .returned error) := by
  induction count with
  | zero => rfl
  | succ count ih => exact ih

theorem reaches_stage_run (count : Nat) (reached : Bench × StagePoint) :
    Checking.Reaches cfg trust offer tail
      ⟨.stage job reached.2, { files with disk := reached.1.disk }, reached.1.temporary, outcome⟩
      ⟨.stage job (StagePoint.run trust.digest offer.serve job.artifact offer.io.stage tail count
          reached).2,
        { files with
          disk := (StagePoint.run trust.digest offer.serve job.artifact offer.io.stage tail count
            reached).1.disk },
        (StagePoint.run trust.digest offer.serve job.artifact offer.io.stage tail count
          reached).1.temporary, outcome⟩ := by
  induction count generalizing reached with
  | zero => exact ⟨0, rfl⟩
  | succ count ih =>
    obtain ⟨_, point⟩ := reached
    rcases exists_or_forall_not (point = .returned ·) with ⟨error, rfl⟩ | running
    · rw [stage_run_returned]
      exact ⟨0, rfl⟩
    · exact .trans ⟨1, step_stage running⟩ (ih _)

/-- The operations of `Stage` leave what `stage` leaves, and return what it returns. -/
theorem reaches_staged :
    ∃ left, Checking.Reaches cfg trust offer tail ⟨.stage job .create, files, temporary, outcome⟩
      ⟨.stage job (.returned
          (stage trust.digest offer.serve job.artifact files.disk offer.io.stage).2),
        { files with
          disk := (stage trust.digest offer.serve job.artifact files.disk offer.io.stage).1 },
        left, outcome⟩ := by
  obtain ⟨count, left, ends⟩ := @ends_stage trust.digest offer.serve job.artifact offer.io.stage
    tail files.disk temporary
  have reached := @reaches_stage_run cfg trust offer tail job files outcome count
    (⟨files.disk, temporary⟩, .create)
  rw [ends] at reached
  exact ⟨left, reached⟩

/-- A step of the apply. -/
theorem step_apply {point : ApplyPoint} {index : Nat} (running : ∀ error, point ≠ .returned error) :
    Checking.step cfg trust offer tail ⟨.apply job index point, files, temporary, outcome⟩ =
      ⟨.apply job (index + 1) ((job.apply point).step trust.digest cfg.target files.disk
          (offer.io.apply index)).2,
        { files with
          disk := ((job.apply point).step trust.digest cfg.target files.disk
            (offer.io.apply index)).1 },
        temporary, outcome⟩ := by
  cases point with
  | returned error => exact absurd rfl (running error)
  | _ => rfl

theorem apply_run_returned (count : Nat) (apply : Apply) (error : Option ApplyError)
    (returned : apply.point = .returned error) (disk : Disk) (answers : Nat → Io) :
    apply.run trust.digest cfg.target count disk answers = (disk, .returned error) := by
  obtain ⟨_, _, point⟩ := apply
  cases returned
  induction count generalizing answers with
  | zero => rfl
  | succ count ih => exact ih _

/-- The operations of `Apply` leave what so many steps of it leave. -/
theorem reaches_apply_run (count index : Nat) (point : ApplyPoint) :
    ∃ later, Checking.Reaches cfg trust offer tail
      ⟨.apply job index point, files, temporary, outcome⟩
      ⟨.apply job later ((job.apply point).run trust.digest cfg.target count files.disk
          fun more => offer.io.apply (index + more)).2,
        { files with
          disk := ((job.apply point).run trust.digest cfg.target count files.disk
            fun more => offer.io.apply (index + more)).1 },
        temporary, outcome⟩ := by
  induction count generalizing index point files with
  | zero => exact ⟨index, 0, rfl⟩
  | succ count ih =>
    rcases exists_or_forall_not (point = .returned ·) with ⟨error, rfl⟩ | running
    · rw [apply_run_returned _ _ _ rfl]
      exact ⟨index, 0, rfl⟩
    · obtain ⟨later, reached⟩ := @ih { files with
          disk := ((job.apply point).step trust.digest cfg.target files.disk
            (offer.io.apply index)).1 } (index + 1)
        ((job.apply point).step trust.digest cfg.target files.disk (offer.io.apply index)).2
      refine ⟨later, .trans ⟨1, step_apply running⟩ ?_⟩
      simpa only [Apply.run, Job.apply, Nat.add_zero, Nat.add_assoc, Nat.add_comm 1] using reached

/-- The call ends with that result. -/
def Checking.Concludes (cfg : Config) (trust : Trust) (offer : Offer) (tail : StageTail)
    (checking : Checking) (checked : Checked) : Prop :=
  ∃ left, Checking.Reaches cfg trust offer tail checking
    ⟨.returned checked.error, checked.files, left, checked.outcome⟩

theorem Checking.Concludes.after {first middle : Checking} {checked : Checked}
    (reached : Checking.Reaches cfg trust offer tail first middle)
    (rest : Checking.Concludes cfg trust offer tail middle checked) :
    Checking.Concludes cfg trust offer tail first checked := by
  obtain ⟨left, later⟩ := rest
  exact ⟨left, reached.trans later⟩

theorem concludes_publish (temporary : Option Bytes) :
    Checking.Concludes cfg trust offer tail ⟨.apply job 0 .verify, files, temporary, outcome⟩
      (publish cfg trust offer.io files outcome job.artifact job.manifest.release) := by
  obtain ⟨_, reached⟩ := @reaches_apply_run cfg trust offer tail job files temporary outcome
    applyOperations 0 .verify
  obtain ⟨error, returned⟩ := @apply_returns trust.digest cfg.target (job.apply .verify)
    files.disk offer.io.apply
  simp only [Nat.zero_add, Job.apply] at reached returned
  refine .after reached ?_
  unfold publish
  dsimp only
  generalize Apply.run trust.digest cfg.target applyOperations
    ⟨job.artifact, job.manifest.release, .verify⟩ files.disk offer.io.apply = result at returned ⊢
  obtain ⟨disk, _⟩ := result
  cases returned
  cases error with
  | none => exact ⟨temporary, 2, rfl⟩
  | some => exact ⟨temporary, 1, rfl⟩

theorem concludes_fetchAndPublish (temporary : Option Bytes) :
    Checking.Concludes cfg trust offer tail ⟨.stage job .create, files, temporary, outcome⟩
      (fetchAndPublish cfg trust offer.io offer.serve files outcome job.manifest
        job.artifact) := by
  obtain ⟨left, reached⟩ := @reaches_staged cfg trust offer tail job files temporary outcome
  refine .after reached ?_
  unfold fetchAndPublish
  generalize stage trust.digest offer.serve job.artifact files.disk offer.io.stage = result
  obtain ⟨disk, error⟩ := result
  cases error with
  | some => exact ⟨left, 1, rfl⟩
  | none =>
    refine .after ⟨1, rfl⟩ ?_
    cases recorded : files.state.setPending (job.pending cfg) offer.io.pendingRead
        offer.io.pendingWrite with
    | mk state kept =>
    simp only [Job.pending] at recorded
    simp only [recorded]
    cases kept with
    | false =>
      refine ⟨left, 1, ?_⟩
      simp [Checking.run, Checking.step, Job.pending, recorded]
    | true =>
      by_cases defer : cfg.defer
      · refine ⟨left, 1, ?_⟩
        simp [Checking.run, Checking.step, Job.pending, recorded, defer]
      · simp only [if_neg defer]
        refine .after ⟨1, ?_⟩ (concludes_publish left)
        simp [Checking.run, Checking.step, Job.pending, recorded, defer]

theorem concludes_acquire (pending : Option Pending) :
    Checking.Concludes cfg trust offer tail
      ⟨if job.recorded cfg pending then .reverify job else .stage job .create, files, temporary,
        { release := job.manifest.release }⟩
      (acquire cfg trust offer.io offer.serve files pending job.manifest job.artifact) := by
  have already : alreadyStaged cfg trust offer.io files.disk pending job.artifact =
      (job.recorded cfg pending && job.reverifies trust offer files.disk) :=
    Bool.and_assoc _ _ _
  unfold acquire
  simp only [already, Bool.and_eq_true]
  by_cases recorded : job.recorded cfg pending
  case neg =>
    rw [if_neg recorded, if_neg fun both => recorded both.1]
    exact concludes_fetchAndPublish temporary
  rw [if_pos recorded]
  by_cases verified : job.reverifies trust offer files.disk
  case neg =>
    rw [if_neg fun both => verified both.2]
    refine .after ⟨1, ?_⟩ (concludes_fetchAndPublish temporary)
    simp only [Checking.run, Checking.step, if_neg verified]
  rw [if_pos ⟨recorded, verified⟩]
  by_cases defer : cfg.defer
  · refine ⟨temporary, 1, ?_⟩
    simp only [Checking.run, Checking.step, if_pos verified, if_pos defer]
  · rw [if_neg defer]
    refine .after ⟨1, ?_⟩ (concludes_publish temporary)
    simp only [Checking.run, Checking.step, if_pos verified, if_neg defer]

theorem concludes_consider (self : Version) (pending : Option Pending) (manifest : Manifest) :
    Checking.Concludes cfg trust offer tail
      ⟨.raiseFloor self pending manifest, files, temporary, outcome⟩
      (consider cfg trust offer.io self offer.serve files pending manifest) := by
  refine .after ⟨1, rfl⟩ ?_
  unfold consider
  cases parsed : Version.parse manifest.release with
  | error _ =>
    refine ⟨temporary, 1, ?_⟩
    simp only [Checking.run, Checking.step, parsed]
  | ok theirs =>
    simp only
    by_cases older : theirs.compare self ≤ 0
    · refine ⟨temporary, 1, ?_⟩
      simp only [Checking.run, Checking.step, parsed, if_pos older]
    rw [if_neg older]
    cases found : manifest.find cfg.os cfg.arch cfg.role with
    | none =>
      refine ⟨temporary, 1, ?_⟩
      simp only [Checking.run, Checking.step, parsed, if_neg older, found]
    | some artifact =>
      refine .after ⟨1, ?_⟩
        (@concludes_acquire cfg trust offer tail ⟨manifest, artifact⟩ _ temporary pending)
      simp only [Checking.run, Checking.step, parsed, if_neg older, found]

/-- A call of `Check` ends, with the files, the outcome and the error of `check`. -/
theorem concludes_check :
    Checking.Concludes cfg trust offer tail { files }
      (check cfg trust files offer) := by
  unfold check
  cases current : cfg.self with
  | error =>
    refine ⟨none, 1, ?_⟩
    simp only [Checking.run, Checking.step, current]
  | ok self =>
    have known : Checking.Reaches cfg trust offer tail { files }
        { point := .gate self, files } := by
      refine ⟨1, ?_⟩
      simp only [Checking.run, Checking.step, current]
    refine .after known ?_
    by_cases gated : offer.gated
    · refine ⟨none, 1, ?_⟩
      simp only [Checking.run, Checking.step, if_pos gated]
    simp only [if_neg gated]
    have loaded : Checking.Reaches cfg trust offer tail { point := .gate self, files }
        { point := .fetchManifest self (files.state.read offer.io.load).1.minSeq
            (if (files.state.read offer.io.load).2 then (files.state.read offer.io.load).1.pending
              else none)
          files } := by
      refine ⟨2, ?_⟩
      simp only [Checking.run, Checking.step, if_neg gated]
    refine .after loaded ?_
    cases served : offer.manifest with
    | none =>
      refine ⟨none, 1, ?_⟩
      simp only [Checking.run, Checking.step, served]
    | some raw =>
      simp only
      cases verified : (parseBundle trust raw).bind fun bundle =>
          verify trust bundle offer.now (files.state.read offer.io.load).1.minSeq with
      | error =>
        refine ⟨none, 2, ?_⟩
        simp only [Checking.run, Checking.step, served, verified]
      | ok manifest =>
        refine .after ⟨2, ?_⟩
          (@concludes_consider cfg trust offer tail files none {} self _ manifest)
        simp only [Checking.run, Checking.step, served, verified]

end

end Bacchus.Update
