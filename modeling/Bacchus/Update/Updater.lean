import Bacchus.Update.Manifest

/-!
# The updater

The persistent state, staging, and one edge-triggered `Check`. Every file operation may
fail; what the source serves is arbitrary.
-/

namespace Bacchus.Update

/-- The release waiting to be applied. -/
structure Pending where
  release : String
  seq : Nat
  artifact : Artifact
  staged : String
deriving DecidableEq

/-- `stateFile`. -/
structure StateRecord where
  version : Int := 0
  minSeq : Nat := 0
  appliedRelease : String := ""
  pending : Option Pending := none
deriving DecidableEq

inductive StateFile where
  | missing
  | garbled
  | record (record : StateRecord)
deriving DecidableEq

def stateVersion : Int := 1

namespace StateFile

/-- `State.read`: the record and whether it was read. Of an unusable format only the floor
survives. -/
def read (file : StateFile) (io : Io) : StateRecord × Bool :=
  match io, file with
  | .ok, .missing => ({}, true)
  | .ok, .record stored =>
    if stored.version ≠ stateVersion then ({ minSeq := stored.minSeq }, false) else (stored, true)
  | _, _ => ({}, false)

/-- `State.write`: the file, and whether the call succeeds. Only raising the floor flushes the
directory. -/
def write (file : StateFile) (record : StateRecord) (raisesFloor : Bool) : Io → StateFile × Bool
  | .ok => (.record { record with version := stateVersion }, true)
  | .unsynced => (.record { record with version := stateVersion }, !raisesFloor)
  | .failed => (file, false)

def raiseFloor (file : StateFile) (seq : Nat) (reading writing : Io) : StateFile × Bool :=
  let record := (file.read reading).1
  file.write { record with minSeq := max record.minSeq seq } (record.minSeq < seq) writing

def setPending (file : StateFile) (pending : Pending) (reading writing : Io) : StateFile × Bool :=
  let record := (file.read reading).1
  file.write { record with minSeq := max record.minSeq pending.seq, pending := some pending }
    (record.minSeq < pending.seq) writing

def clearPending (file : StateFile) (appliedRelease : String) (reading writing : Io) :
    StateFile × Bool :=
  let record := (file.read reading).1
  let release := if appliedRelease = "" then record.appliedRelease else appliedRelease
  file.write { record with pending := none, appliedRelease := release } false writing

end StateFile

/-- The file operations of `Stage`. -/
structure StageIo where
  create : Io := .ok
  copy : Io := .ok
  closeSource : Io := .ok
  chmod : Io := .ok
  sync : Io := .ok
  close : Io := .ok
  reopen : Io := .ok
  name : Io := .ok

inductive StageError where
  | create
  | fetch
  | download
  | closeSource
  | sizeMismatch (served : Nat) (declared : Int)
  | chmod
  | sync
  | close
  | reopen
  | artifact (error : ArtifactError)
  | name

/-- The download of `Stage`: the verified content of the staging file. -/
def download (digest : Bytes → Bytes) (serve : Artifact → Option Bytes) (artifact : Artifact)
    (io : StageIo) : Except StageError Bytes := do
  if io.create ≠ .ok then throw .create
  let some content := serve artifact | throw .fetch
  -- At most one byte past the declared size is copied.
  let copied := content.take (artifact.size + 1).toNat
  if io.copy ≠ .ok then throw .download
  if io.closeSource ≠ .ok then throw .closeSource
  if (copied.length : Int) ≠ artifact.size then
    throw (.sizeMismatch copied.length artifact.size)
  if io.chmod ≠ .ok then throw .chmod
  if io.sync ≠ .ok then throw .sync
  if io.close ≠ .ok then throw .close
  if io.reopen ≠ .ok then throw .reopen
  (verifyArtifact digest artifact copied).mapError .artifact
  if io.name ≠ .ok then throw .name
  return copied

/-- Fetch an artifact and put it beside the target. -/
def stage (digest : Bytes → Bytes) (serve : Artifact → Option Bytes) (artifact : Artifact)
    (disk : Disk) (io : StageIo) : Disk × Option StageError :=
  match download digest serve artifact io with
  | .ok content =>
    ({ disk with staged := Function.update disk.staged artifact.name (some content) }, none)
  | .error error => (disk, some error)

/-- `Config`, with the release this build was stamped with. -/
structure Config where
  dir : String
  base : String
  os : String
  arch : String
  role : String
  defer : Bool := false
  currentRelease : String := ""
  stamp : Option Version := none

def Config.target (cfg : Config) : String := cfg.dir ++ "/" ++ cfg.base

def Config.stagedPath (cfg : Config) (artifact : Artifact) : String :=
  cfg.dir ++ "/." ++ cfg.base ++ "-" ++ artifact.name ++ ".staged"

/-- Why a check fails. -/
inductive CheckError where
  | currentRelease
  | unstamped
  | fetchManifest
  | manifest (error : VerifyError)
  | release (release : String)
  | stage (error : StageError)
  | pending
  | apply (point : ApplyPoint)

def Config.self (cfg : Config) : Except CheckError Version :=
  if cfg.currentRelease ≠ "" then
    (Version.parse cfg.currentRelease).mapError fun _ => .currentRelease
  else
    match cfg.stamp with
    | some version => .ok version
    | none => .error .unstamped

/-- The file operations of `Check`. -/
structure CheckIo where
  load : Io := .ok
  floorRead : Io := .ok
  floorWrite : Io := .ok
  reverify : Io := .ok
  stage : StageIo := {}
  pendingRead : Io := .ok
  pendingWrite : Io := .ok
  apply : Nat → Io := fun _ => .ok
  clearRead : Io := .ok
  clearWrite : Io := .ok

/-- What one `Check` meets. -/
structure Offer where
  gated : Bool := false
  now : Time
  /-- What the source answers for the manifest. -/
  manifest : Option Bytes
  /-- The bytes the source serves for a row. -/
  serve : Artifact → Option Bytes
  io : CheckIo := {}

structure Outcome where
  release : String := ""
  upToDate : Bool := false
  noArtifact : Bool := false
  staged : String := ""
  applied : Bool := false
  deferred : Bool := false
  gated : Bool := false

/-- The files an updater works on. -/
structure Files where
  disk : Disk := {}
  state : StateFile := .missing

/-- What a `Check` leaves and returns. -/
structure Checked where
  files : Files
  outcome : Outcome := {}
  error : Option CheckError := none

/-- So many file operations of `Apply`; once returned nothing more happens. -/
def Apply.run (digest : Bytes → Bytes) (path : String) :
    Nat → Apply → Disk → (Nat → Io) → Disk × ApplyPoint
  | 0, apply, disk, _ => (disk, apply.point)
  | count + 1, apply, disk, answers =>
    let (next, point) := apply.step digest path disk (answers 0)
    Apply.run digest path count { apply with point } next fun index => answers (index + 1)

/-- No call of `Apply` makes more file operations. -/
def applyOperations : Nat := 7

section

variable {digest : Bytes → Bytes} {path : String} {apply : Apply} {disk : Disk}

/-- How many file operations a call of `Apply` can still make. -/
def ApplyPoint.remaining : ApplyPoint → Nat
  | .verify => 7
  | .mark => 6
  | .stat => 5
  | .moveAside => 4
  | .publish _ => 3
  | .restore => 2
  | .unmark _ | .sync => 1
  | .returned _ => 0

theorem remaining_step (io : Io) :
    (apply.step digest path disk io).2.remaining ≤ apply.point.remaining - 1 := by
  obtain ⟨_, _, point⟩ := apply
  cases point with
  | verify =>
    simp only [Apply.step]
    split
    · split <;> simp [ApplyPoint.remaining]
    · simp [ApplyPoint.remaining]
  | mark => cases io <;> simp [Apply.step, ApplyPoint.remaining]
  | stat | moveAside | restore =>
    simp only [Apply.step]
    split <;> simp [ApplyPoint.remaining]
  | publish movedAside =>
    simp only [Apply.step]
    split
    · simp [ApplyPoint.remaining]
    · cases movedAside <;> simp [ApplyPoint.remaining]
  | unmark | sync | returned => exact Nat.le_refl 0

theorem remaining_run (count : Nat) (answers : Nat → Io) :
    (apply.run digest path count disk answers).2.remaining ≤ apply.point.remaining - count := by
  induction count generalizing apply disk answers with
  | zero => exact Nat.le_refl _
  | succ count ih =>
    have rest := @ih { apply with point := (apply.step digest path disk (answers 0)).2 }
      (apply.step digest path disk (answers 0)).1 fun index => answers (index + 1)
    have first := @remaining_step digest path apply disk (answers 0)
    simp only [Apply.run] at rest ⊢
    omega

/-- An apply returns. -/
theorem apply_returns (apply : Apply) (disk : Disk) (answers : Nat → Io) :
    ∃ error, (apply.run digest path applyOperations disk answers).2 = .returned error := by
  have bound := @remaining_run digest path apply disk applyOperations answers
  have most : apply.point.remaining ≤ applyOperations := by
    cases apply.point <;> simp [ApplyPoint.remaining, applyOperations]
  have exhausted : (apply.run digest path applyOperations disk answers).2.remaining = 0 := by omega
  cases final : (apply.run digest path applyOperations disk answers).2 with
  | returned error => exact ⟨error, rfl⟩
  | _ =>
    rw [final] at exhausted
    cases exhausted

end

section

variable (cfg : Config) (trust : Trust) (io : CheckIo)

def publish (files : Files) (outcome : Outcome) (artifact : Artifact)
    (release : String) : Checked :=
  let apply : Apply := { artifact, release }
  let (disk, point) := apply.run trust.digest cfg.target applyOperations files.disk io.apply
  if point = .returned none then
    -- A pending record that cannot be cleared is only logged.
    { files := ⟨disk, (files.state.clearPending release io.clearRead io.clearWrite).1⟩
      outcome := { outcome with applied := true, deferred := false } }
  else { files := { files with disk }, outcome, error := some (.apply point) }

/-- The end of `Check`: download, record, and publish unless deferred. -/
def fetchAndPublish (serve : Artifact → Option Bytes) (files : Files) (outcome : Outcome)
    (manifest : Manifest) (artifact : Artifact) : Checked :=
  match stage trust.digest serve artifact files.disk io.stage with
  | (disk, some error) =>
    { files := { files with disk }, outcome, error := some (.stage error) }
  | (disk, none) =>
    let staged := cfg.stagedPath artifact
    let outcome := { outcome with staged }
    let pending : Pending := ⟨manifest.release, manifest.seq, artifact, staged⟩
    match files.state.setPending pending io.pendingRead io.pendingWrite with
    | (state, false) => { files := ⟨disk, state⟩, outcome, error := some .pending }
    | (state, true) =>
      if cfg.defer then
        { files := ⟨disk, state⟩, outcome := { outcome with deferred := true } }
      else publish cfg trust io ⟨disk, state⟩ outcome artifact manifest.release

/-- The record names this artifact, and its staged file still verifies. -/
def alreadyStaged (disk : Disk) (pending : Option Pending) (artifact : Artifact) : Bool :=
  pending.any (fun pending =>
      pending.artifact.name = artifact.name ∧ pending.staged = cfg.stagedPath artifact) &&
    io.reverify = .ok &&
    (disk.staged artifact.name).any fun content =>
      (verifyArtifact trust.digest artifact content).toBool

/-- What `Check` does with the artifact of a newer release. -/
def acquire (serve : Artifact → Option Bytes) (files : Files) (pending : Option Pending)
    (manifest : Manifest) (artifact : Artifact) : Checked :=
  let outcome : Outcome := { release := manifest.release }
  if alreadyStaged cfg trust io files.disk pending artifact then
    let waiting := { outcome with staged := cfg.stagedPath artifact, deferred := true }
    if cfg.defer then { files, outcome := waiting }
    else publish cfg trust io files waiting artifact manifest.release
  else fetchAndPublish cfg trust io serve files outcome manifest artifact

/-- What `Check` does with a verified manifest. -/
def consider (self : Version) (serve : Artifact → Option Bytes) (files : Files)
    (pending : Option Pending) (manifest : Manifest) : Checked :=
  -- A floor that cannot be recorded is only logged.
  let state := (files.state.raiseFloor manifest.seq io.floorRead io.floorWrite).1
  let files := { files with state }
  let outcome : Outcome := { release := manifest.release }
  match Version.parse manifest.release with
  | .error _ => { files, outcome, error := some (.release manifest.release) }
  | .ok theirs =>
    if theirs.compare self ≤ 0 then { files, outcome := { outcome with upToDate := true } }
    else
      match manifest.find cfg.os cfg.arch cfg.role with
      | none => { files, outcome := { outcome with noArtifact := true } }
      | some artifact => acquire cfg trust io serve files pending manifest artifact

end

/-- One round of `Check`. -/
def check (cfg : Config) (trust : Trust) (files : Files) (offer : Offer) : Checked :=
  match cfg.self with
  | .error error => { files, error := some error }
  | .ok self =>
    if offer.gated then { files, outcome := { gated := true } }
    else
      let (record, loaded) := files.state.read offer.io.load
      let pending := if loaded then record.pending else none
      match offer.manifest with
      | none => { files, error := some .fetchManifest }
      | some raw =>
        match (parseBundle trust raw).bind fun bundle =>
            verify trust bundle offer.now record.minSeq with
        | .error error => { files, error := some (.manifest error) }
        | .ok manifest => consider cfg trust offer.io self offer.serve files pending manifest

end Bacchus.Update
