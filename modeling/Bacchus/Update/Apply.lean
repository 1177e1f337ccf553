import Bacchus.Text.Hex

/-!
# Publishing a staged artifact

`Apply`, `Confirm` and `CheckStartup` over the files beside the target path, `Apply` cut at every
file operation. Renames are atomic and a file survives a crash; any other operation may fail.
-/

namespace Bacchus.Update

/-- One row of the manifest. -/
structure Artifact where
  os : String
  arch : String
  role : String
  size : Int
  sha256 : Bytes
deriving DecidableEq

/-- The content-addressed name. A staged file is named by it and nothing else. -/
def Artifact.name (artifact : Artifact) : String := Text.hexEncode artifact.sha256

inductive ArtifactError where
  | sizeMismatch (got : Nat) (declared : Int)
  | hashMismatch (os arch role : String)
deriving DecidableEq

/-- `VerifyArtifact`. At most one byte past the declared size is read. -/
def verifyArtifact (digest : Bytes → Bytes) (artifact : Artifact) (content : Bytes) :
    Except ArtifactError Unit :=
  let read := content.take (artifact.size + 1).toNat
  if (read.length : Int) ≠ artifact.size then .error (.sizeMismatch read.length artifact.size)
  else if digest read ≠ artifact.sha256 then
    .error (.hashMismatch artifact.os artifact.arch artifact.role)
  else .ok ()

structure Marker where
  release : String := ""
  previous : String := ""
  artifact : String := ""
  started : Bool := false

/-- The marker file: what this package wrote, or bytes that do not parse. -/
inductive MarkerFile where
  | record (marker : Marker)
  | garbled

/-- The files beside the target. -/
structure Disk where
  target : Option Bytes := none
  previous : Option Bytes := none
  marker : Option MarkerFile := none
  /-- Staged files, by artifact name. -/
  staged : String → Option Bytes := fun _ => none

/-- The outcome of a file operation. A durable write that could not flush its directory fails with
the file installed. -/
inductive Io where
  | ok
  | failed
  | unsynced
deriving DecidableEq

def previousPath (path : String) : String := path ++ ".prev"

/-- `readMarker`: a marker that cannot be parsed is present with a zero body. -/
def readMarker : Option MarkerFile → Option Marker
  | none => none
  | some (.record marker) => some marker
  | some .garbled => some {}

/-- Why an apply fails. -/
inductive ApplyError where
  | reopen
  | artifact (error : ArtifactError)
  | marker
  | stat
  | moveAside
  | publish
  /-- Publishing failed, and so did putting the previous binary back. -/
  | publishUnrestored
deriving DecidableEq

/-- The file operation `Apply` makes next. -/
inductive ApplyPoint where
  | verify
  | mark
  | stat
  | moveAside
  | publish (movedAside : Bool)
  | restore
  /-- Remove the marker of an apply that fails. -/
  | unmark (error : ApplyError)
  | sync
  | returned (error : Option ApplyError)
deriving DecidableEq

/-- A call of `Apply`. -/
structure Apply where
  artifact : Artifact
  release : String
  point : ApplyPoint := .verify

/-- The marker `Apply` writes. -/
def Apply.marker (apply : Apply) (path : String) : Marker :=
  { release := apply.release, previous := previousPath path, artifact := apply.artifact.name }

/-- One file operation of `Apply`: the disk, and where the call is then. -/
def Apply.step (digest : Bytes → Bytes) (path : String) (apply : Apply) (disk : Disk) (io : Io) :
    Disk × ApplyPoint :=
  let name := apply.artifact.name
  let marked := { disk with marker := some (.record (apply.marker path)) }
  match apply.point with
  | .verify =>
    match disk.staged name, io with
    | some content, .ok =>
      match verifyArtifact digest apply.artifact content with
      | .ok _ => (disk, .mark)
      | .error error => (disk, .returned (some (.artifact error)))
    | _, _ => (disk, .returned (some .reopen))
  | .mark =>
    match io with
    | .ok => (marked, .stat)
    | .unsynced => (marked, .unmark .marker)
    | .failed => (disk, .unmark .marker)
  | .stat =>
    match io, disk.target with
    | .ok, some _ => (disk, .moveAside)
    | .ok, none => (disk, .publish false)
    | _, _ => (disk, .unmark .stat)
  | .moveAside =>
    match io, disk.target with
    | .ok, some binary => ({ disk with target := none, previous := some binary }, .publish true)
    | _, _ => (disk, .unmark .moveAside)
  | .publish movedAside =>
    match io, disk.staged name with
    | .ok, some content =>
      ({ disk with target := some content, staged := Function.update disk.staged name none },
        .sync)
    | _, _ => (disk, if movedAside then .restore else .unmark .publish)
  | .restore =>
    match io, disk.previous with
    | .ok, some binary => ({ disk with target := some binary, previous := none }, .unmark .publish)
    | _, _ => (disk, .returned (some .publishUnrestored))
  | .unmark error =>
    (if io = .ok then { disk with marker := none } else disk, .returned (some error))
  | .sync => (disk, .returned none)
  | .returned error => (disk, .returned error)

/-- `Confirm`: a marker that has not started is left alone. -/
def confirm (disk : Disk) (read remove : Io) : Disk :=
  match read, readMarker disk.marker with
  | .ok, some marker => if marker.started ∧ remove = .ok then { disk with marker := none } else disk
  | _, _ => disk

/-- The file operations of one `CheckStartup`. -/
structure StartupIo where
  read : Io := .ok
  stat : Io := .ok
  claim : Io := .ok
  demote : Io := .ok
  clear : Io := .ok

inductive Startup where
  /-- The process goes on. -/
  | go
  | demoted (release : String)
  /-- The previous binary is back, and the marker could not be cleared. -/
  | uncleared
  | failed
deriving DecidableEq

/-- The previous binary was put back at the target. -/
def Startup.demotes : Startup → Bool
  | .demoted _ | .uncleared => true
  | _ => false

def clearMarker (disk : Disk) (io : Io) : Disk :=
  if io = .ok then { disk with marker := none } else disk

/-- What a start makes of the marker. -/
def checkStartup (disk : Disk) (io : StartupIo) : Disk × Startup :=
  match io.read, readMarker disk.marker with
  | .ok, none => (disk, .go)
  | .ok, some marker =>
    if disk.previous = none ∨ io.stat ≠ .ok then
      (clearMarker disk io.clear, if io.clear = .ok then .go else .failed)
    else if !marker.started then
      -- The applied release's first start claims the marker.
      let claimed := { disk with marker := some (.record { marker with started := true }) }
      (if io.claim = .failed then disk else claimed, if io.claim = .ok then .go else .failed)
    else if io.demote ≠ .ok then (disk, .failed)
    else
      (clearMarker { disk with target := disk.previous, previous := none } io.clear,
        if io.clear = .ok then .demoted marker.release else .uncleared)
  | _, _ => (disk, .failed)

theorem isSome_readMarker (file : Option MarkerFile) : (readMarker file).isSome = file.isSome := by
  rcases file with _ | _ | _ <;> rfl

/-- What a start leaves: only the marker changes, or the kept binary goes back to the target. -/
theorem checkStartup_cases (disk : Disk) (io : StartupIo) :
    (∃ marker, (checkStartup disk io).1 = { disk with marker } ∧
      (checkStartup disk io).2.demotes = false ∧
      (marker.isSome → disk.marker.isSome)) ∨
    (∃ binary, disk.previous = some binary ∧ disk.marker.isSome ∧
      (checkStartup disk io).2.demotes ∧
      (checkStartup disk io).1 =
        clearMarker { disk with target := some binary, previous := none } io.clear) := by
  have unchanged : ∃ marker, disk = { disk with marker } ∧ Startup.demotes .failed = false ∧
      (marker.isSome → disk.marker.isSome) := ⟨disk.marker, rfl, rfl, id⟩
  unfold checkStartup
  cases read : io.read with
  | failed | unsynced => exact .inl unchanged
  | ok =>
    have present := isSome_readMarker disk.marker
    cases found : readMarker disk.marker with
    | none => exact .inl unchanged
    | some =>
      rw [found] at present
      by_cases gone : disk.previous = none ∨ io.stat ≠ .ok
      · simp only [if_pos gone, clearMarker]
        split_ifs
        · exact .inl ⟨none, rfl, rfl, nofun⟩
        · exact .inl unchanged
      · simp only [if_neg gone]
        obtain ⟨binary, kept⟩ := Option.ne_none_iff_exists'.mp (not_or.mp gone).1
        split_ifs
        all_goals first
          | exact .inl unchanged
          | exact .inl ⟨some _, rfl, rfl, fun _ => present.symm⟩
          | exact .inr ⟨binary, kept, present.symm, rfl, by rw [kept]⟩

end Bacchus.Update
