import Bacchus.Update.Demotion
import Bacchus.Update.Updater

/-!
# What the updater keeps

One process that calls `Check` any number of times. The running build is compared with the
manifest, while the binary moved aside is whatever is at the target. The two are the same until
the process has applied a release.
-/

namespace Bacchus.Update

/-- The process: its files, and the binaries that have run. -/
structure Process where
  files : Files
  ran : List Bytes
  /-- The process has applied a release. -/
  applied : Bool := false

inductive ProcessLabel where
  | check (offer : Offer)
  | confirm (read remove : Io)

/-- One process, started from the target; what is kept has run. -/
def process (cfg : Config) (trust : Trust) : Machine Process ProcessLabel where
  initial process :=
    process.applied = false ∧
      (∃ running ∈ process.ran, process.files.disk.target = some running) ∧
      ∀ binary ∈ process.files.disk.previous, binary ∈ process.ran
  step process
    | .check offer =>
      let checked := check cfg trust process.files offer
      some { process with
        files := checked.files
        applied := process.applied || checked.outcome.applied }
    | .confirm read remove =>
      let disk := confirm process.files.disk read remove
      some { process with files := { process.files with disk } }

/-- The release of the manifest the source offers, if its signatures open. -/
def Offer.release (trust : Trust) (offer : Offer) : Option String :=
  match offer.manifest.map (parseBundle trust) with
  | some (.ok bundle) =>
    match openManifest trust bundle offer.now with
    | .ok manifest => some manifest.release
    | .error _ => none
  | _ => none

/-- The source offers a release newer than the running build. -/
def Offer.newer (cfg : Config) (trust : Trust) (offer : Offer) : Bool :=
  match cfg.self, (offer.release trust).map Version.parse with
  | .ok self, some (.ok theirs) => 0 < theirs.compare self
  | _, _ => false

/-- Once it has applied a release, it is offered nothing newer than its build. -/
def restrained (cfg : Config) (trust : Trust) (process : Process) : ProcessLabel → Prop
  | .check offer => process.applied = false ∨ offer.newer cfg trust = false
  | .confirm _ _ => True

instance (cfg : Config) (trust : Trust) (process : Process) :
    DecidablePred (restrained cfg trust process)
  | .check _ => inferInstanceAs (Decidable (_ ∨ _))
  | .confirm _ _ => inferInstanceAs (Decidable True)

section

variable {digest : Bytes → Bytes} {path : String} {ran : List Bytes} {apply : Apply} {disk : Disk}

/-- The staged file has been renamed onto the target. -/
def ApplyPoint.published : ApplyPoint → Bool
  | .sync | .returned none => true
  | _ => false

/-- What is kept has run, and so has the target until the staged file is there. -/
structure Vetted (ran : List Bytes) (disk : Disk) (published : Bool) : Prop where
  previous : ∀ binary ∈ disk.previous, binary ∈ ran
  target : published = false → ∀ binary ∈ disk.target, binary ∈ ran

theorem Vetted.step (vetted : Vetted ran disk apply.point.published) (io : Io) :
    Vetted ran (apply.step digest path disk io).1 (apply.step digest path disk io).2.published := by
  obtain ⟨_, _, point⟩ := apply
  obtain ⟨prev, target⟩ := vetted
  cases point with
  | verify | mark | stat | unmark =>
    have target := target rfl
    simp only [Apply.step]
    repeat' split
    all_goals exact ⟨prev, fun _ => target⟩
  | moveAside =>
    have target := target rfl
    simp only [Apply.step]
    split
    · next binary found =>
      rw [found] at target
      exact ⟨target, by rintro _ _ ⟨⟩⟩
    · exact ⟨prev, fun _ => target⟩
  | publish =>
    have target := target rfl
    simp only [Apply.step]
    split
    · exact ⟨prev, by rintro ⟨⟩⟩
    · exact ⟨prev, fun _ => target⟩
  | restore =>
    have target := target rfl
    simp only [Apply.step]
    split
    · next binary found =>
      rw [found] at prev
      exact ⟨by rintro _ ⟨⟩, fun _ => prev⟩
    · exact ⟨prev, fun _ => target⟩
  | sync => exact ⟨prev, by rintro ⟨⟩⟩
  | returned => exact ⟨prev, target⟩

theorem Vetted.weaken (vetted : Vetted ran disk false) (published : Bool) :
    Vetted ran disk published :=
  ⟨vetted.previous, fun _ => vetted.target rfl⟩

theorem Vetted.run (vetted : Vetted ran disk apply.point.published) (count : Nat)
    (answers : Nat → Io) :
    Vetted ran (apply.run digest path count disk answers).1
      (apply.run digest path count disk answers).2.published := by
  induction count generalizing apply disk answers with
  | zero => exact vetted
  | succ count ih => exact ih (vetted.step (answers 0)) _

end

section

variable {cfg : Config} {trust : Trust} {io : CheckIo} {ran : List Bytes} {files : Files}
  {outcome : Outcome} {artifact : Artifact} {manifest : Manifest}

/-- What a `Check` leaves at both paths has run, unless it applied a release. -/
def Checked.Vetted (checked : Checked) (ran : List Bytes) : Prop :=
  Update.Vetted ran checked.files.disk checked.outcome.applied

variable (vetted : Vetted ran files.disk false) (serve : Artifact → Option Bytes)

include vetted

theorem vetted_publish (release : String) :
    (publish cfg trust io files outcome artifact release).Vetted ran := by
  have after := @Vetted.run trust.digest cfg.target ran { artifact, release } files.disk vetted
    applyOperations io.apply
  unfold publish
  simp only
  split_ifs with done
  · exact ⟨after.previous, nofun⟩
  · obtain ⟨error, returned⟩ := @apply_returns trust.digest cfg.target
      { artifact, release } files.disk io.apply
    refine ⟨after.previous, fun _ => after.target ?_⟩
    rw [returned] at done ⊢
    cases error with
    | none => exact absurd rfl done
    | some => rfl

theorem vetted_staged :
    Vetted ran (stage trust.digest serve artifact files.disk io.stage).1 false := by
  unfold stage
  split
  · exact ⟨vetted.previous, vetted.target⟩
  · exact vetted

theorem vetted_fetchAndPublish :
    (fetchAndPublish cfg trust io serve files outcome manifest artifact).Vetted ran := by
  have staged := @vetted_staged trust io ran files artifact vetted serve
  unfold fetchAndPublish
  cases result : stage trust.digest serve artifact files.disk io.stage with
  | mk disk failed =>
    rw [result] at staged
    cases failed with
    | some => exact staged.weaken _
    | none =>
      simp only
      split
      · exact staged.weaken _
      · split_ifs
        · exact staged.weaken _
        · exact vetted_publish staged _

theorem vetted_acquire (pending : Option Pending) :
    (acquire cfg trust io serve files pending manifest artifact).Vetted ran := by
  unfold acquire
  split_ifs
  · exact vetted.weaken _
  · exact vetted_publish vetted _
  · exact vetted_fetchAndPublish vetted serve

theorem vetted_consider (self : Version) (pending : Option Pending) :
    (consider cfg trust io self serve files pending manifest).Vetted ran := by
  unfold consider
  split
  · exact vetted.weaken _
  · split_ifs
    · exact vetted.weaken _
    · split
      · exact vetted.weaken _
      · apply vetted_acquire
        exact vetted

theorem vetted_check (offer : Offer) : (check cfg trust files offer).Vetted ran := by
  unfold check
  split
  · exact vetted.weaken _
  · split_ifs
    · exact vetted.weaken _
    · simp only
      split
      · exact vetted.weaken _
      · split
        · exact vetted.weaken _
        · exact vetted_consider vetted _ _ _

omit vetted in
/-- A `Check` that is offered nothing newer leaves both binaries alone. -/
theorem check_not_newer {offer : Offer} (old : offer.newer cfg trust = false) :
    (check cfg trust files offer).files.disk = files.disk := by
  unfold check
  cases current : cfg.self with
  | error => rfl
  | ok self =>
    by_cases gated : offer.gated
    · simp [gated]
    cases offered : offer.manifest with
    | none => simp [gated]
    | some raw =>
      simp only [gated]
      cases parsed : parseBundle trust raw with
      | error => rfl
      | ok bundle =>
        simp only [Except.bind]
        cases verified : verify trust bundle offer.now
            (files.state.read offer.io.load).1.minSeq with
        | error => rfl
        | ok manifest =>
          have opened := (verify_ok verified).1
          have release : offer.release trust = some manifest.release := by
            simp [Offer.release, offered, parsed, opened]
          simp only [Offer.newer, current, release, Option.map_some] at old
          unfold consider
          cases theirs : Version.parse manifest.release with
          | error => simp [theirs]
          | ok version =>
            rw [theirs] at old
            have below : version.compare self ≤ 0 :=
              Int.not_lt.mp (of_decide_eq_false old)
            simp [theirs, below]

end

section

variable {cfg : Config} {trust : Trust} {labels : List ProcessLabel} {current next : Process}

/-- The invariant of the process. -/
def Process.Retains (current : Process) : Prop :=
  Vetted current.ran current.files.disk current.applied

theorem Process.Retains.step {label : ProcessLabel} (retains : current.Retains)
    (met : restrained cfg trust current label)
    (moves : (process cfg trust).step current label = some next) : next.Retains := by
  cases label with
  | check offer =>
    cases moves
    rcases met with fresh | old
    · have vetted : Vetted current.ran current.files.disk false := by
        rw [← fresh]
        exact retains
      have checked : (check cfg trust current.files offer).Vetted current.ran :=
        vetted_check vetted offer
      refine ⟨checked.previous, fun unapplied => checked.target ?_⟩
      simpa [fresh] using unapplied
    · have same : (check cfg trust current.files offer).files.disk = current.files.disk :=
        check_not_newer old
      refine ⟨?_, fun unapplied => ?_⟩
      · simp only [same]
        exact retains.previous
      · simp only [same]
        exact retains.target (by simp_all)
  | confirm read remove =>
    cases moves
    obtain ⟨target, prev, _⟩ := confirm_kept current.files.disk read remove
    constructor
    · simp only [prev]
      exact retains.previous
    · simp only [target]
      exact retains.target

/-- As long as a process that has applied a release is offered nothing newer than the build it runs,
the binary it keeps has run, and so has every binary a demotion puts back. -/
theorem kept_binary_has_run
    (runs : (process cfg trust).Runs (restrained cfg trust) labels current) :
    (∀ binary ∈ current.files.disk.previous, binary ∈ current.ran) ∧
      ∀ io, (checkStartup current.files.disk io).2.demotes = true →
        ∃ binary ∈ current.ran, (checkStartup current.files.disk io).1.target = some binary := by
  have retains : current.Retains := by
    refine runs.invariant ?_ fun holds met step => holds.step met step
    rintro start ⟨_, ⟨running, known, installed⟩, kept⟩
    refine ⟨kept, fun _ binary found => ?_⟩
    rw [installed] at found
    obtain rfl := Option.mem_some_iff.mp found
    exact known
  refine ⟨retains.previous, fun io demotes => ?_⟩
  rcases checkStartup_cases current.files.disk io with
    ⟨_, _, stays, _⟩ | ⟨binary, kept, _, _, after⟩
  · rw [stays] at demotes
    cases demotes
  · refine ⟨binary, retains.previous binary kept, ?_⟩
    simp only [after, clearMarker]
    split_ifs <;> rfl

end

/-- A stand-in for the digest, of the right length. -/
def padded (content : Bytes) : Bytes := (content ++ List.replicate digestSize 0).take digestSize

/-- The manifest of a release with one row, for a node. -/
def nodeRelease (seq : Nat) (release : String) (content : Bytes) : Manifest :=
  { version := manifestVersion, seq, release, issued := 1, expires := 10 ^ 18
    artifacts := [nodeRow padded content] }

/-- Every signature opens, and a manifest is named by one byte. -/
def openTrust : Trust where
  decodeBundle raw := some ⟨raw, [0]⟩
  delegate _ _ := some [0]
  openSigned _ signed := .ok signed
  decodeManifest body :=
    if body = [2] then some (nodeRelease 1 "1.1.0" [2]) else some (nodeRelease 2 "1.2.0" [3])
  digest := padded

def nodeConfig : Config :=
  { dir := "/usr/local/bin", base := "bacchus-node", os := "linux", arch := "amd64", role := "node"
    stamp := some { major := 1, minor := 0, patch := 0 } }

/-- The source offers the release of that content. -/
def offered (content : Bytes) : Offer :=
  { now := 1000, manifest := some content, serve := fun _ => some content }

/-- The build is running from the target, and nothing is kept. -/
def runningNode : Process := { files := { disk := { target := some [1] } }, ran := [[1]] }

theorem runningNode_initial : (process nodeConfig openTrust).initial runningNode :=
  ⟨rfl, ⟨[1], List.mem_singleton.mpr rfl, rfl⟩, nofun⟩

/-- Two releases are applied without a restart: the first, which never ran, is kept, and is what a
demotion puts back. -/
theorem keeps_binary_that_never_ran :
    ∃ current, (process nodeConfig openTrust).Runs Machine.free
        [.check (offered [2]), .check (offered [3])] current ∧
      current.applied = true ∧ current.files.disk.previous = some [2] ∧ [2] ∉ current.ran ∧
      (checkStartup (checkStartup current.files.disk {}).1 {}).2 = .demoted "1.2.0" ∧
      (checkStartup (checkStartup current.files.disk {}).1 {}).1.target = some [2] := by
  refine Machine.exists_runs runningNode_initial (Machine.meets_free _ _) ?_
  decide +kernel

/-- A process that has applied one release keeps the build it runs. -/
theorem one_release_keeps_running_build :
    ∃ current, (process nodeConfig openTrust).Runs (restrained nodeConfig openTrust)
        [.check (offered [2]), .confirm .ok .ok] current ∧ current.applied = true ∧
      (∀ binary ∈ current.files.disk.previous, binary ∈ current.ran) ∧
      ∀ io, (checkStartup current.files.disk io).2.demotes = true →
        ∃ binary ∈ current.ran, (checkStartup current.files.disk io).1.target = some binary := by
  obtain ⟨current, runs, applied⟩ : ∃ current, (process nodeConfig openTrust).Runs
      (restrained nodeConfig openTrust) [.check (offered [2]), .confirm .ok .ok] current ∧
        current.applied := by
    refine Machine.exists_runs runningNode_initial ?_ ?_ <;> decide +kernel
  exact ⟨current, runs, applied, kept_binary_has_run runs⟩

end Bacchus.Update
