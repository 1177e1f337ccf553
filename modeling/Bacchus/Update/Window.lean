import Bacchus.Update.Probation

/-!
# The target while an apply runs

What is at the target path between the file operations of one `Apply`. Between the move aside and
the rename onto the target nothing is there.
-/

namespace Bacchus.Update

/-- The content is all of what the manifest row describes. -/
def Artifact.Matches (digest : Bytes → Bytes) (artifact : Artifact) (content : Bytes) : Prop :=
  (content.length : Int) = artifact.size ∧ digest content = artifact.sha256

/-- The target holds the binary it held, or one that matches the manifest row. -/
def Disk.Intact (digest : Bytes → Bytes) (artifact : Artifact) (old : Bytes) (disk : Disk) : Prop :=
  ∃ binary, disk.target = some binary ∧ (binary = old ∨ artifact.Matches digest binary)

/-- One byte past the declared size shows that nothing is missing or follows. -/
theorem matches_of_verifyArtifact {digest : Bytes → Bytes} {artifact : Artifact} {content : Bytes}
    (verified : verifyArtifact digest artifact content = .ok ()) :
    artifact.Matches digest content := by
  unfold verifyArtifact at verified
  dsimp only at verified
  split_ifs at verified with size hash
  rw [not_not] at size hash
  rw [List.length_take] at size
  have whole : content.take (artifact.size + 1).toNat = content :=
    List.take_of_length_le (by omega)
  rw [whole] at hash
  exact ⟨by omega, hash⟩

section

variable {digest : Bytes → Bytes} {path : String} {old : Bytes} {apply : Apply} {disk : Disk}

/-- The file staged for an apply matches the manifest row. -/
def Apply.verifies (digest : Bytes → Bytes) (apply : Apply) (disk : Disk) : Bool :=
  (disk.staged apply.artifact.name).any fun content =>
    verifyArtifact digest apply.artifact content = .ok ()

/-- Where the files are at each point of an apply at a target with `old`. -/
def Placed (digest : Bytes → Bytes) (old : Bytes) (apply : Apply) (disk : Disk) : Prop :=
  match apply.point with
  | .verify => disk.target = some old
  | .mark | .stat | .moveAside => disk.target = some old ∧ apply.verifies digest disk
  | .publish movedAside =>
    movedAside ∧ disk.target = none ∧ disk.previous = some old ∧
      apply.verifies digest disk
  | .restore | .returned (some .publishUnrestored) => disk.target = none ∧ disk.previous = some old
  | .unmark error => error ≠ .publishUnrestored ∧ disk.target = some old
  | .sync | .returned none =>
    ∃ content, disk.target = some content ∧
      verifyArtifact digest apply.artifact content = .ok ()
  | .returned (some _) => disk.target = some old

/-- The points at which nothing is at the target. -/
def ApplyPoint.vacant : ApplyPoint → Bool
  | .publish _ | .restore | .returned (some .publishUnrestored) => true
  | _ => false

/-- Every operation keeps the binary somewhere. -/
theorem Placed.step (placed : Placed digest old apply disk) (io : Io) :
    Placed digest old { apply with point := (apply.step digest path disk io).2 }
      (apply.step digest path disk io).1 := by
  obtain ⟨_, _, point⟩ := apply
  cases point with
  | verify =>
    simp only [Apply.step]
    split
    · next content staged =>
      split
      · next verified => exact ⟨placed, by simp [Apply.verifies, staged, verified]⟩
      · exact placed
    · exact placed
  | mark =>
    cases io with
    | ok => exact placed
    | unsynced | failed => exact ⟨by decide, placed.1⟩
  | stat =>
    obtain ⟨target, verified⟩ := placed
    simp only [Apply.step, target]
    cases io with
    | ok => exact ⟨target, verified⟩
    | unsynced | failed => exact ⟨by decide, target⟩
  | moveAside =>
    obtain ⟨target, verified⟩ := placed
    simp only [Apply.step, target]
    cases io with
    | ok => exact ⟨rfl, rfl, rfl, verified⟩
    | unsynced | failed => exact ⟨by decide, target⟩
  | publish =>
    obtain ⟨moved, target, prev, verified⟩ := placed
    obtain ⟨content, staged, matching⟩ := (Option.any_eq_true _ _).mp verified
    simp only [Apply.step, moved, staged]
    cases io with
    | ok => exact ⟨content, rfl, of_decide_eq_true matching⟩
    | unsynced | failed => exact ⟨target, prev⟩
  | restore =>
    obtain ⟨target, prev⟩ := placed
    simp only [Apply.step, prev]
    cases io with
    | ok => exact ⟨by decide, rfl⟩
    | unsynced | failed => exact ⟨target, prev⟩
  | unmark error =>
    obtain ⟨restored, target⟩ := placed
    have kept : (if io = .ok then { disk with marker := none } else disk).target = some old := by
      split_ifs <;> exact target
    cases error with
    | publishUnrestored => exact absurd rfl restored
    | _ => exact kept
  | sync | returned => exact placed

/-- The files are where their point says after every number of operations. -/
theorem Placed.run (count : Nat) (answers : Nat → Io) (placed : Placed digest old apply disk) :
    Placed digest old { apply with point := (apply.run digest path count disk answers).2 }
      (apply.run digest path count disk answers).1 := by
  induction count generalizing apply disk answers with
  | zero => exact placed
  | succ count ih => exact ih (fun index => answers (index + 1)) (placed.step (answers 0))

/-- What is at the target is read off the point the apply is at. -/
theorem Placed.intact_iff (placed : Placed digest old apply disk) :
    disk.Intact digest apply.artifact old ↔ apply.point.vacant = false := by
  obtain ⟨artifact, _, point⟩ := apply
  have held : disk.target = some old → disk.Intact digest artifact old := fun target =>
    ⟨old, target, .inl rfl⟩
  have missing : disk.target = none → ¬disk.Intact digest artifact old := by
    rintro target ⟨binary, present, -⟩
    rw [target] at present
    cases present
  have published : (∃ content, disk.target = some content ∧
      verifyArtifact digest artifact content = .ok ()) → disk.Intact digest artifact old :=
    fun ⟨content, target, verified⟩ => ⟨content, target, .inr (matches_of_verifyArtifact verified)⟩
  cases point with
  | verify => exact iff_of_true (held placed) rfl
  | mark | stat | moveAside => exact iff_of_true (held placed.1) rfl
  | publish => exact iff_of_false (missing placed.2.1) Bool.noConfusion
  | restore => exact iff_of_false (missing placed.1) Bool.noConfusion
  | unmark => exact iff_of_true (held placed.2) rfl
  | sync => exact iff_of_true (published placed) rfl
  | returned error =>
    rcases error with _ | error
    · exact iff_of_true (published placed) rfl
    · cases error with
      | publishUnrestored => exact iff_of_false (missing placed.1) Bool.noConfusion
      | _ => exact iff_of_true (held placed) rfl

/-- While nothing is at the target, its binary is beside it. -/
theorem Placed.kept_of_vacant (placed : Placed digest old apply disk)
    (vacant : apply.point.vacant) : disk.previous = some old := by
  obtain ⟨_, _, point⟩ := apply
  cases point with
  | publish => exact placed.2.2.1
  | restore => exact placed.2
  | returned error =>
    rcases error with _ | error
    · cases vacant
    · cases error with
      | publishUnrestored => exact placed.2
      | _ => cases vacant
  | _ => cases vacant

/-- The next `count` file operations all succeed. -/
def succeeds : Nat → (Nat → Io) → Bool
  | 0, _ => true
  | count + 1, answers => answers 0 = .ok && succeeds count fun index => answers (index + 1)

/-- The current binary is going to be moved aside: the staged file matches its row, and every
operation up to the first rename succeeds. -/
def Apply.movesAside (digest : Bytes → Bytes) (apply : Apply) (disk : Disk) (answers : Nat → Io) :
    Bool :=
  match apply.point with
  | .verify => apply.verifies digest disk && succeeds 4 answers
  | .mark => succeeds 3 answers
  | .stat => succeeds 2 answers
  | .moveAside => succeeds 1 answers
  | _ => false

/-- An apply not going to move the binary aside is not after one operation more. -/
theorem Placed.stays {answers : Nat → Io} (placed : Placed digest old apply disk)
    (filled : apply.point.vacant = false) (stays : apply.movesAside digest disk answers = false) :
    (apply.step digest path disk (answers 0)).2.vacant = false ∧
      { apply with point := (apply.step digest path disk (answers 0)).2 }.movesAside digest
        (apply.step digest path disk (answers 0)).1 (fun index => answers (index + 1)) = false := by
  obtain ⟨artifact, release, point⟩ := apply
  cases point with
  | verify =>
    simp only [Apply.step]
    split
    · next content staged answer =>
      split
      · next verified =>
        have verifies : Apply.verifies digest ⟨artifact, release, .verify⟩ disk := by
          simp [Apply.verifies, staged, verified]
        refine ⟨rfl, ?_⟩
        simpa [Apply.movesAside, verifies, succeeds, answer] using stays
      · exact ⟨rfl, rfl⟩
    · exact ⟨rfl, rfl⟩
  | mark =>
    cases answer : answers 0 with
    | ok => exact ⟨rfl, by simpa [Apply.movesAside, Apply.step, succeeds, answer] using stays⟩
    | unsynced | failed => exact ⟨rfl, rfl⟩
  | stat =>
    simp only [Apply.step, placed.1]
    cases answer : answers 0 with
    | ok => exact ⟨rfl, by simpa [Apply.movesAside, succeeds, answer] using stays⟩
    | unsynced | failed => exact ⟨rfl, rfl⟩
  | moveAside =>
    cases answer : answers 0 with
    | ok => simp [Apply.movesAside, succeeds, answer] at stays
    | unsynced | failed => exact ⟨rfl, rfl⟩
  | publish | restore => cases filled
  | unmark error =>
    obtain ⟨restored, -⟩ := placed
    cases error with
    | publishUnrestored => exact absurd rfl restored
    | _ => exact ⟨rfl, rfl⟩
  | sync => exact ⟨rfl, rfl⟩
  | returned => exact ⟨filled, rfl⟩

theorem Placed.filled_of_stays (count : Nat) (answers : Nat → Io)
    (placed : Placed digest old apply disk) (filled : apply.point.vacant = false)
    (stays : apply.movesAside digest disk answers = false) :
    (apply.run digest path count disk answers).2.vacant = false := by
  induction count generalizing apply disk answers with
  | zero => exact filled
  | succ count ih =>
    obtain ⟨filled', stays'⟩ := @Placed.stays _ path _ _ _ _ placed filled stays
    exact ih _ (placed.step (answers 0)) filled' stays'

/-- Four operations of an apply that moves the binary leave nothing at the target. -/
theorem vacant_of_movesAside {artifact : Artifact} {release : String} {answers : Nat → Io}
    (target : disk.target = some old)
    (moves : Apply.movesAside digest { artifact, release } disk answers) :
    (Apply.run digest path 4 { artifact, release } disk answers).2.vacant := by
  simp only [Apply.movesAside, succeeds, Bool.and_eq_true, decide_eq_true_eq] at moves
  obtain ⟨verifies, verifying, marking, stating, moving, -⟩ := moves
  obtain ⟨_, staged, verified⟩ := (Option.any_eq_true _ _).mp verifies
  simp only [decide_eq_true_eq] at verified staged
  simp [Apply.run, Apply.step, verifying, marking, stating, moving, staged, verified, target,
    ApplyPoint.vacant]

end

/-- Between any two file operations of an apply, the target holds the old binary or a complete new
one, exactly when the apply never moves the old one aside. Whenever it holds neither, the old one is
at `.prev`. -/
theorem apply_intact_iff (digest : Bytes → Bytes) (path release : String) (artifact : Artifact)
    (disk : Disk) (old : Bytes) (answers : Nat → Io) (existed : disk.target = some old) :
    ((∀ count, (Apply.run digest path count { artifact, release } disk answers).1.Intact digest
        artifact old) ↔
      Apply.movesAside digest { artifact, release } disk answers = false) ∧
    ∀ count, ¬(Apply.run digest path count { artifact, release } disk answers).1.Intact digest
        artifact old →
      (Apply.run digest path count { artifact, release } disk answers).1.previous = some old := by
  have starts : Placed digest old { artifact, release } disk := existed
  have placed := fun count => @Placed.run digest path old _ disk count answers starts
  refine ⟨⟨fun intact => ?_, fun stays count => ?_⟩, fun count broken => ?_⟩
  · by_contra moves
    have filled := (placed 4).intact_iff.mp (intact 4)
    have vacant := @vacant_of_movesAside digest path old disk _ _ answers existed
      (eq_true_of_ne_false moves)
    exact Bool.noConfusion (filled.symm.trans vacant)
  · exact (placed count).intact_iff.mpr (starts.filled_of_stays count answers rfl stays)
  · refine (placed count).kept_of_vacant (eq_true_of_ne_false fun filled => ?_)
    exact broken ((placed count).intact_iff.mpr filled)

/-- The rename aside is refused and every other operation succeeds. -/
def refusingMove (index : Nat) : Io := if index = 3 then .failed else .ok

/-- An apply that cannot move the binary leaves it at the target. -/
theorem intact_refusingMove :
    (awaitingApply paddedDigest).target = some [1] ∧
    (∀ count, (Apply.run paddedDigest "/opt/node" count
        { artifact := nodeRow paddedDigest [2], release := "1.1.0" } (awaitingApply paddedDigest)
        refusingMove).1.Intact paddedDigest (nodeRow paddedDigest [2]) [1]) :=
  ⟨rfl, (apply_intact_iff paddedDigest "/opt/node" "1.1.0" (nodeRow paddedDigest [2])
    (awaitingApply paddedDigest) [1] refusingMove rfl).1.mpr (by
      simp [Apply.movesAside, succeeds, refusingMove])⟩

/-- After the fourth operation of an ordinary apply, nothing is at the target. -/
theorem missing_after_moveAside :
    (awaitingApply paddedDigest).target = some [1] ∧
    (Apply.run paddedDigest "/opt/node" 4
      { artifact := nodeRow paddedDigest [2], release := "1.1.0" } (awaitingApply paddedDigest)
      fun _ => .ok).1.target = none ∧
    ¬(Apply.run paddedDigest "/opt/node" 4
      { artifact := nodeRow paddedDigest [2], release := "1.1.0" } (awaitingApply paddedDigest)
      fun _ => .ok).1.Intact paddedDigest (nodeRow paddedDigest [2]) [1] := by
  have missing : (Apply.run paddedDigest "/opt/node" 4
      { artifact := nodeRow paddedDigest [2], release := "1.1.0" } (awaitingApply paddedDigest)
      fun _ => .ok).1.target = none := by
    simp [Apply.run, Apply.step, awaitingApply, verifyArtifact_nodeRow]
  refine ⟨rfl, missing, ?_⟩
  rintro ⟨binary, present, -⟩
  cases present

end Bacchus.Update
