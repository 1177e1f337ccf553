import Bacchus.Semantics.Machine
import Bacchus.Update.Apply

/-!
# What a demotion puts back

Histories of `Apply` calls that may be cut by a crash anywhere, starts, and confirmations. A
demotion puts back what the apply on probation has replaced, as long as no apply is cut short
while a binary of an earlier update is still kept.
-/

namespace Bacchus.Update

open Option List Function Machine

/-- The files, the running `Apply`, and what the history remembers of it. -/
structure History where
  disk : Disk := {}
  applying : Option Apply := none
  /-- What the running `Apply` found at the target when it was called. -/
  found : Option Bytes := none
  /-- The running `Apply` has installed its marker. -/
  marked : Bool := false
  /-- What was at the target immediately before the `Apply` that wrote the last marker. -/
  replaced : Option Bytes := none

inductive UpdateLabel where
  /-- A file is staged under an artifact's name. -/
  | stage (name : String) (content : Bytes)
  | apply (artifact : Artifact) (release : String)
  /-- The next file operation of the running `Apply`. -/
  | proceed (io : Io)
  | crash
  | start (io : StartupIo)
  | confirm (read remove : Io)

/-- The running `Apply` is about to install its marker, and does. -/
def Apply.installs (apply : Apply) (io : Io) : Bool := apply.point = .mark ∧ io ≠ .failed

def ApplyPoint.running (apply : Apply) : ApplyPoint → Option Apply
  | .returned _ => none
  | point => some { apply with point }

/-- The next file operation of the running `Apply`. -/
def History.proceed (digest : Bytes → Bytes) (path : String) (history : History) (apply : Apply)
    (io : Io) : History :=
  let (disk, point) := apply.step digest path history.disk io
  { history with
    disk
    applying := point.running apply
    marked := history.marked || apply.installs io
    replaced := if apply.installs io then history.found else history.replaced }

/-- Self-updates of one target. Nothing is on probation initially. -/
def updates (digest : Bytes → Bytes) (path : String) : Machine History UpdateLabel where
  initial history := history.disk.marker = none ∧ history.applying = none
  step history
    | .stage name content =>
      let staged := update history.disk.staged name (some content)
      some { history with disk := { history.disk with staged } }
    | .apply artifact release =>
      if history.applying = none then
        some { history with
          applying := some { artifact, release }
          found := history.disk.target
          marked := false }
      else none
    | .proceed io => history.applying.map fun apply => history.proceed digest path apply io
    | .crash => if history.applying = none then none else some { history with applying := none }
    | .start io =>
      if history.applying = none then
        some { history with disk := (checkStartup history.disk io).1 }
      else none
    | .confirm read remove => some { history with disk := confirm history.disk read remove }

/-- The binary beside a marker is the one the apply on probation replaced. -/
def Kept (history : History) : Prop :=
  history.disk.marker.isSome →
    history.disk.previous = none ∨ history.disk.previous = history.replaced

/-- What the running `Apply` has established. Between its marker and the move aside, the binary kept
may be an earlier update's. -/
def Underway (history : History) : ApplyPoint → Prop
  | .verify | .mark =>
    history.marked = false ∧ Kept history ∧ history.found = history.disk.target ∧
      (history.disk.target = none → history.disk.previous = none)
  | .stat =>
    history.marked ∧ history.replaced = history.disk.target ∧
      (history.disk.target = none → history.disk.previous = none)
  | .moveAside => history.marked ∧ history.replaced = history.disk.target
  | .unmark _ => Kept history ∨ history.marked ∧ history.replaced = history.disk.target
  | _ => Kept history

/-- The invariant of every history. -/
def Accountable (history : History) : Prop :=
  match history.applying with
  | none => Kept history
  | some apply => Underway history apply.point

/-- No binary is kept, or it is the one at the target. -/
def Disk.Spare (disk : Disk) : Prop := disk.previous = none ∨ disk.previous = disk.target

/-- The running `Apply` has its marker and has not moved the current binary aside. -/
def History.exposed (history : History) : Bool :=
  history.marked && history.applying.any fun apply =>
    match apply.point with
    | .stat | .moveAside | .unmark _ => true
    | _ => false

/-- The marker of an apply that fails is about to be removed, and is not. -/
def History.strands (history : History) (io : Io) : Bool :=
  history.applying.any fun apply =>
    match apply.point with
    | .unmark _ => io ≠ .ok
    | _ => false

/-- No `Apply` is called without a binary at the target while an earlier one is kept, and none is
cut short between its marker and the move aside, or leaves its marker, while a different binary is
kept. -/
def careful (history : History) : UpdateLabel → Prop
  | .apply _ _ => history.disk.target = none → history.disk.previous = none
  | .crash => history.exposed → history.disk.Spare
  | .proceed io => history.exposed → history.strands io → history.disk.Spare
  | _ => True

section

variable {digest : Bytes → Bytes} {path : String} {history next : History} {apply : Apply}

/-- The invariant looks at the marker, the target and the kept binary. -/
theorem Accountable.marker (accountable : Accountable history) {disk : Disk}
    (target : disk.target = history.disk.target) (prev : disk.previous = history.disk.previous)
    (marker : disk.marker.isSome → history.disk.marker.isSome) :
    Accountable { history with disk } := by
  have kept : Kept history → Kept { history with disk } := by
    intro kept present
    simp only [prev]
    exact kept (marker present)
  unfold Accountable at *
  cases running : history.applying with
  | none =>
    rw [running] at accountable
    exact kept accountable
  | some apply =>
    simp only [running] at accountable ⊢
    cases point : apply.point <;> rw [point] at accountable
    case verify | mark =>
      obtain ⟨unmarked, before, found, empty⟩ := accountable
      refine ⟨unmarked, kept before, found.trans target.symm, fun gone => ?_⟩
      exact prev.trans (empty (target.symm.trans gone))
    case stat =>
      obtain ⟨marked, replaced, empty⟩ := accountable
      refine ⟨marked, replaced.trans target.symm, fun gone => ?_⟩
      exact prev.trans (empty (target.symm.trans gone))
    case moveAside => exact ⟨accountable.1, accountable.2.trans target.symm⟩
    case unmark error =>
      rcases accountable with before | ⟨marked, replaced⟩
      · exact .inl (kept before)
      · exact .inr ⟨marked, replaced.trans target.symm⟩
    case publish _ | restore | sync | returned _ => exact kept accountable

/-- A confirmation keeps both binaries and writes no marker. -/
theorem confirm_kept (disk : Disk) (read remove : Io) :
    (confirm disk read remove).target = disk.target ∧
      (confirm disk read remove).previous = disk.previous ∧
      ((confirm disk read remove).marker.isSome → disk.marker.isSome) := by
  unfold confirm
  split
  · split_ifs
    · exact ⟨rfl, rfl, nofun⟩
    · exact ⟨rfl, rfl, id⟩
  · exact ⟨rfl, rfl, id⟩

/-- Only the operation that writes the marker is remembered. -/
theorem proceed_eq (digest : Bytes → Bytes) (path : String)
    (other : apply.point ≠ .mark) (io : Io) :
    history.proceed digest path apply io = { history with
        disk := (apply.step digest path history.disk io).1
        applying := (apply.step digest path history.disk io).2.running apply } := by
  have quiet : apply.installs io = false := by simp [Apply.installs, other]
  simp [History.proceed, quiet]

theorem Underway.proceed {io : Io} (underway : Underway history apply.point)
    (met : history.exposed → history.strands io → history.disk.Spare)
    (running : history.applying = some apply) :
    Accountable (history.proceed digest path apply io) := by
  obtain ⟨_, _, point⟩ := apply
  cases point with
  | verify =>
    rw [proceed_eq digest path (by simp)]
    simp only [Apply.step]
    split
    · split
      · exact underway
      · exact underway.2.1
    · exact underway.2.1
  | mark =>
    obtain ⟨_, kept, found, empty⟩ := underway
    cases io with
    | ok => exact ⟨by simp [History.proceed, Apply.installs], found, empty⟩
    | unsynced => exact .inr ⟨by simp [History.proceed, Apply.installs], found⟩
    | failed => exact .inl kept
  | stat =>
    obtain ⟨marked, replaced, empty⟩ := underway
    rw [proceed_eq digest path (by simp)]
    simp only [Apply.step]
    split
    · exact ⟨marked, replaced⟩
    · next gone => exact fun _ => .inl (empty gone)
    · exact .inr ⟨marked, replaced⟩
  | moveAside =>
    obtain ⟨marked, replaced⟩ := underway
    rw [proceed_eq digest path (by simp)]
    simp only [Apply.step]
    split
    · next binary present => exact fun _ => .inr (present.symm.trans replaced.symm)
    · exact .inr ⟨marked, replaced⟩
  | publish movedAside =>
    rw [proceed_eq digest path (by simp)]
    simp only [Apply.step]
    split
    · exact underway
    · cases movedAside with
      | true => exact underway
      | false => exact .inl underway
  | restore =>
    rw [proceed_eq digest path (by simp)]
    simp only [Apply.step]
    split
    · exact .inl fun _ => .inl rfl
    · exact underway
  | unmark =>
    rw [proceed_eq digest path (by simp)]
    simp only [Apply.step]
    split_ifs with removed
    · exact nofun
    · rcases underway with kept | ⟨marked, replaced⟩
      · exact kept
      · -- The marker stays, and so does whatever was kept beside it.
        have spare : history.disk.Spare := by
          apply met
          · simp [History.exposed, marked, running]
          · simp [History.strands, running, removed]
        exact fun _ => spare.imp id fun same => same.trans replaced.symm
  | sync | returned => exact underway

theorem Underway.crash (underway : Underway history apply.point)
    (running : history.applying = some apply)
    (met : history.exposed → history.disk.Spare) :
    Accountable { history with applying := none } := by
  have cut : history.marked → history.replaced = history.disk.target →
      history.exposed → Kept history := by
    intro _ replaced exposed _
    exact (met exposed).imp id fun same => same.trans replaced.symm
  unfold History.exposed at cut
  rw [running] at cut
  cases point : apply.point <;> rw [point] at underway
  case verify | mark => exact underway.2.1
  case stat => exact cut underway.1 underway.2.1 (by simp [underway.1, point])
  case moveAside => exact cut underway.1 underway.2 (by simp [underway.1, point])
  case unmark error =>
    rcases underway with kept | ⟨marked, replaced⟩
    · exact kept
    · exact cut marked replaced (by simp [marked, point])
  case publish _ | restore | sync | returned _ => exact underway

/-- A start keeps the invariant: what it puts back, it no longer keeps. -/
theorem Kept.start (kept : Kept history) (io : StartupIo) :
    Kept { history with disk := (checkStartup history.disk io).1 } := by
  rcases checkStartup_cases history.disk io with
    ⟨marker, after, _, present⟩ | ⟨binary, _, _, _, after⟩
  · intro marked
    simp only [after] at marked ⊢
    exact kept (present marked)
  · intro _
    left
    simp only [after, clearMarker]
    split_ifs <;> rfl

/-- Every step keeps the binaries accounted for. -/
theorem Accountable.step {label : UpdateLabel} (accountable : Accountable history)
    (met : careful history label)
    (moves : (updates digest path).step history label = some next) : Accountable next := by
  cases label <;> simp only [updates] at moves
  case stage name content =>
    cases moves
    exact accountable.marker rfl rfl id
  case apply artifact release =>
    split_ifs at moves with idle
    cases moves
    unfold Accountable at accountable
    rw [idle] at accountable
    exact ⟨rfl, accountable, rfl, met⟩
  case proceed io =>
    obtain ⟨apply, running, rfl⟩ := map_eq_some_iff.mp moves
    unfold Accountable at accountable
    rw [running] at accountable
    exact Underway.proceed accountable met running
  case crash =>
    split_ifs at moves with idle
    cases moves
    obtain ⟨apply, running⟩ := ne_none_iff_exists'.mp idle
    unfold Accountable at accountable
    rw [running] at accountable
    exact accountable.crash running met
  case start io =>
    split_ifs at moves with idle
    cases moves
    unfold Accountable at accountable ⊢
    rw [idle] at accountable ⊢
    exact accountable.start io
  case confirm read remove =>
    cases moves
    obtain ⟨target, prev, marker⟩ := confirm_kept history.disk read remove
    exact accountable.marker target prev marker

/-- If every apply is careful, a demotion puts back what was at the target just before the apply
that wrote the marker. -/
theorem demotion_restores_replaced {labels : List UpdateLabel}
    (runs : (updates digest path).Runs careful labels history) {io : StartupIo}
    (transition : (updates digest path).step history (.start io) = some next)
    (demotes : (checkStartup history.disk io).2.demotes = true) :
    ∃ binary, history.replaced = some binary ∧ next.disk.target = some binary := by
  have accountable : Accountable history := by
    refine runs.invariant ?_ fun holds met step => holds.step met step
    rintro start ⟨unmarked, idle⟩
    unfold Accountable
    rw [idle]
    intro marked
    rw [unmarked] at marked
    cases marked
  simp only [updates] at transition
  split_ifs at transition with idle
  cases transition
  unfold Accountable at accountable
  rw [idle] at accountable
  rcases checkStartup_cases history.disk io with ⟨_, _, stays, _⟩ | ⟨binary, kept, marked, _, after⟩
  · rw [stays] at demotes
    cases demotes
  · refine ⟨binary, ?_, ?_⟩
    · rcases accountable marked with none | same
      · rw [none] at kept
        cases kept
      · exact same.symm.trans kept
    · simp only [after, clearMarker]
      split_ifs <;> rfl

end

/-- The manifest row of a node binary. -/
def nodeRow (digest : Bytes → Bytes) (content : Bytes) : Artifact :=
  { os := "linux", arch := "amd64", role := "node", size := content.length,
    sha256 := digest content }

/-- A release is staged and its `Apply` is called. -/
def offer (digest : Bytes → Bytes) (content : Bytes) (release : String) : List UpdateLabel :=
  [.stage (nodeRow digest content).name content, .apply (nodeRow digest content) release]

/-- So many file operations of the running `Apply` succeed. -/
def operations (count : Nat) : List UpdateLabel := replicate count (.proceed .ok)

/-- A release is applied, started and confirmed; the next apply is cut short after its marker, and
the confirmed release restarts. -/
def cutAfterMarker (digest : Bytes → Bytes) : List UpdateLabel :=
  offer digest [2] "1.1.0" ++ operations 6 ++ [.start {}, .confirm .ok .ok] ++
    offer digest [3] "1.2.0" ++ operations 2 ++ [.crash, .start {}]

/-- An apply is cut short after the move aside, and the next one finds no target. -/
def cutAfterMove (digest : Bytes → Bytes) : List UpdateLabel :=
  offer digest [2] "1.1.0" ++ operations 4 ++ [.crash] ++ offer digest [3] "1.2.0" ++
    operations 5 ++ [.start {}]

def installed : History := { disk := { target := some [1] } }

/-- A row made from the content fits it. -/
theorem verifyArtifact_nodeRow (digest : Bytes → Bytes) (content : Bytes) :
    verifyArtifact digest (nodeRow digest content) content = .ok () := by
  have whole : content.take (content.length + 1) = content :=
    take_of_length_le (Nat.le_succ _)
  simp [verifyArtifact, nodeRow, whole]

section

variable {digest : Bytes → Bytes} {path : String} {history : History} {content old : Bytes}
  {release : String}

/-- A release is staged, and its `Apply` has got as far as its marker. -/
def History.marking (digest : Bytes → Bytes) (path : String) (history : History) (content : Bytes)
    (release : String) : History where
  disk := { history.disk with
    staged := update history.disk.staged (nodeRow digest content).name (some content)
    marker := some (.record (Apply.marker { artifact := nodeRow digest content, release } path)) }
  applying := some { artifact := nodeRow digest content, release, point := .stat }
  found := history.disk.target
  marked := true
  replaced := history.disk.target

theorem follow_marking (idle : history.applying = none) :
    (updates digest path).follow history (offer digest content release ++ operations 2) =
      some (history.marking digest path content release) := by
  obtain ⟨_, applying, _, _, _⟩ := history
  cases idle
  simp only [offer, operations, replicate, cons_append, nil_append, follow,
    updates, bind_some, if_true, map_some, History.proceed, Apply.step,
    update_self, verifyArtifact_nodeRow, ApplyPoint.running, Apply.installs]
  rfl

theorem follow_movedAside (target : history.disk.target = some old) :
    (updates digest path).follow (history.marking digest path content release) (operations 2) =
      some { history.marking digest path content release with
        disk := { (history.marking digest path content release).disk with
          target := none, previous := some old }
        applying := some
          { artifact := nodeRow digest content, release, point := .publish true } } := by
  simp only [operations, replicate, follow, updates, bind_some, map_some,
    History.marking, History.proceed, Apply.step, target, ApplyPoint.running, Apply.installs]
  rfl

theorem follow_published {moved : Bool} (running : history.applying =
      some { artifact := nodeRow digest content, release, point := .publish moved })
    (staged : history.disk.staged (nodeRow digest content).name = some content) :
    (updates digest path).follow history (operations 2) = some { history with
        disk := { history.disk with
          target := some content
          staged := update history.disk.staged (nodeRow digest content).name none }
        applying := none } := by
  obtain ⟨disk, applying, _, _, _⟩ := history
  cases running
  replace staged : disk.staged (nodeRow digest content).name = some content := staged
  simp only [operations, replicate, follow, updates, bind_some, map_some,
    History.proceed, Apply.step, staged, ApplyPoint.running, Apply.installs, Bool.or_false,
    decide_false, reduceCtorEq, false_and, Bool.false_eq_true, if_false]

theorem follow_unmoved (target : history.disk.target = none) :
    (updates digest path).follow (history.marking digest path content release) (operations 1) =
      some { history.marking digest path content release with
        applying := some
          { artifact := nodeRow digest content, release, point := .publish false } } := by
  simp only [operations, replicate, follow, updates, bind_some, map_some,
    History.marking, History.proceed, Apply.step, target, ApplyPoint.running, Apply.installs]
  rfl

theorem follow_confirmed {marker : Marker} (idle : history.applying = none)
    (marked : history.disk.marker = some (.record marker)) (fresh : marker.started = false)
    (kept : history.disk.previous = some old) :
    (updates digest path).follow history [.start {}, .confirm .ok .ok] =
      some { history with disk := { history.disk with marker := none } } := by
  simp [follow, updates, idle, checkStartup, marked, readMarker, kept, fresh, confirm]

/-- An `Apply` cut short after its marker leaves what starts next on probation. -/
theorem follow_interrupted (kept : history.disk.previous = some old) :
    (updates digest path).follow (history.marking digest path content release) [.crash, .start {}] =
      some { history.marking digest path content release with
        disk := { (history.marking digest path content release).disk with
          marker := some (.record { Apply.marker
            { artifact := nodeRow digest content, release } path with started := true }) }
        applying := none } := by
  simp [follow, updates, History.marking, checkStartup, readMarker, kept, Apply.marker]

theorem follow_crash {apply : Apply} (running : history.applying = some apply) :
    (updates digest path).follow history [.crash] = some { history with applying := none } := by
  simp [follow, updates, running]

theorem follow_start (idle : history.applying = none) :
    (updates digest path).follow history [.start {}] =
      some { history with disk := (checkStartup history.disk {}).1 } := by
  simp [follow, updates, idle]

end

/-- The history ends in a start that puts `restored` back, although `replaced` was at the target
before the apply on probation. -/
def Demotes (digest : Bytes → Bytes) (path : String) (labels : List UpdateLabel)
    (replaced restored : Option Bytes) : Prop :=
  ∃ history next, (updates digest path).Runs Machine.free labels history ∧
    (updates digest path).step history (.start {}) = some next ∧
    (checkStartup history.disk {}).2.demotes ∧
    history.replaced = replaced ∧ next.disk.target = restored

theorem demotes_of_follow {digest : Bytes → Bytes} {path : String} {labels : List UpdateLabel}
    {replaced restored : Option Bytes}
    (reached : ∃ history, (updates digest path).follow installed labels = some history ∧
      history.applying = none ∧ (checkStartup history.disk {}).2.demotes ∧
      history.replaced = replaced ∧ (checkStartup history.disk {}).1.target = restored) :
    Demotes digest path labels replaced restored := by
  obtain ⟨history, followed, idle, demotes, before, after⟩ := reached
  refine ⟨history, { history with disk := (checkStartup history.disk {}).1 }, ?_, ?_, demotes,
    before, after⟩
  · exact .ofFollow ⟨rfl, rfl⟩ followed (meets_free _ _)
  · simp [updates, idle]

/-- Whatever the digest, the histories put back a binary an earlier update has left, the first over
a confirmed release. -/
theorem demotion_restores_older :
    (∀ digest path, Demotes digest path (cutAfterMarker digest) (some [2]) (some [1])) ∧
      ∀ digest path, Demotes digest path (cutAfterMove digest) none (some [1]) := by
  constructor
  · intro digest path
    apply demotes_of_follow
    have segments : cutAfterMarker digest =
        (offer digest [2] "1.1.0" ++ operations 2) ++ (operations 2 ++ (operations 2 ++
          ([.start {}, .confirm .ok .ok] ++ ((offer digest [3] "1.2.0" ++ operations 2) ++
            [.crash, .start {}])))) := rfl
    rw [segments, follow_append, follow_marking rfl, bind_some,
      follow_append, follow_movedAside rfl, bind_some,
      follow_append, follow_published rfl (update_self ..), bind_some,
      follow_append, follow_confirmed rfl rfl rfl rfl, bind_some,
      follow_append, follow_marking rfl, bind_some, follow_interrupted rfl]
    exact ⟨_, rfl, rfl, rfl, rfl, rfl⟩
  · intro digest path
    apply demotes_of_follow
    have segments : cutAfterMove digest =
        (offer digest [2] "1.1.0" ++ operations 2) ++ (operations 2 ++ ([.crash] ++
          ((offer digest [3] "1.2.0" ++ operations 2) ++ (operations 1 ++ (operations 2 ++
            [.start {}]))))) := rfl
    rw [segments, follow_append, follow_marking rfl, bind_some,
      follow_append, follow_movedAside rfl, bind_some,
      follow_append, follow_crash rfl, bind_some,
      follow_append, follow_marking rfl, bind_some,
      follow_append, follow_unmoved rfl, bind_some,
      follow_append, follow_published rfl (update_self ..), bind_some,
      follow_start rfl]
    exact ⟨_, rfl, rfl, rfl, rfl, rfl⟩

/-- A release that never confirms is demoted to the one replaced. -/
def crashLoop (digest : Bytes → Bytes) : List UpdateLabel :=
  offer digest [2] "1.1.0" ++ operations 6 ++ [.start {}]

/-- A file operation that succeeds is careful. -/
theorem careful_proceed_ok (history : History) : careful history (.proceed .ok) := by
  intro _ strands
  obtain ⟨_, _, stranded⟩ := (any_eq_true _ _).mp strands
  split at stranded <;> cases stranded

theorem meets_crashLoop (digest : Bytes → Bytes) (path : String) :
    (updates digest path).Meets careful installed (crashLoop digest) := by
  refine ⟨trivial, nofun, meets_of_forall (fun history label member => ?_) _⟩
  rcases mem_append.mp member with operation | start
  · rw [eq_of_mem_replicate operation]
    exact careful_proceed_ok history
  · rw [mem_singleton.mp start]
    trivial

/-- Whatever the digest, the crash loop ends with the replaced binary. -/
theorem crash_loop_restores_replaced : ∃ binary, ∀ digest path, ∃ history next,
    (updates digest path).Runs careful (crashLoop digest) history ∧
      (updates digest path).step history (.start {}) = some next ∧
      (checkStartup history.disk {}).2.demotes = true ∧
      history.replaced = some binary ∧ next.disk.target = some binary := by
  refine ⟨[1], fun digest path => ?_⟩
  have reached : ∃ history, (updates digest path).follow installed (crashLoop digest) =
    some history ∧
      history.applying = none ∧ (checkStartup history.disk {}).2.demotes ∧
        history.replaced = some [1] := by
    have segments : crashLoop digest =
        (offer digest [2] "1.1.0" ++ operations 2) ++ (operations 2 ++ (operations 2 ++
          [.start {}])) := rfl
    rw [segments, follow_append, follow_marking rfl, bind_some,
      follow_append, follow_movedAside rfl, bind_some,
      follow_append, follow_published rfl (update_self ..), bind_some,
      follow_start rfl]
    exact ⟨_, rfl, rfl, rfl, rfl⟩
  obtain ⟨history, followed, idle, demotes, before⟩ := reached
  have runs : (updates digest path).Runs careful (crashLoop digest) history :=
    .ofFollow ⟨rfl, rfl⟩ followed (meets_crashLoop digest path)
  have transition : (updates digest path).step history (.start {}) =
      some { history with disk := (checkStartup history.disk {}).1 } := by
    simp [updates, idle]
  obtain ⟨_, replaced, restored⟩ := demotion_restores_replaced runs transition demotes
  obtain rfl := some.inj (before.symm.trans replaced)
  exact ⟨history, _, runs, transition, demotes, before, restored⟩

end Bacchus.Update
