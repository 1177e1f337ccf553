import Bacchus.Update.Retention

/-!
# The rollback floor

`RaiseFloor`, `SetPending` and `ClearPending` read the state file, change the record and write it
back, and none looks at whether the read has failed. A record that could not be read has the floor
zero, and is written back all the same.
-/

namespace Bacchus.Update

open Option

/-- The floor on disk. -/
def StateFile.floor : StateFile → Nat
  | .missing | .garbled => 0
  | .record stored => stored.minSeq

section

variable {file : StateFile} {reading writing : Io}

theorem minSeq_read_ok (file : StateFile) : (file.read .ok).1.minSeq = file.floor := by
  cases file with
  | missing | garbled => rfl
  | record =>
    simp only [StateFile.read]
    split <;> rfl

theorem minSeq_read_le (file : StateFile) (reading : Io) :
    (file.read reading).1.minSeq ≤ file.floor := by
  cases reading with
  | ok => exact Nat.le_of_eq (minSeq_read_ok file)
  | failed | unsynced => exact Nat.zero_le _

theorem minSeq_read_failed (file : StateFile) (failed : reading ≠ .ok) :
    (file.read reading).1.minSeq = 0 := by
  cases reading with
  | ok => exact absurd rfl failed
  | failed | unsynced => rfl

theorem floor_write (file : StateFile) (record : StateRecord) (raises : Bool) (writing : Io) :
    (file.write record raises writing).1.floor =
      if writing = .failed then file.floor else record.minSeq := by
  cases writing <;> rfl

/-- A read, a change that raises the floor to `seq`, and a write lower the floor exactly when the
read fails, the write does not, and `seq` is below. -/
theorem floor_rewritten {record : StateRecord} {raises : Bool} (seq : Nat)
    (changed : record.minSeq = max (file.read reading).1.minSeq seq) :
    file.floor ≤ (file.write record raises writing).1.floor ↔
      reading = .ok ∨ writing = .failed ∨ file.floor ≤ seq := by
  rw [floor_write]
  by_cases kept : writing = .failed
  · simp [kept]
  rw [if_neg kept, changed]
  by_cases read : reading = .ok
  · subst read
    rw [minSeq_read_ok]
    exact iff_of_true (Nat.le_max_left _ _) (.inl rfl)
  · rw [minSeq_read_failed file read]
    simp [kept, read]

theorem floor_raiseFloor (seq : Nat) :
    file.floor ≤ (file.raiseFloor seq reading writing).1.floor ↔
      reading = .ok ∨ writing = .failed ∨ file.floor ≤ seq :=
  floor_rewritten seq rfl

theorem floor_setPending (pending : Pending) :
    file.floor ≤ (file.setPending pending reading writing).1.floor ↔
      reading = .ok ∨ writing = .failed ∨ file.floor ≤ pending.seq :=
  floor_rewritten pending.seq rfl

theorem floor_clearPending (release : String) :
    file.floor ≤ (file.clearPending release reading writing).1.floor ↔
      reading = .ok ∨ writing = .failed ∨ file.floor ≤ 0 :=
  floor_rewritten 0 (Nat.max_zero _).symm

/-- A call that raises the floor to at least what is there puts that on disk. -/
theorem floor_rewritten_eq {record : StateRecord} {raises : Bool} {seq : Nat}
    (changed : record.minSeq = max (file.read reading).1.minSeq seq) (above : file.floor ≤ seq)
    (writes : writing ≠ .failed ∨ file.floor = seq) :
    (file.write record raises writing).1.floor = seq := by
  have found := minSeq_read_le file reading
  rw [floor_write]
  by_cases kept : writing = .failed
  · rw [if_pos kept]
    exact writes.resolve_left fun wrote => wrote kept
  · rw [if_neg kept, changed]
    omega

end

section

variable {cfg : Config} {trust : Trust} {io : CheckIo} {files : Files} {outcome : Outcome}
  {artifact : Artifact} {manifest : Manifest}

/-- Clearing the pending record does not write back a record that could not be read. -/
def CheckIo.ClearsSafely (io : CheckIo) : Prop := io.clearRead = .ok ∨ io.clearWrite = .failed

instance : DecidablePred CheckIo.ClearsSafely := fun _ => inferInstanceAs (Decidable (_ ∨ _))

theorem floor_publish (clears : io.ClearsSafely) (release : String) :
    (publish cfg trust io files outcome artifact release).files.state.floor =
      files.state.floor := by
  unfold publish
  simp only
  split_ifs
  · simp only [StateFile.clearPending, floor_write]
    split_ifs with failed
    · rfl
    · rw [clears.resolve_right failed, minSeq_read_ok]
  · rfl

theorem floor_setPending_eq {pending : Pending} (same : pending.seq = manifest.seq)
    (recorded : files.state.floor = manifest.seq) (reading writing : Io) :
    (files.state.setPending pending reading writing).1.floor = manifest.seq :=
  floor_rewritten_eq (by rw [← same]) recorded.le (.inr recorded)

theorem floor_fetchAndPublish (clears : io.ClearsSafely) (serve : Artifact → Option Bytes)
    (recorded : files.state.floor = manifest.seq) :
    (fetchAndPublish cfg trust io serve files outcome manifest artifact).files.state.floor =
      manifest.seq := by
  unfold fetchAndPublish
  split
  · exact recorded
  · simp only
    split
    · next state noted =>
      rw [← congrArg (fun result => result.1.floor) noted]
      exact floor_setPending_eq rfl recorded _ _
    · next state noted =>
      have floor : state.floor = manifest.seq := by
        rw [← congrArg (fun result => result.1.floor) noted]
        exact floor_setPending_eq rfl recorded _ _
      split_ifs
      · exact floor
      · exact (floor_publish clears _).trans floor

theorem floor_acquire (clears : io.ClearsSafely) (serve : Artifact → Option Bytes)
    (pending : Option Pending) (recorded : files.state.floor = manifest.seq) :
    (acquire cfg trust io serve files pending manifest artifact).files.state.floor =
      manifest.seq := by
  unfold acquire
  split_ifs
  · exact recorded
  · exact (floor_publish clears _).trans recorded
  · exact floor_fetchAndPublish clears serve recorded

/-- A manifest accepted at or above the floor becomes the floor, and the rest of `Check` keeps
it. -/
theorem floor_consider (clears : io.ClearsSafely) (self : Version)
    (serve : Artifact → Option Bytes) (pending : Option Pending)
    (above : files.state.floor ≤ manifest.seq)
    (writes : io.floorWrite ≠ .failed ∨ files.state.floor = manifest.seq) :
    (consider cfg trust io self serve files pending manifest).files.state.floor =
      manifest.seq := by
  have recorded : (files.state.raiseFloor manifest.seq io.floorRead io.floorWrite).1.floor =
      manifest.seq := floor_rewritten_eq rfl above writes
  unfold consider
  split
  · exact recorded
  · split_ifs
    · exact recorded
    · split
      · exact recorded
      · exact floor_acquire clears serve pending recorded

/-- The manifest a `Check` accepts, if it gets that far. -/
def accepts (cfg : Config) (trust : Trust) (files : Files) (offer : Offer) : Option Manifest :=
  match cfg.self with
  | .error _ => none
  | .ok _ =>
    if offer.gated then none
    else
      offer.manifest.bind fun raw =>
        ((parseBundle trust raw).bind fun bundle =>
          verify trust bundle offer.now (files.state.read offer.io.load).1.minSeq).toOption

/-- The sequence number of the manifest the source offers, if its signatures open. -/
def Offer.seq (trust : Trust) (offer : Offer) : Option Nat :=
  offer.manifest.bind fun raw =>
    ((parseBundle trust raw).bind fun bundle =>
      openManifest trust bundle offer.now).toOption.map Manifest.seq

/-- What a `Check` does: it accepts nothing and leaves the files, or goes on with the manifest it
accepts. -/
theorem check_cases (cfg : Config) (trust : Trust) (files : Files) (offer : Offer) :
    accepts cfg trust files offer = none ∧ (check cfg trust files offer).files = files ∨
      ∃ manifest self pending, accepts cfg trust files offer = some manifest ∧
        check cfg trust files offer =
          consider cfg trust offer.io self offer.serve files pending manifest := by
  unfold accepts check
  cases cfg.self with
  | error => exact .inl ⟨rfl, rfl⟩
  | ok self =>
    by_cases gated : offer.gated
    · exact .inl ⟨if_pos gated, by simp only [if_pos gated]⟩
    simp only [if_neg gated]
    cases offer.manifest with
    | none => exact .inl ⟨rfl, rfl⟩
    | some raw =>
      simp only [bind_some]
      cases verified : (parseBundle trust raw).bind fun bundle =>
          verify trust bundle offer.now (files.state.read offer.io.load).1.minSeq with
      | error => exact .inl ⟨rfl, rfl⟩
      | ok manifest => exact .inr ⟨manifest, self, _, rfl, rfl⟩

/-- What is accepted was offered, and is not below the floor read. -/
theorem accepts_some {offer : Offer} (accepted : accepts cfg trust files offer = some manifest) :
    offer.seq trust = some manifest.seq ∧
      (files.state.read offer.io.load).1.minSeq ≤ manifest.seq := by
  unfold accepts at accepted
  split at accepted
  · cases accepted
  · simp only [ite_none_left_eq_some] at accepted
    obtain ⟨raw, served, found⟩ := bind_eq_some_iff.mp accepted.2
    cases parsed : parseBundle trust raw with
    | error =>
      rw [parsed] at found
      cases found
    | ok bundle =>
      rw [parsed] at found
      change (verify trust bundle offer.now _).toOption = some manifest at found
      cases verified : verify trust bundle offer.now (files.state.read offer.io.load).1.minSeq with
      | error =>
        rw [verified] at found
        cases found
      | ok =>
        rw [verified] at found
        cases found
        obtain ⟨opened, acceptable⟩ := verify_ok verified
        refine ⟨?_, le_seq_of_acceptable acceptable⟩
        simp [Offer.seq, served, parsed, Except.bind, opened, Except.toOption]

end

/-- The files of a peer, and the sequence numbers accepted, newest first. -/
structure Peer where
  files : Files
  accepted : List Nat := []

inductive PeerLabel where
  /-- A check by whichever build runs at the time. -/
  | check (cfg : Config) (trust : Trust) (offer : Offer)
  | raiseFloor (seq : Nat) (reading writing : Io)
  | setPending (pending : Pending) (reading writing : Io)
  | clearPending (appliedRelease : String) (reading writing : Io)

def Peer.setState (peer : Peer) (state : StateFile) : Peer :=
  { peer with files := { peer.files with state } }

abbrev Peer.floor (peer : Peer) : Nat := peer.files.state.floor

/-- Checks and changes of the state file, from whatever files there are. -/
def peerUpdates : Machine Peer PeerLabel where
  initial peer := peer.accepted = []
  step peer
    | .check cfg trust offer => some {
        files := (check cfg trust peer.files offer).files
        accepted := ((accepts cfg trust peer.files offer).map Manifest.seq).toList ++
          peer.accepted }
    | .raiseFloor seq reading writing =>
      some (peer.setState (peer.files.state.raiseFloor seq reading writing).1)
    | .setPending pending reading writing =>
      some (peer.setState (peer.files.state.setPending pending reading writing).1)
    | .clearPending appliedRelease reading writing =>
      some (peer.setState (peer.files.state.clearPending appliedRelease reading writing).1)

/-- No failed read counts: one before a write is of a floor that the write does not lower, and a
check that cannot read, or record, is offered nothing below, or above, the floor. -/
def Steady (peer : Peer) : PeerLabel → Prop
  | .check _ trust offer =>
    (offer.io.load = .ok ∨ ((offer.seq trust).all fun seq => peer.floor ≤ seq)) ∧
      (offer.io.floorWrite ≠ .failed ∨
        ((offer.seq trust).all fun seq => seq ≤ peer.floor)) ∧
      offer.io.ClearsSafely
  | .raiseFloor seq reading writing => reading = .ok ∨ writing = .failed ∨ peer.floor ≤ seq
  | .setPending pending reading writing =>
    reading = .ok ∨ writing = .failed ∨ peer.floor ≤ pending.seq
  | .clearPending _ reading writing => reading = .ok ∨ writing = .failed ∨ peer.floor ≤ 0

instance (peer : Peer) : DecidablePred (Steady peer)
  | .check _ _ _ => inferInstanceAs (Decidable (_ ∧ _ ∧ _))
  | .raiseFloor _ _ _ | .setPending _ _ _ | .clearPending _ _ _ =>
      inferInstanceAs (Decidable (_ ∨ _ ∨ _))

section

variable {before after : Peer} {cfg : Config} {trust : Trust} {offer : Offer}

/-- A check that accepts a manifest leaves it as the floor, which it was not below. -/
theorem floor_check {manifest : Manifest} (steady : Steady before (.check cfg trust offer))
    (accepted : accepts cfg trust before.files offer = some manifest) :
    before.floor ≤ manifest.seq ∧
      (check cfg trust before.files offer).files.state.floor = manifest.seq := by
  obtain ⟨reads, writes, clears⟩ := steady
  obtain ⟨offered, verified⟩ := accepts_some accepted
  simp only [offered, all_some, decide_eq_true_eq] at reads writes
  have above : before.floor ≤ manifest.seq := by
    rcases reads with loaded | above
    · rw [loaded, minSeq_read_ok] at verified
      exact verified
    · exact above
  refine ⟨above, ?_⟩
  rcases check_cases cfg trust before.files offer with
    ⟨nothing, _⟩ | ⟨other, self, pending, same, considered⟩
  · rw [nothing] at accepted
    cases accepted
  · rw [same] at accepted
    cases accepted
    rw [considered]
    exact floor_consider clears self offer.serve pending above
      (writes.imp_right fun below => Nat.le_antisymm above below)

theorem floor_check_none (nothing : accepts cfg trust before.files offer = none) :
    (check cfg trust before.files offer).files.state.floor = before.floor := by
  rcases check_cases cfg trust before.files offer with
    ⟨_, same⟩ | ⟨manifest, self, pending, accepted, _⟩
  · rw [same]
  · rw [nothing] at accepted
    cases accepted

/-- What one step does to the floor. -/
theorem floor_step {label : PeerLabel} (steady : Steady before label)
    (moves : peerUpdates.step before label = some after) : before.floor ≤ after.floor := by
  cases label with
  | check cfg trust offer =>
    cases moves
    cases accepted : accepts cfg trust before.files offer with
    | none => exact (floor_check_none accepted).ge
    | some =>
      obtain ⟨above, floor⟩ := floor_check steady accepted
      exact above.trans_eq floor.symm
  | raiseFloor seq =>
    cases moves
    exact (floor_raiseFloor seq).mpr steady
  | setPending pending =>
    cases moves
    exact (floor_setPending pending).mpr steady
  | clearPending release =>
    cases moves
    exact (floor_clearPending release).mpr steady

/-- What was accepted is in order, and none of it is above the floor. -/
structure Peer.Ordered (peer : Peer) : Prop where
  inOrder : peer.accepted.Pairwise fun newer older => older ≤ newer
  recorded : ∀ seq ∈ peer.accepted, seq ≤ peer.floor

theorem Peer.Ordered.step {label : PeerLabel} (ordered : before.Ordered)
    (steady : Steady before label) (moves : peerUpdates.step before label = some after) :
    after.Ordered := by
  have raised := floor_step steady moves
  have kept : ∀ seq ∈ before.accepted, seq ≤ after.floor :=
    fun seq member => (ordered.recorded seq member).trans raised
  cases label with
  | check cfg trust offer =>
    cases moves
    cases accepted : accepts cfg trust before.files offer with
    | none => simpa [accepted] using ⟨ordered.inOrder, kept⟩
    | some manifest =>
      obtain ⟨above, floor⟩ := floor_check steady accepted
      have below : ∀ seq ∈ before.accepted, seq ≤ manifest.seq :=
        fun seq member => (ordered.recorded seq member).trans above
      refine ⟨?_, ?_⟩
      · simpa [accepted] using ⟨below, ordered.inOrder⟩
      · simpa [accepted, Peer.floor, floor] using below
  | raiseFloor seq reading writing | setPending pending reading writing
  | clearPending =>
    cases moves
    exact ⟨ordered.inOrder, kept⟩

/-- While no failed read or write counts, the floor on disk is never lowered, and no manifest
accepted below an earlier one. -/
theorem floor_never_falls {labels later : List PeerLabel}
    (runs : peerUpdates.Runs Steady labels before)
    (followed : peerUpdates.follow before later = some after)
    (met : peerUpdates.Meets Steady before later) :
    before.floor ≤ after.floor ∧ after.accepted.Pairwise fun newer older => older ≤ newer := by
  have ordered : after.Ordered := by
    refine (runs.follow followed met).invariant ?_ Peer.Ordered.step
    intro start none
    exact ⟨by rw [none]; exact .nil, by rw [none]; nofun⟩
  exact ⟨Machine.le_follow floor_step followed met, ordered.inOrder⟩

end

/-- A node that has never checked. -/
def freshPeer : Peer := { files := runningNode.files }

theorem initial_freshPeer : peerUpdates.initial freshPeer := rfl

/-- Release 1.1.0 has sequence number 1. -/
def checksFirst : PeerLabel := .check nodeConfig openTrust (offered [2])

/-- Release 1.2.0 has sequence number 2; its check cannot read the record it changes. -/
def checksSecond (reading : Io) : PeerLabel :=
  .check nodeConfig openTrust
    { offered [3] with io := { floorRead := reading, pendingRead := reading } }

/-- A read that fails before the floor is raised does not lower it. -/
theorem unread_record_keeps_floor :
    ∃ before after, peerUpdates.Runs Steady [checksFirst] before ∧
      peerUpdates.follow before [checksSecond .failed] = some after ∧
      before.floor = 1 ∧ after.accepted = [2, 1] ∧
      before.floor ≤ after.floor ∧ after.accepted.Pairwise fun newer older => older ≤ newer := by
  obtain ⟨before, runs, floor, met, more⟩ : ∃ before, peerUpdates.Runs Steady [checksFirst] before ∧
      before.floor = 1 ∧ peerUpdates.Meets Steady before [checksSecond .failed] ∧
        (peerUpdates.follow before [checksSecond .failed]).any (fun after =>
          after.accepted = [2, 1]) := by
    refine Machine.exists_runs initial_freshPeer ?_ ?_ <;> decide +kernel
  obtain ⟨after, followed, both⟩ := (any_eq_true _ _).mp more
  exact ⟨before, after, runs, followed, floor, of_decide_eq_true both,
    floor_never_falls runs followed met⟩

/-- The pending record is cleared while the state file cannot be read: the floor is gone, and the
older release accepted after the newer. -/
theorem unread_record_loses_floor :
    ∃ before after final, peerUpdates.Runs Machine.free [checksSecond .ok] before ∧
      peerUpdates.step before (.clearPending "" .failed .ok) = some after ∧
      before.floor = 2 ∧ after.floor = 0 ∧
      peerUpdates.step after checksFirst = some final ∧ final.accepted = [1, 2] := by
  have first : (peerUpdates.follow freshPeer [checksSecond .ok]).any (fun before =>
      before.floor = 2 ∧ (peerUpdates.step before (.clearPending "" .failed .ok)).any (fun after =>
          after.floor = 0 ∧ (peerUpdates.step after checksFirst).any (fun final =>
            final.accepted = [1, 2]))) := by
    decide +kernel
  obtain ⟨before, reached, holds⟩ := (any_eq_true _ _).mp first
  obtain ⟨high, cleared⟩ := of_decide_eq_true holds
  obtain ⟨after, forgot, rest⟩ := (any_eq_true _ _).mp cleared
  obtain ⟨low, rolled⟩ := of_decide_eq_true rest
  obtain ⟨final, accepted, both⟩ := (any_eq_true _ _).mp rolled
  exact ⟨before, after, final, .ofFollow initial_freshPeer reached (Machine.meets_free _ _),
    forgot, high, low,
    accepted, of_decide_eq_true both⟩

end Bacchus.Update
