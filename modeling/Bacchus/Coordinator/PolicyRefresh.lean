import Bacchus.Policy.Document
import Bacchus.Storage.Ratchet

/-!
# The policy a coordinator enforces

`refreshPolicyOnce` of `cmd/coordinator` over a run: anything may be fetched, every read of the
state file may fail, and a restart begins again from that file.
-/

namespace Bacchus.Coordinator

open Admission (Time)
open SignedPolicy List Delegation Ratchet

/-- The state of the refresh loop, with the file it persists to. -/
structure PolicyLoop where
  held : Option Authorised := none
  minSeq : Nat := 0
  disk : Ratchet.Disk Nat := .missing

inductive PolicyLabel where
  /-- A tick, with the oracle for revoked delegations and what was fetched, if anything. -/
  | refresh (now : Time) (revoked : String → Bool) (fetched : Option Bytes) (reads writes : Bool)
  /-- A new process, which restores the file. -/
  | restart (now : Time) (revoked : String → Bool) (reads : Bool)

variable (verifier : Verifier)

/-- A policy past its deadline is no longer held. -/
def PolicyLoop.ageOut (state : PolicyLoop) (now : Time) : PolicyLoop :=
  { state with held := state.held.filter fun held => now < held.policy.deadline }

/-- `refreshPolicyOnce`. -/
def PolicyLoop.refresh (state : PolicyLoop) (now : Time) (revoked : String → Bool)
    (fetched : Option Bytes) (reads writes : Bool) : PolicyLoop :=
  let state := state.ageOut now
  match fetched with
  | none => state
  | some data =>
    match verifier.accept data now state.minSeq revoked with
    | .error _ => state
    | .ok authorised =>
      let minSeq := max state.minSeq authorised.policy.seq
      { held := some authorised
        minSeq
        disk := store 0 state.disk data minSeq reads writes }

/-- `startPolicy`, up to its loop. -/
def PolicyLoop.restart (state : PolicyLoop) (now : Time) (revoked : String → Bool) (reads : Bool) :
    PolicyLoop :=
  let loaded := load 0 (fun data floor => (verifier.accept data now floor revoked).toOption)
    reads state.disk
  { held := loaded.2, minSeq := loaded.1, disk := state.disk }

/-- Refreshes and restarts, from a coordinator that never stored anything. -/
def policyLoop : Machine PolicyLoop PolicyLabel where
  initial state := state = {}
  step state
    | .refresh now revoked fetched reads writes =>
      some (state.refresh verifier now revoked fetched reads writes)
    | .restart now revoked reads => some (state.restart verifier now revoked reads)

variable {verifier} {state : PolicyLoop} {now : Time} {revoked : String → Bool}
  {fetched : Option Bytes} {reads writes : Bool}

/-- What one refresh does: the held policy only ages, or the fetched bundle is installed and
stored. -/
theorem refresh_cases :
    ((∀ data, fetched = some data → ∀ authorised,
        verifier.accept data now state.minSeq revoked ≠ .ok authorised) ∧
      state.refresh verifier now revoked fetched reads writes = state.ageOut now) ∨
    ∃ data authorised, fetched = some data ∧
      verifier.accept data now state.minSeq revoked = .ok authorised ∧
      state.refresh verifier now revoked fetched reads writes =
        { held := some authorised
          minSeq := max state.minSeq authorised.policy.seq
          disk := store 0 state.disk data (max state.minSeq authorised.policy.seq)
            reads writes } := by
  cases fetched with
  | none => exact .inl ⟨fun data absent => absurd absent (by simp), rfl⟩
  | some data =>
    have floor : (state.ageOut now).minSeq = state.minSeq := rfl
    cases accepted : verifier.accept data now state.minSeq revoked with
    | error =>
      refine .inl ⟨?_, by simp [PolicyLoop.refresh, floor, accepted]⟩
      rintro _ ⟨⟩ authorised verified
      rw [accepted] at verified
      cases verified
    | ok authorised =>
      refine .inr ⟨data, authorised, rfl, accepted, ?_⟩
      simp only [PolicyLoop.refresh, floor, accepted]
      rfl

variable {authorised : Authorised}

theorem held_ageOut :
    (state.ageOut now).held = some authorised ↔
      state.held = some authorised ∧ now < authorised.policy.deadline := by
  simp [PolicyLoop.ageOut, Option.filter_eq_some_iff]

/-- After a refresh, the certificate behind the held policy is live at that time if and only if the
fetched bundle verifies, or the certificate behind a policy held from before and not past its
deadline is live. -/
theorem held_policy_authorised_iff (verifier : Verifier) (state : PolicyLoop) (now : Time)
    (revoked : String → Bool) (fetched : Option Bytes) (reads writes : Bool) :
    (∀ authorised, (state.refresh verifier now revoked fetched reads writes).held =
      some authorised →
      authorised.cert.Live now revoked) ↔
    (∃ data authorised, fetched = some data ∧
      verifier.accept data now state.minSeq revoked = .ok authorised) ∨
    ∀ authorised, state.held = some authorised → now < authorised.policy.deadline →
      authorised.cert.Live now revoked := by
  rcases @refresh_cases verifier state now revoked fetched reads writes with
    ⟨refused, unchanged⟩ | ⟨data, authorised, served, accepted, installed⟩
  · rw [unchanged]
    constructor
    · intro live
      refine .inr fun authorised held enforceable => ?_
      exact live authorised (held_ageOut.mpr ⟨held, enforceable⟩)
    · rintro (⟨data, authorised, served, accepted⟩ | live) authorised held
      · exact absurd accepted (refused data served _)
      · obtain ⟨held, enforceable⟩ := held_ageOut.mp held
        exact live authorised held enforceable
  · rw [installed]
    refine iff_of_true ?_ (.inl ⟨data, authorised, served, accepted⟩)
    rintro _ ⟨⟩
    exact (accepted_of_accept accepted).live

/-- The certificate of the delegate, good for a thousand seconds. -/
def policyCert : Delegation.Cert where
  version := version
  serial := "d1"
  role := rolePolicy
  pub := replicate 32 0
  notBefore := 0
  notAfter := 10 ^ 12

/-- A policy good for a day, with a week of grace. -/
def policyOf (seq : Nat) : Policy where
  version := policyVersion
  seq := seq
  issued := 0
  expires := 86400 * 10 ^ 9
  grace := 7 * 86400 * 10 ^ 9
  serveFloor := ⟨"0.0.0", 0, 0⟩
  vouch := ⟨1, 0, 10 ^ 9, 0, 0⟩
  tiers := [⟨"stable", "", 0, 0, 0⟩]

/-- A verifier to which a bundle of so many bytes holds the policy of that sequence. -/
def countingVerifier : Verifier where
  scheme := ⟨fun _ _ _ => true, fun _ => some policyCert⟩
  decodeBundle data := some ⟨data ++ replicate 64 0, replicate 65 0⟩
  unmarshal body := some (policyOf body.length)
  rootPub := replicate 32 0

theorem validate_policyOf {seq : Nat} (counted : seq ≠ 0) : (policyOf seq).validate = .ok () := by
  have release : checkServingVersion "0.0.0" = .ok () := rfl
  simp only [Policy.validate, policyOf, counted, Json.zeroTime, release, validateTiers,
    TierLimit.validate]
  rfl

theorem accept_counting {data : Bytes} {now : Time} {floor : Nat} (filled : data ≠ [])
    (begun : 0 ≤ now) (live : now < 10 ^ 12) (high : floor ≤ data.length) :
    countingVerifier.accept data now floor (fun _ => false) =
      .ok ⟨policyOf data.length, policyCert⟩ := by
  have parsed : countingVerifier.parseBundle data =
      .ok ⟨data ++ replicate 64 0, replicate 65 0⟩ := by
    simp [Verifier.parseBundle, countingVerifier, filled, replicate_succ]
  have cert : verifyDelegationCert countingVerifier.scheme countingVerifier.rootPub
      (replicate 65 0) rolePolicy now (fun _ => false) = .ok policyCert := by
    apply verifyDelegationCert_eq_ok_iff.mpr
    have skewed : 0 - clockSkew ≤ now := Int.le_trans (by decide) begun
    exact ⟨rfl, rfl, rfl, rfl, skewed, live⟩
  have opened : countingVerifier.open policyCert (data ++ replicate 64 0) =
      .ok (policyOf data.length) := by
    simp [Verifier.open, openSigned, countingVerifier, policyCert, filled]
  have valid := validate_policyOf (length_pos_iff.mpr filled).ne'
  have skew : 0 - clockSkew ≤ 0 := by decide
  have early : ¬ now < (policyOf data.length).issued - clockSkew :=
    Int.not_lt.mpr (Int.le_trans skew begun)
  have grace : (10 : Int) ^ 12 < 86400 * 10 ^ 9 + 7 * 86400 * 10 ^ 9 := by decide
  have late : ¬ (policyOf data.length).deadline ≤ now := Int.not_le.mpr (Int.lt_trans live grace)
  have below : ¬ (policyOf data.length).seq < floor := Nat.not_lt.mpr high
  simp only [Verifier.accept, parsed, Verifier.verify, cert, opened, Policy.acceptable, valid,
    if_neg early, if_neg late, if_neg below]

theorem first_refresh {data : Bytes} (filled : data ≠ []) :
    (policyLoop countingVerifier).step {} (.refresh 1 (fun _ => false) (some data) true true) =
      some ⟨some ⟨policyOf data.length, policyCert⟩, data.length,
        .record ⟨recordVersion, data.length, data⟩⟩ := by
  have accepted : countingVerifier.accept data 1 0 (fun _ => false) =
      .ok ⟨policyOf data.length, policyCert⟩ :=
    accept_counting filled (by decide) (by decide) (Nat.zero_le _)
  simp [policyLoop, PolicyLoop.refresh, PolicyLoop.ageOut, accepted, policyOf, store,
    peek]

/-- A refresh that succeeds, and one after the certificate's expiry whose fetch fails. -/
theorem policy_outlives_certificate : ∃ state next,
    (policyLoop countingVerifier).Runs Machine.free
      [.refresh 1 (fun _ => false) (some [0]) true true] state ∧
    (policyLoop countingVerifier).step state
      (.refresh 2000000000000 (fun _ => false) none true true) = some next ∧
    next.held = some ⟨policyOf 1, policyCert⟩ ∧
    ¬ policyCert.Live 2000000000000 (fun _ => false) := by
  have start : (policyLoop countingVerifier).Runs Machine.free [] {} := .initial rfl
  have first := first_refresh (cons_ne_nil 0 [])
  exact ⟨_, _, start.step trivial first, rfl, by decide, by decide⟩

/-- Every write of the state file succeeds. -/
def WritesSucceed (_ : PolicyLoop) : PolicyLabel → Prop
  | .refresh _ _ _ _ writes => writes
  | .restart .. => True

/-- The file's floor is at least the sequence of the held policy and of that in its own bundle. -/
structure Ratcheted (verifier : Verifier) (state : PolicyLoop) : Prop where
  remembered : ∀ authorised, state.held = some authorised → authorised.policy.seq ≤ state.minSeq
  persisted : ∀ authorised, state.held = some authorised →
    ∃ record, state.disk = .record record ∧ authorised.policy.seq ≤ record.floor
  coherent : ∀ record, state.disk = .record record → ∀ now floor revoked authorised,
    verifier.accept record.bundle now floor revoked = .ok authorised →
    authorised.policy.seq ≤ record.floor

theorem ratcheted_ageOut (ratcheted : Ratcheted verifier state) :
    Ratcheted verifier (state.ageOut now) where
  remembered authorised held := ratcheted.remembered authorised (held_ageOut.mp held).1
  persisted authorised held := ratcheted.persisted authorised (held_ageOut.mp held).1
  coherent := ratcheted.coherent

theorem ratcheted_refresh (ratcheted : Ratcheted verifier state) :
    Ratcheted verifier (state.refresh verifier now revoked fetched reads true) := by
  rcases @refresh_cases verifier state now revoked fetched reads true with
    ⟨_, unchanged⟩ | ⟨data, authorised, _, accepted, installed⟩
  · rw [unchanged]
    exact ratcheted_ageOut ratcheted
  · rw [installed]
    have stored : authorised.policy.seq ≤
        max (peek 0 reads state.disk) (max state.minSeq authorised.policy.seq) :=
      (Nat.le_max_right _ _).trans (Nat.le_max_right _ _)
    constructor
    · rintro _ ⟨⟩
      exact Nat.le_max_right _ _
    · rintro _ ⟨⟩
      exact ⟨_, rfl, stored⟩
    · rintro record ⟨⟩ later floor others other again
      rw [(accepted_of_accept again).unique (accepted_of_accept accepted)]
      exact stored

/-- What a restart holds verifies from the file, at the floor it starts from. -/
theorem restored_of_restart
    (held : (state.restart verifier now revoked reads).held = some authorised) :
    ∃ record, state.disk = .record record ∧
      record.floor = (state.restart verifier now revoked reads).minSeq ∧
      verifier.accept record.bundle now record.floor revoked = .ok authorised := by
  obtain ⟨record, onDisk, floor, verified⟩ := record_of_load (Prod.ext rfl held)
  refine ⟨record, onDisk, floor, ?_⟩
  rw [floor]
  generalize verifier.accept record.bundle now _ revoked = result at verified
  cases result with
  | error => cases verified
  | ok => exact congrArg Except.ok (Option.some.inj verified)

theorem ratcheted_restart (ratcheted : Ratcheted verifier state) :
    Ratcheted verifier (state.restart verifier now revoked reads) := by
  constructor
  · intro authorised held
    obtain ⟨record, onDisk, floor, accepted⟩ := restored_of_restart held
    rw [← floor]
    exact ratcheted.coherent record onDisk _ _ _ _ accepted
  · intro authorised held
    obtain ⟨record, onDisk, _, accepted⟩ := restored_of_restart held
    exact ⟨record, onDisk, ratcheted.coherent record onDisk _ _ _ _ accepted⟩
  · exact ratcheted.coherent

theorem ratcheted_of_runs {labels : List PolicyLabel}
    (runs : (policyLoop verifier).Runs WritesSucceed labels state) : Ratcheted verifier state := by
  refine runs.invariant ?_ ?_
  · rintro _ rfl
    constructor
    · intro authorised held
      cases held
    · intro authorised held
      cases held
    · intro record onDisk
      cases onDisk
  · intro before label after ratcheted written moves
    cases label with
    | refresh =>
      cases written
      cases moves
      exact ratcheted_refresh ratcheted
    | restart =>
      cases moves
      exact ratcheted_restart ratcheted

/-- A refresh or restart does not lower the sequence of the held policy. -/
theorem seq_le_of_step (ratcheted : Ratcheted verifier state) {label : PolicyLabel}
    {next : PolicyLoop} (moves : (policyLoop verifier).step state label = some next)
    {before after : Authorised} (held : state.held = some before) (later : next.held = some after) :
    before.policy.seq ≤ after.policy.seq := by
  cases label with
  | refresh now revoked fetched reads writes =>
    cases moves
    rcases @refresh_cases verifier state now revoked fetched reads writes with
      ⟨_, unchanged⟩ | ⟨data, authorised, _, accepted, installed⟩
    · rw [unchanged] at later
      cases held.symm.trans (held_ageOut.mp later).1
      exact Nat.le_refl _
    · rw [installed] at later
      cases later
      exact (ratcheted.remembered before held).trans (accepted_of_accept accepted).floored
  | restart =>
    cases moves
    obtain ⟨_, onDisk, _, accepted⟩ := restored_of_restart later
    obtain ⟨_, sameDisk, bounded⟩ := ratcheted.persisted before held
    cases onDisk.symm.trans sameDisk
    exact bounded.trans (accepted_of_accept accepted).floored

/-- In every run of refreshes and restarts whose writes succeed, whatever is fetched: after a
refresh the held policy is within its deadline, a step that leaves a policy held does not lower its
sequence, and a fetch or a bundle that fails leaves exactly the held policy, if it is within its
deadline. -/
theorem held_policy_ratchets {labels : List PolicyLabel} {state next : PolicyLoop}
    {label : PolicyLabel} (runs : (policyLoop verifier).Runs WritesSucceed labels state)
    (transition : (policyLoop verifier).step state label = some next) :
    (∀ now revoked fetched reads writes, label = .refresh now revoked fetched reads writes →
      (∀ authorised, next.held = some authorised → now < authorised.policy.deadline) ∧
      ((∀ data, fetched = some data → ∀ authorised,
          verifier.accept data now state.minSeq revoked ≠ .ok authorised) →
        next.held = state.held.filter fun held => now < held.policy.deadline)) ∧
    (∀ before after, state.held = some before → next.held = some after →
      before.policy.seq ≤ after.policy.seq) := by
  constructor
  · rintro now revoked fetched reads writes rfl
    cases transition
    rcases @refresh_cases verifier state now revoked fetched reads writes with
      ⟨_, unchanged⟩ | ⟨data, authorised, served, accepted, installed⟩
    · rw [unchanged]
      exact ⟨fun authorised held => (held_ageOut.mp held).2, fun _ => rfl⟩
    · rw [installed]
      constructor
      · rintro _ ⟨⟩
        exact (accepted_of_accept accepted).enforceable
      · intro refused
        exact absurd accepted (refused data served _)
  · intro before after held later
    exact seq_le_of_step (ratcheted_of_runs runs) transition held later

/-- Two generations are published and the older one is served again. -/
theorem older_bundle_is_refused : ∃ state next,
    (policyLoop countingVerifier).Runs WritesSucceed
      [.refresh 1 (fun _ => false) (some [0, 0]) true true] state ∧
    (policyLoop countingVerifier).step state (.refresh 2 (fun _ => false) (some [0]) true true) =
      some next ∧ next.held = some ⟨policyOf 2, policyCert⟩ := by
  have start : (policyLoop countingVerifier).Runs WritesSucceed [] {} := .initial rfl
  have first := first_refresh (cons_ne_nil 0 [0])
  have written : WritesSucceed {} (.refresh 1 (fun _ => false) (some [0, 0]) true true) := rfl
  refine ⟨_, _, start.step written first, rfl, ?_⟩
  apply ((held_policy_ratchets (start.step written first) rfl).1 2 (fun _ => false) (some [0]) true
    true rfl).2
  rintro _ ⟨⟩ authorised accepted
  have older : countingVerifier.accept [0] 1 0 (fun _ => false) = .ok ⟨policyOf 1, policyCert⟩ :=
    accept_counting (by decide) (by decide) (by decide) (Nat.zero_le _)
  have floored := (accepted_of_accept accepted).floored
  rw [(accepted_of_accept accepted).unique (accepted_of_accept older)] at floored
  exact absurd floored (by decide)

end Bacchus.Coordinator
