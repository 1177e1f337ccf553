import Bacchus.Client.BringUp
import Bacchus.Semantics.Threads

/-!
# Addresses that are reserved or learned while the tunnel is up

An address is recorded under a mutex and installed afterwards. Of every recorded address the
route has been asked for and, under the kill-switch, the allowlist entry, or some call is still
about to ask for them.
-/

namespace Bacchus.Tunnel

open Client (Address Excluder Reserve)
open List Threads Option

/-- The call is a reservation. -/
def Call.reserves : Call → Bool
  | .reserve _ _ => true
  | .observe _ _ _ => false

/-- The addresses the call is about. -/
def Call.ips : Call → List Address
  | .reserve ips _ => ips
  | .observe handled rest _ => handled ++ rest

/-- The addresses it has recorded, or found recorded. -/
def Call.recorded : Call → List Address
  | .reserve _ (.entered _) => []
  | .reserve ips _ => ips
  | .observe handled _ _ => handled

def Call.returned : Call → Bool
  | .reserve _ .returned => true
  | .observe _ [] .between => true
  | _ => false

/-- The addresses whose route it has still to ask for. -/
def Call.installing : Call → List Address
  | .reserve _ (.excluding ip rest _) => ip :: rest
  | .reserve _ (.judging _ rest _) | .reserve _ (.reaping _ rest _)
  | .reserve _ (.allowing _ rest _) => rest
  | .observe _ _ (.carving ip _) => [ip]
  | _ => []

/-- The addresses it has still to add to the allowlist. -/
def Call.permitting : Call → List Address
  | .reserve _ (.excluding ip rest armed) | .reserve _ (.judging ip rest armed) =>
    if armed then ip :: rest else []
  | .reserve _ (.reaping _ rest armed) => if armed then rest else []
  | .reserve _ (.allowing ip rest armed) => ip :: if armed then rest else []
  | .observe _ _ (.carving ip armed) => if armed then [ip] else []
  | .observe _ _ (.allowing ip) => [ip]
  | _ => []

/-- It is about to take a route back. -/
def Call.reaps : Call → Bool
  | .reserve _ (.reaping _ _ _) => true
  | _ => false

/-- What is left has still to be routed. -/
@[simp] theorem installing_continue (ips rest : List Address) (armed : Bool) :
    (Call.reserve ips (.continue armed rest)).installing = rest := by
  cases rest <;> rfl

/-- Under the kill-switch it has still to be allowed. -/
@[simp] theorem permitting_continue (ips rest : List Address) (armed : Bool) :
    (Call.reserve ips (.continue armed rest)).permitting = if armed then rest else [] := by
  cases rest with
  | nil | cons => cases armed <;> rfl

@[simp] theorem reaps_continue (ips rest : List Address) (armed : Bool) :
    (Call.reserve ips (.continue armed rest)).reaps = false := by
  cases rest <;> rfl

/-- Everything has been recorded. -/
@[simp] theorem recorded_continue (ips rest : List Address) (armed : Bool) :
    (Call.reserve ips (.continue armed rest)).recorded = ips := by
  cases rest <;> rfl

def BringUp.rank : BringUp → Nat
  | .gateway => 0
  | .excludeControl => 1
  | .goLive => 2
  | .excludeBypass => 3
  | .createTUN => 4
  | .configure => 5
  | .capture => 6
  | .disableIPv6 => 7
  | .startNetstack => 8
  | .captureDNS => 9
  | .serve => 10
  | .arm => 11

/-- How far the session has come: through its bring-up, up, and on its way down. -/
def Main.rank : Main → Nat
  | .bringUp pc _ => pc.rank
  | .up => 12
  | _ => 13

/-- The session is past its kill-switch. -/
def Main.lifted : Main → Bool
  | .bringUp _ _ | .up | .closing .revoke | .closing .disarm => false
  | _ => true

/-- The rank from which the bypassed destinations are routed. -/
def Mode.carvedAt : Mode → Nat
  | .excluding => 4
  | .including => 7

/-- The routes a call asks for: around the tunnel, or into it. -/
def OsCall.carves : Mode → OsCall → List Address
  | .excluding, .addExclusionRoutes ips => ips
  | .including, .addInclusionRoutes ips => ips
  | _, _ => []

/-- Every address a route has been asked for. -/
def Os.requested (os : Os) (mode : Mode) : List Address := os.calls.flatMap (·.carves mode)

/-- The kind of route the call asks for. -/
def Call.mode (cfg : Config) : Call → Mode
  | .reserve _ _ => .excluding
  | .observe _ _ _ => cfg.mode

theorem requested_call (os : Os) (call : OsCall) (mode : Mode) :
    (os.call call).requested mode = os.requested mode ++ call.carves mode := by
  simp [Os.requested, Os.call]

variable {os : Os} {ip : Address}

theorem mem_requested_call {mode : Mode} (known : ip ∈ os.requested mode) (call : OsCall) :
    ip ∈ (os.call call).requested mode := by
  rw [requested_call]
  exact mem_append_left _ known

theorem mem_requested_self {call : OsCall} {mode : Mode} (asked : ip ∈ call.carves mode) (os : Os) :
    ip ∈ (os.call call).requested mode := by
  rw [requested_call]
  exact mem_append_right _ asked

theorem lockdown_include (os : Os) (ips : List Address) :
    (os.call (.addInclusionRoutes ips)).lockdown = os.lockdown := by
  unfold Os.call Os.apply
  split_ifs <;> rfl

/-- What the session has done by where it is. -/
structure Staged (cfg : Config) (state : State) : Prop where
  live : 3 ≤ state.main.rank → state.main.rank ≤ 12 → state.excluder.routesLive
  entries : 4 ≤ state.main.rank → state.main.rank ≤ 6 →
    state.entries = cfg.statics ++ state.policy.dynamic
  answering : state.answering → 9 ≤ state.main.rank
  late : state.os.lockdown.isSome → 12 ≤ state.main.rank
  armed : state.os.lockdown.isSome → state.excluder.routesLive ∧
    state.excluder.armed ∧ state.policy.armed
  switched : state.excluder.armed ∨ state.policy.armed → cfg.killSwitch
  arming : state.main = .up → cfg.killSwitch → state.os.lockdown.isSome
  lifted : state.main.lifted → state.os.lockdown = none
  closed : state.excluder.closed → state.main.rank = 13 ∧ state.main.lifted

/-- What holds of the recorded addresses in every state of every run. -/
structure Sound (cfg : Config) (state : State) : Prop where
  staged : Staged cfg state
  calm : state.excluder.closed = false → ∀ call ∈ state.calls, call.reaps = false
  quiet : state.answering = false → ∀ call ∈ state.calls, call.reserves
  permits : ∀ call ∈ state.calls, call.permitting ≠ [] → cfg.killSwitch
  reserved : state.excluder.closed = false → state.excluder.routesLive →
    ∀ ip ∈ state.excluder.seen, ip ∈ state.os.requested .excluding ∨
      ∃ call ∈ state.calls, call.reserves ∧ ip ∈ call.installing
  reservedAllowed : ∀ lockdown ∈ state.os.lockdown, ∀ ip ∈ state.excluder.seen,
    ip ∈ lockdown.allow ∨ ∃ call ∈ state.calls, call.reserves ∧ ip ∈ call.permitting
  learned : state.answering ∨
      cfg.mode.carvedAt ≤ state.main.rank ∧ state.main.rank ≤ 12 →
    ∀ ip ∈ state.policy.dynamic, ip ∈ state.os.requested cfg.mode ∨
      ∃ call ∈ state.calls, call.reserves = false ∧ ip ∈ call.installing
  learnedAllowed : ∀ lockdown ∈ state.os.lockdown, ∀ ip ∈ state.policy.dynamic,
    ip ∈ lockdown.allow ∨ ∃ call ∈ state.calls, call.reserves = false ∧ ip ∈ call.permitting

variable {cfg : Config} {state next : State} {deferred : List Undo}
  (staged : Staged cfg state)

include staged

theorem Staged.unarmed (early : state.main.rank < 12) : state.os.lockdown = none := by
  cases found : state.os.lockdown with
  | none => rfl
  | some =>
    have late := staged.late (by rw [found]; rfl)
    omega

/-- The excluder is open until the session goes down. -/
theorem Staged.unclosed (early : state.main.rank < 13) : state.excluder.closed = false := by
  rw [Bool.eq_false_iff]
  intro closed
  have late := (staged.closed closed).1
  omega

theorem Staged.unclosed_of_armed
    (armed : state.os.lockdown.isSome) : state.excluder.closed = false := by
  rw [Bool.eq_false_iff]
  intro closed
  rw [staged.lifted (staged.closed closed).2] at armed
  cases armed

theorem Staged.silent (early : state.main.rank < 9) : state.answering = false := by
  rw [Bool.eq_false_iff]
  intro answers
  have late := staged.answering answers
  omega

omit staged

/-- A step that arms nothing and leaves what is recorded to the calls. -/
theorem Sound.goes (sound : Sound cfg state) (staged : Staged cfg next)
    (calls : next.calls = state.calls) (seen : next.excluder.seen = state.excluder.seen)
    (lockdown : ∀ after ∈ next.os.lockdown, after ∈ state.os.lockdown)
    (answering : next.answering = false → state.answering = false)
    (closed : next.excluder.closed = false → state.excluder.closed = false)
    (requested : ∀ mode, ∀ ip ∈ state.os.requested mode, ip ∈ next.os.requested mode)
    (live : next.excluder.routesLive → state.excluder.routesLive ∨
      ∀ ip ∈ state.excluder.seen, ip ∈ next.os.requested .excluding)
    (dynamic : ∀ ip ∈ next.policy.dynamic, ip ∈ state.policy.dynamic ∨ next.os.lockdown = none)
    (learned : next.answering ∨ cfg.mode.carvedAt ≤ next.main.rank ∧ next.main.rank ≤ 12 →
      ∀ ip ∈ next.policy.dynamic, ip ∈ next.os.requested cfg.mode ∨
        ∃ call ∈ state.calls, call.reserves = false ∧ ip ∈ call.installing) :
    Sound cfg next := by
  refine ⟨staged, ?_, ?_, ?_, ?_, ?_, ?_, ?_⟩
  · rw [calls]
    exact fun unclosed => sound.calm (closed unclosed)
  · rw [calls]
    exact fun silent => sound.quiet (answering silent)
  · rw [calls]
    exact sound.permits
  · rw [calls, seen]
    intro unclosed nowLive ip known
    rcases live nowLive with before | all
    · exact (sound.reserved (closed unclosed) before ip known).imp_left (requested _ ip)
    · exact .inl (all ip known)
  · rw [calls, seen]
    exact fun after armed => sound.reservedAllowed after (lockdown after armed)
  · rw [calls]
    exact learned
  · rw [calls]
    intro after armed ip known
    rcases dynamic ip known with before | lifted
    · exact sound.learnedAllowed after (lockdown after armed) ip before
    · rw [lifted] at armed
      cases armed

theorem Sound.leaves (sound : Sound cfg state) {main : Main} {closed : Bool}
    (left : main.rank = 13) (calls : state.os.calls <+: os.calls)
    (lockdown : os.lockdown = state.os.lockdown ∨ os.lockdown = none)
    (lifts : main.lifted → state.main.lifted ∨ os.lockdown = none)
    (reopens : closed = false → state.excluder.closed = false)
    (shuts : closed → main.lifted) :
    Sound cfg { state with
      main, os, excluder := { state.excluder with closed } } := by
  have staged := sound.staged
  obtain ⟨_, calls⟩ := calls
  have requested : ∀ mode, ∀ ip ∈ state.os.requested mode, ip ∈ os.requested mode := by
    intro mode ip known
    rw [Os.requested, ← calls, flatMap_append]
    exact mem_append_left _ known
  have kept : ∀ after ∈ os.lockdown, after ∈ state.os.lockdown := by
    intro after armed
    rcases lockdown with same | lifted
    · exact same ▸ armed
    · rw [lifted] at armed
      cases armed
  have armed : os.lockdown.isSome → state.os.lockdown.isSome := by
    intro armed
    obtain ⟨after, found⟩ := isSome_iff_exists.mp armed
    exact isSome_iff_exists.mpr ⟨after, kept after found⟩
  refine sound.goes ⟨fun _ low => ?_, fun _ low => ?_, fun _ => ?_, fun _ => ?_,
    fun isSome => staged.armed (armed isSome), staged.switched, fun up => ?_, fun lifted => ?_,
    fun isClosed => ⟨left, shuts isClosed⟩⟩ rfl rfl kept id reopens requested .inl
    (fun ip => .inl) fun answers ip known => ?_
  · exact absurd (left ▸ low) (by decide)
  · exact absurd (left ▸ low) (by decide)
  · exact left.symm ▸ (by decide)
  · exact left.symm ▸ (by decide)
  · change main = .up at up
    rw [up] at left
    cases left
  · rcases lifts lifted with before | none
    · rcases lockdown with same | none
      · exact same.trans (staged.lifted before)
      · exact none
    · exact none
  · rcases answers with answers | ⟨_, low⟩
    · exact (sound.learned (.inl answers) ip known).imp_left (requested _ ip)
    · exact absurd (left ▸ low) (by decide)

theorem Staged.goes (staged : Staged cfg state) (early : state.main.rank < 11)
    (later : next.main.rank = state.main.rank + 1)
    (closed : next.excluder.closed = state.excluder.closed)
    (armed : next.excluder.armed = state.excluder.armed)
    (policyArmed : next.policy.armed = state.policy.armed)
    (lockdown : next.os.lockdown = state.os.lockdown)
    (answering : next.answering = state.answering ∨ state.main.rank = 8)
    (live : state.main.rank = 2 ∨ state.excluder.routesLive →
      next.excluder.routesLive)
    (entries : state.main.rank = 3 ∨ state.entries = cfg.statics ++ state.policy.dynamic →
      next.entries = cfg.statics ++ next.policy.dynamic) : Staged cfg next := by
  have unarmed : next.os.lockdown = none := lockdown.trans (staged.unarmed (by omega))
  refine ⟨fun after _ => live ?_, fun after before => entries ?_, fun answers => ?_,
    fun isSome => ?_, fun isSome => ?_, ?_, fun up => ?_, fun _ => unarmed, fun isClosed => ?_⟩
  · by_cases last : state.main.rank = 2
    · exact .inl last
    · exact .inr (staged.live (by omega) (by omega))
  · by_cases last : state.main.rank = 3
    · exact .inl last
    · exact .inr (staged.entries (by omega) (by omega))
  · rcases answering with same | last
    · have := staged.answering (same ▸ answers)
      omega
    · omega
  · rw [unarmed] at isSome
    cases isSome
  · rw [unarmed] at isSome
    cases isSome
  · rw [armed, policyArmed]
    exact staged.switched
  · rw [up] at later
    change 12 = _ at later
    omega
  · rw [closed, staged.unclosed (by omega)] at isClosed
    cases isClosed

variable {pc after : BringUp} (sound : Sound cfg state)

include sound

/-- A call that reports an error, whether it took effect or not. -/
theorem Sound.fails (call : OsCall) (lapsed : Bool) (deferred : List Undo)
    (early : state.main.rank < 12) :
    Sound cfg { state with os := state.os.refuse call lapsed, main := .unwinding deferred } :=
  sound.leaves rfl ⟨_, rfl⟩ (.inl rfl) (fun _ => .inr (sound.staged.unarmed early)) id fun _ => rfl

section

variable (reached : state.main = .bringUp pc deferred) (successor : after.rank = pc.rank + 1)
  (early : pc.rank < 11) (apart : pc.rank ≠ 2 ∧ pc.rank ≠ 3)
  (carves : after.rank ≠ cfg.mode.carvedAt) {call : OsCall}
  (lockdown : (state.os.call call).lockdown = state.os.lockdown) (later : List Undo)
include reached successor early apart carves lockdown

/-- A call of the bring-up that is not about the recorded addresses. -/
theorem Sound.plain {answers : Bool}
    (answering : answers = state.answering ∨ pc.rank = 8 ∧ answers) :
    Sound cfg { state.call call with main := .bringUp after later, answering := answers } := by
  have rank : state.main.rank = pc.rank := by
    rw [reached]
    rfl
  rw [← rank] at successor early apart answering
  refine sound.goes (sound.staged.goes early successor rfl rfl rfl lockdown ?_ ?_ ?_) rfl rfl
    (fun armed found => ?_) ?_ id (fun mode ip known => mem_requested_call known call) .inl
    (fun ip => .inl) fun late ip known => ?_
  · exact answering.imp_right And.left
  · exact fun live => live.resolve_left apart.1
  · exact fun entries => entries.resolve_left apart.2
  · exact lockdown ▸ found
  · intro silent
    rcases answering with same | ⟨_, answered⟩
    · exact same.symm.trans silent
    · cases answered.symm.trans silent
  · refine (sound.learned ?_ ip known).imp_left fun before => mem_requested_call before call
    change answers ∨ cfg.mode.carvedAt ≤ after.rank ∧ after.rank ≤ 12 at late
    have carved : cfg.mode.carvedAt ≤ 7 := by
      cases cfg.mode <;> decide
    rcases late with answered | late
    · rcases answering with same | ⟨last, _⟩
      · exact .inl (same ▸ answered)
      · exact .inr ⟨by omega, by omega⟩
    · exact .inr ⟨by omega, by omega⟩

theorem Sound.attempt (outcome : Outcome) :
    Sound cfg (state.attempt call outcome (.bringUp after later) deferred) := by
  cases outcome with
  | done => exact sound.plain reached successor early apart carves lockdown later (.inl rfl)
  | refused | lapsed =>
    refine sound.fails call _ deferred ?_
    rw [reached]
    exact Nat.lt_succ_of_lt early

end

omit sound in
theorem excludeEach_keeps (ips : List Address) (os : Os) :
    let after := ips.foldl (fun os ip => os.call (.addExclusionRoutes [ip])) os
    (∀ mode, ∀ ip ∈ os.requested mode, ip ∈ after.requested mode) ∧
      (∀ ip ∈ ips, ip ∈ after.requested .excluding) ∧ after.lockdown = os.lockdown := by
  induction ips generalizing os with
  | nil => exact ⟨fun mode ip => id, nofun, rfl⟩
  | cons first rest ih =>
    obtain ⟨kept, added, same⟩ := ih (os.call (.addExclusionRoutes [first]))
    refine ⟨fun mode ip known => kept mode ip (mem_requested_call known _), fun ip member => ?_,
      same⟩
    rcases mem_cons.mp member with rfl | member
    · exact kept .excluding ip (mem_requested_self (mem_singleton_self ip) os)
    · exact added ip member

theorem Sound.goLive (reached : state.main.rank = 2) (deferred : List Undo) (outcome : Outcome) :
    Sound cfg (state.bringUp cfg deferred outcome .goLive) := by
  obtain ⟨kept, added, lockdown⟩ := excludeEach_keeps state.excluder.seen state.os
  refine sound.goes (sound.staged.goes (by omega) (by rw [reached]; rfl) rfl rfl rfl lockdown
    (.inl rfl) (fun _ => rfl) ?_) rfl rfl (fun armed found => lockdown ▸ found) id id kept
    (fun _ => .inr added) (fun ip => .inl) fun late => ?_
  · exact fun entries => entries.resolve_left (by omega)
  · rcases late with answers | ⟨late, _⟩
    · change state.answering = true at answers
      rw [sound.staged.silent (by omega)] at answers
      cases answers
    · change cfg.mode.carvedAt ≤ 3 at late
      cases mode : cfg.mode <;> rw [mode] at late <;> simp [Mode.carvedAt] at late

theorem Sound.excludeBypass (reached : state.main.rank = 3)
    (deferred : List Undo) (outcome : Outcome) :
    Sound cfg (state.bringUp cfg deferred outcome .excludeBypass) := by
  have unarmed := sound.staged.unarmed (by omega)
  have silent := sound.staged.silent (by omega)
  cases mode : cfg.mode with
  | excluding =>
    simp only [State.bringUp, mode]
    refine sound.goes (sound.staged.goes (by omega) (by rw [reached]; rfl) rfl rfl rfl rfl
      (.inl rfl) (fun live => live.resolve_left (by omega)) fun _ => rfl) rfl rfl
      (fun armed => id) id id (fun mode ip known => mem_requested_call known _) .inl
      (fun _ _ => .inr unarmed) fun _ ip known => .inl ?_
    rw [mode]
    exact mem_requested_self (mem_append_right _ known) state.os
  | including =>
    simp only [State.bringUp, mode]
    refine sound.goes (sound.staged.goes (by omega) (by rw [reached]; rfl) rfl rfl rfl rfl
      (.inl rfl) (fun live => live.resolve_left (by omega)) fun _ => rfl) rfl rfl
      (fun armed => id) id id (fun mode ip => id) .inl (fun _ _ => .inr unarmed)
      fun late => ?_
    rcases late with answers | ⟨late, _⟩
    · cases silent.symm.trans answers
    · rw [mode] at late
      simp [Main.rank, BringUp.rank, Mode.carvedAt] at late

/-- The bypassed destinations are pulled into the device in include mode. -/
theorem Sound.includeBypass (mode : cfg.mode = .including)
    (reached : state.main.rank = 6) (deferred : List Undo) (outcome : Outcome) :
    Sound cfg (state.bringUp cfg deferred outcome .capture) := by
  simp only [State.bringUp, mode]
  have lockdown := lockdown_include state.os state.entries
  refine sound.goes (sound.staged.goes (by omega) (by rw [reached]; rfl) rfl rfl rfl lockdown
    (.inl rfl) (fun live => live.resolve_left (by omega))
    fun entries => entries.resolve_left (by omega)) rfl rfl (fun armed found => lockdown ▸ found)
    id id (fun mode ip known => mem_requested_call known _) .inl (fun ip => .inl)
    fun _ ip known => .inl ?_
  rw [mode]
  refine mem_requested_self ?_ state.os
  rw [OsCall.carves, sound.staged.entries (by omega) (by omega)]
  exact mem_append_right _ known

theorem Sound.unarmedUp (reached : state.main.rank = 11) (unswitched : cfg.killSwitch = false) :
    Sound cfg { state with main := .up } := by
  have staged := sound.staged
  refine sound.goes ⟨fun _ _ => staged.live (by omega) (by omega), fun _ after => ?_, fun _ => ?_,
    fun _ => Nat.le_refl 12, staged.armed, staged.switched, fun _ switched => ?_, nofun,
    fun closed => ?_⟩ rfl rfl
    (fun armed => id) id id (fun mode ip => id) .inl (fun ip => .inl)
    fun _ => sound.learned (.inr ?_)
  · simp [Main.rank] at after
  · simp [Main.rank]
  · cases unswitched.symm.trans switched
  · cases (staged.unclosed (by omega)).symm.trans closed
  · rw [reached]
    cases cfg.mode <;> decide

/-- The arming: everything recorded so far goes into the first allowlist. -/
theorem Sound.armedUp (reached : state.main.rank = 11) (switched : cfg.killSwitch) :
    Sound cfg { state.call (.enableKillSwitch (cfg.control ++ state.excluder.seen)
          (cfg.statics ++ state.policy.dynamic)) with
        main := .up
        excluder := { state.excluder with armed := true }
        policy := { state.policy with armed := true } } := by
  have staged := sound.staged
  have isLive := staged.live (by omega) (by omega)
  refine ⟨⟨fun _ _ => isLive, fun _ after => ?_, fun _ => ?_, fun _ => Nat.le_refl 12,
    fun _ => ⟨isLive, rfl, rfl⟩, fun _ => switched, fun _ _ => rfl, nofun,
    fun closed => ?_⟩,
    sound.calm, sound.quiet, sound.permits, fun unclosed live ip member => ?_,
    fun lockdown same ip member => ?_, fun _ ip member => ?_, fun lockdown same ip member => ?_⟩
  · simp [Main.rank] at after
  · simp [Main.rank]
  · cases (staged.unclosed (by omega)).symm.trans closed
  · exact (sound.reserved unclosed live ip member).imp_left fun before =>
      mem_requested_call before _
  · cases same
    simp [Lockdown.allow, member]
  · refine (sound.learned (.inr ?_) ip member).imp_left fun before => mem_requested_call before _
    rw [reached]
    cases cfg.mode <;> decide
  · cases same
    simp [Lockdown.allow, member]

theorem Sound.bringUp (reached : state.main = .bringUp pc deferred) (outcome : Outcome) :
    Sound cfg (state.bringUp cfg deferred outcome pc) := by
  have rank : state.main.rank = pc.rank := by
    rw [reached]
    rfl
  have carves : ∀ {rank : Nat}, rank ≠ 4 ∧ rank ≠ 7 → rank ≠ cfg.mode.carvedAt := by
    rintro rank ⟨first, second⟩
    cases cfg.mode <;> assumption
  cases pc with
  | gateway | createTUN | configure | captureDNS =>
    exact sound.attempt reached rfl (by decide) (by decide) (carves (by decide)) rfl _ outcome
  | excludeControl | disableIPv6 =>
    exact sound.plain reached rfl (by decide) (by decide) (carves (by decide)) rfl _ (.inl rfl)
  | goLive => exact sound.goLive rank deferred outcome
  | excludeBypass => exact sound.excludeBypass rank deferred outcome
  | capture =>
    cases mode : cfg.mode with
    | including => exact sound.includeBypass mode rank deferred outcome
    | excluding =>
      simp only [State.bringUp, mode]
      exact sound.attempt reached rfl (by decide) (by decide) (by rw [mode]; decide) rfl _ outcome
  | startNetstack =>
    cases outcome with
    | done =>
      exact sound.plain reached rfl (by decide) (by decide) (carves (by decide)) rfl _
        (.inr ⟨rfl, rfl⟩)
    | refused | lapsed =>
      have fails := fun lapsed => sound.fails .startNetstack lapsed deferred (by rw [rank]; decide)
      rw [sound.staged.silent (by rw [rank]; decide)] at fails
      exact fails _
  | serve =>
    simp only [State.bringUp]
    split_ifs
    · exact sound.attempt reached rfl (by decide) (by decide) (carves (by decide)) rfl _ outcome
    · refine sound.goes (sound.staged.goes (by rw [rank]; decide) (by rw [rank]; rfl) rfl rfl rfl
        rfl (.inl rfl) (fun live => live.resolve_left (by rw [rank]; decide))
        fun entries => entries.resolve_left (by rw [rank]; decide)) rfl rfl (fun armed => id) id
        id (fun mode ip => id) .inl (fun ip => .inl) fun _ => sound.learned (.inr ?_)
      rw [rank]
      cases cfg.mode <;> decide
  | arm =>
    simp only [State.bringUp]
    split_ifs with switched
    · exact sound.unarmedUp rank (by simpa using switched)
    · cases outcome with
      | refused | lapsed =>
        exact sound.fails _ _ deferred (by rw [rank]; decide)
      | done => exact sound.armedUp rank (by simpa using switched)

theorem Sound.takesDown (call : OsCall) {main : Main} (left : main.rank = 13)
    (lockdown : (state.os.apply call).lockdown = state.os.lockdown ∨
      (state.os.apply call).lockdown = none)
    (lifts : main.lifted → state.main.lifted ∨ (state.os.apply call).lockdown = none)
    (lifted : state.main.lifted → main.lifted) :
    Sound cfg { state.call call with main } :=
  sound.leaves left ⟨_, rfl⟩ lockdown lifts id fun closed => lifted (sound.staged.closed closed).2

theorem Sound.undo (first : Undo) {rest : List Undo} (lifted : state.main.lifted) :
    Sound cfg { state.undo cfg first with main := .unwinding rest } := by
  cases first with
  | disable =>
    exact sound.leaves rfl prefix_rfl (.inl rfl) (fun _ => .inl lifted)
      nofun fun _ => rfl
  | _ => exact sound.takesDown _ rfl (.inl rfl) (fun _ => .inl lifted) fun _ => rfl

theorem Sound.close {pc : Closing}
    (reached : state.main = .closing pc) : Sound cfg (state.close cfg pc) := by
  have unlifted : pc = .revoke ∨ pc = .disarm → state.excluder.closed = false := by
    rintro early
    rw [Bool.eq_false_iff]
    intro closed
    have lifted := (sound.staged.closed closed).2
    rcases early with rfl | rfl <;> rw [reached] at lifted <;> cases lifted
  cases pc with
  | revoke =>
    have unclosed := unlifted (.inl rfl)
    simp only [State.close]
    split_ifs
    · exact sound.leaves rfl ⟨_, rfl⟩ (.inl rfl) nofun id (by rw [unclosed]; nofun)
    · exact sound.leaves rfl prefix_rfl (.inl rfl) nofun id (by rw [unclosed]; nofun)
  | disarm =>
    simp only [State.close]
    split_ifs with switched
    · exact sound.leaves rfl ⟨_, rfl⟩ (.inr rfl) (fun _ => .inr rfl) id fun _ => rfl
    · refine sound.leaves rfl prefix_rfl (.inl rfl) (fun _ => .inr ?_) id
        fun _ => rfl
      rw [eq_none_iff_forall_not_mem]
      intro lockdown armed
      refine switched (sound.staged.switched (.inl (sound.staged.armed ?_).2.1))
      rw [mem_def.mp armed]
      rfl
  | disable =>
    exact sound.leaves rfl prefix_rfl (.inl rfl)
      (fun _ => .inl (by rw [reached]; rfl)) nofun fun _ => rfl
  | readReserved | readLearned =>
    exact sound.leaves rfl prefix_rfl (.inl rfl)
      (fun _ => .inl (by rw [reached]; rfl)) id fun _ => rfl
  | _ => exact sound.takesDown _ rfl (.inl rfl) (fun _ => .inl (by rw [reached]; rfl)) fun _ => rfl

omit sound

theorem Staged.beside (staged : Staged cfg state) (main : next.main = state.main)
    (closed : next.excluder.closed = state.excluder.closed)
    (live : next.excluder.routesLive = state.excluder.routesLive)
    (armed : next.excluder.armed = state.excluder.armed)
    (policyArmed : next.policy.armed = state.policy.armed) (entries : next.entries = state.entries)
    (dynamic : next.policy.dynamic = state.policy.dynamic ∨ state.answering)
    (answering : next.answering = state.answering)
    (lockdown : next.os.lockdown.isSome = state.os.lockdown.isSome) : Staged cfg next := by
  refine ⟨?_, fun after before => ?_, ?_, ?_, ?_, ?_, ?_, fun lifted => ?_, ?_⟩
  · rw [main, live]
    exact staged.live
  · rw [main] at after before
    rcases dynamic with same | answers
    · rw [entries, same]
      exact staged.entries after before
    · have := staged.answering answers
      omega
  · rw [main, answering]
    exact staged.answering
  · rw [main, lockdown]
    exact staged.late
  · rw [lockdown, live, armed, policyArmed]
    exact staged.armed
  · rw [armed, policyArmed]
    exact staged.switched
  · rw [main, lockdown]
    exact staged.arming
  · rw [← isNone_iff_eq_none, ← not_isSome, lockdown, staged.lifted (main ▸ lifted)]
    rfl
  · rw [closed, main]
    exact staged.closed

theorem Sound.enters (sound : Sound cfg state) {call : Call}
    (permits : call.permitting = []) (reaps : call.reaps = false)
    (kind : state.answering = false → call.reserves) :
    Sound cfg { state with calls := state.calls ++ [call] } := by
  have staged : Staged cfg { state with calls := state.calls ++ [call] } :=
    sound.staged.beside rfl rfl rfl rfl rfl rfl (.inl rfl) rfl rfl
  have still : ∀ {Pending : Call → Prop}, (∃ other ∈ state.calls, Pending other) →
      ∃ other ∈ state.calls ++ [call], Pending other :=
    fun ⟨other, member, pending⟩ => ⟨other, mem_append_left _ member, pending⟩
  have every : ∀ {Holds : Call → Prop}, (∀ other ∈ state.calls, Holds other) → Holds call →
      ∀ other ∈ state.calls ++ [call], Holds other := by
    intro Holds before holds other member
    rcases mem_append.mp member with earlier | last
    · exact before other earlier
    · rw [mem_singleton.mp last]
      exact holds
  exact ⟨staged, fun unclosed => every (sound.calm unclosed) reaps,
    fun silent => every (sound.quiet silent) (kind silent),
    every sound.permits fun nonempty => absurd permits nonempty,
    fun unclosed live ip known => (sound.reserved unclosed live ip known).imp_right still,
    fun lockdown armed ip known => (sound.reservedAllowed lockdown armed ip known).imp_right still,
    fun late ip known => (sound.learned late ip known).imp_right still,
    fun lockdown armed ip known => (sound.learnedAllowed lockdown armed ip known).imp_right still⟩

variable {index : Nat} {old : Call} (sound : Sound cfg state)
include sound

/-- A call goes on: what it has recorded it has to ask for, and what it had to ask for it has asked
for or still has to. -/
theorem Sound.resumes (found : state.calls[index]? = some old)
    (new : Call) (staged : Staged cfg next) (main : next.main = state.main)
    (live : next.excluder.routesLive = state.excluder.routesLive)
    (closed : next.excluder.closed = state.excluder.closed)
    (answering : next.answering = state.answering)
    (calm : state.excluder.closed = false → new.reaps = false) (kind : new.reserves = old.reserves)
    (permits : new.permitting ≠ [] → cfg.killSwitch)
    (requested : ∀ mode, ∀ ip ∈ state.os.requested mode, ip ∈ next.os.requested mode)
    (allow : ∀ after ∈ next.os.lockdown, ∃ before ∈ state.os.lockdown,
      ∀ ip ∈ before.allow, ip ∈ after.allow)
    (seen : ∀ ip ∈ next.excluder.seen, ip ∈ state.excluder.seen ∨ new.reserves ∧
      (state.excluder.closed = false → state.excluder.routesLive → ip ∈ new.installing) ∧
      (state.os.lockdown.isSome → ip ∈ new.permitting))
    (dynamic : ∀ ip ∈ next.policy.dynamic, ip ∈ state.policy.dynamic ∨ new.reserves = false ∧
      ip ∈ new.installing ∧ (state.os.lockdown.isSome → ip ∈ new.permitting))
    (installs : ∀ ip ∈ old.installing,
      ip ∈ next.os.requested (old.mode cfg) ∨ ip ∈ new.installing)
    (allows : ∀ ip ∈ old.permitting,
      (∀ after ∈ next.os.lockdown, ip ∈ after.allow) ∨ ip ∈ new.permitting) :
    Sound cfg { next with calls := state.calls.set index new } := by
  have inside : index < state.calls.length := (List.getElem?_eq_some_iff.mp found).1
  have member : new ∈ state.calls.set index new := List.mem_set inside new
  have modes : old.reserves ∧ old.mode cfg = .excluding ∨
      old.reserves = false ∧ old.mode cfg = cfg.mode := by
    cases old with
    | reserve => exact .inl ⟨rfl, rfl⟩
    | observe => exact .inr ⟨rfl, rfl⟩
  refine ⟨⟨staged.live, staged.entries, staged.answering, staged.late, staged.armed,
    staged.switched, staged.arming, staged.lifted, staged.closed⟩, fun unclosed => ?_,
    fun silent => ?_, forall_set sound.permits permits, fun unclosed nowLive ip known => ?_,
    fun after armed ip known => ?_, fun late ip known => ?_, fun after armed ip known => ?_⟩
  · exact forall_set (sound.calm (closed ▸ unclosed)) (calm (closed ▸ unclosed))
  · have quiet := sound.quiet (answering.symm.trans silent)
    exact forall_set quiet (kind.trans (quiet old (mem_of_getElem? found)))
  · rw [live] at nowLive
    rw [closed] at unclosed
    rcases seen ip known with before | ⟨reserves, installing, _⟩
    · refine pending_set found (sound.reserved unclosed nowLive ip before)
        (requested _ ip) ?_
      rintro ⟨reserves, pending⟩
      rcases modes with ⟨_, mode⟩ | ⟨observes, _⟩
      · exact (mode ▸ installs ip pending).imp_right fun still => ⟨kind.trans reserves, still⟩
      · cases reserves.symm.trans observes
    · exact .inr ⟨new, member, reserves, installing unclosed nowLive⟩
  · obtain ⟨before, wasArmed, kept⟩ := allow after armed
    rcases seen ip known with earlier | ⟨reserves, _, permitting⟩
    · refine pending_set found (sound.reservedAllowed before wasArmed ip earlier)
        (kept ip) ?_
      rintro ⟨reserves, pending⟩
      exact (allows ip pending).imp (fun allowed => allowed after armed)
        fun still => ⟨kind.trans reserves, still⟩
    · refine .inr ⟨new, member, reserves, permitting ?_⟩
      rw [mem_def.mp wasArmed]
      rfl
  · rcases dynamic ip known with before | ⟨observes, installing, _⟩
    · refine pending_set found (sound.learned ?_ ip before) (requested _ ip) ?_
      · rw [← answering, ← main]
        exact late
      · rintro ⟨observes, pending⟩
        rcases modes with ⟨reserves, _⟩ | ⟨_, mode⟩
        · cases reserves.symm.trans observes
        · exact (mode ▸ installs ip pending).imp_right fun still => ⟨kind.trans observes, still⟩
    · exact .inr ⟨new, member, observes, installing⟩
  · obtain ⟨before, wasArmed, kept⟩ := allow after armed
    rcases dynamic ip known with earlier | ⟨observes, _, permitting⟩
    · refine pending_set found (sound.learnedAllowed before wasArmed ip earlier)
        (kept ip) ?_
      rintro ⟨observes, pending⟩
      exact (allows ip pending).imp (fun allowed => allowed after armed)
        fun still => ⟨kind.trans observes, still⟩
    · refine .inr ⟨new, member, observes, permitting ?_⟩
      rw [mem_def.mp wasArmed]
      rfl

theorem Sound.carves {new : Call}
    (found : state.calls[index]? = some old) (lockdown : os.lockdown = state.os.lockdown)
    (calm : state.excluder.closed = false → new.reaps = false) (kind : new.reserves = old.reserves)
    (requested : ∀ mode, ∀ ip ∈ state.os.requested mode, ip ∈ os.requested mode)
    (installs : ∀ ip ∈ old.installing, ip ∈ os.requested (old.mode cfg) ∨ ip ∈ new.installing)
    (fewer : ∀ ip ∈ new.permitting, ip ∈ old.permitting)
    (allows : state.os.lockdown.isSome → ∀ ip ∈ old.permitting, ip ∈ new.permitting) :
    Sound cfg { state with os, calls := state.calls.set index new } := by
  have staged : Staged cfg { state with os } :=
    sound.staged.beside rfl rfl rfl rfl rfl rfl (.inl rfl) rfl (congrArg isSome lockdown)
  refine sound.resumes found new staged rfl rfl rfl rfl calm kind (fun nonempty => ?_) requested
    (fun after armed => ⟨after, lockdown ▸ armed, fun ip => id⟩) (fun ip => .inl)
    (fun ip => .inl) installs fun ip pending => ?_
  · obtain ⟨ip, member⟩ := exists_mem_of_ne_nil _ nonempty
    exact sound.permits old (mem_of_getElem? found) (ne_nil_of_mem (fewer ip member))
  · by_cases armed : state.os.lockdown.isSome
    · exact .inr (allows armed ip pending)
    · refine .inl fun after nowArmed => absurd ?_ armed
      rw [← lockdown, mem_def.mp nowArmed]
      rfl

theorem Sound.allows {new : Call}
    (found : state.calls[index]? = some old) (calm : new.reaps = false)
    (kind : new.reserves = old.reserves) (installing : new.installing = old.installing)
    (permitting : old.permitting = ip :: new.permitting) :
    Sound cfg { state.call (.refreshKillSwitchAllowIP ip) with
      calls := state.calls.set index new } := by
  have lockdown : (state.call (.refreshKillSwitchAllowIP ip)).os.lockdown.isSome =
      state.os.lockdown.isSome := isSome_map
  have refreshed : ∀ after ∈ (state.call (.refreshKillSwitchAllowIP ip)).os.lockdown,
      ∃ before ∈ state.os.lockdown, after.allow = ip :: before.allow := by
    intro after armed
    obtain ⟨before, wasArmed, rfl⟩ := map_eq_some_iff.mp armed
    exact ⟨before, wasArmed, rfl⟩
  refine sound.resumes found new (sound.staged.beside rfl rfl rfl rfl rfl rfl (.inl rfl) rfl
    lockdown) rfl rfl rfl rfl (fun _ => calm) kind (fun _ => ?_)
    (fun mode other known => mem_requested_call known _) (fun after armed => ?_)
    (fun other => .inl) (fun other => .inl)
    (fun other pending => .inr (installing ▸ pending)) fun other pending => ?_
  · refine sound.permits old (mem_of_getElem? found) ?_
    rw [permitting]
    exact cons_ne_nil _ _
  · obtain ⟨before, wasArmed, same⟩ := refreshed after armed
    refine ⟨before, wasArmed, fun other allowed => ?_⟩
    rw [same]
    exact mem_cons_of_mem _ allowed
  · rw [permitting] at pending
    rcases mem_cons.mp pending with rfl | still
    · refine .inl fun after armed => ?_
      obtain ⟨before, _, same⟩ := refreshed after armed
      rw [same]
      exact mem_cons_self
    · exact .inr still

variable {ips : List Address}

theorem Sound.records {resolved : List Address}
    (found : state.calls[index]? = some (.reserve ips (.entered resolved))) :
    Sound cfg { (state.reserve (.entered resolved)).1 with
      calls := state.calls.set index (.reserve ips (state.reserve (.entered resolved)).2) } := by
  have staged := sound.staged
  have beside : Staged cfg (state.reserve (.entered resolved)).1 :=
    staged.beside rfl rfl rfl rfl rfl rfl (.inl rfl) rfl rfl
  have continues : state.excluder.closed = false → state.excluder.routesLive →
      (state.reserve (.entered resolved)).2 =
        .continue state.excluder.armed (state.excluder.fresh resolved) := by
    intro unclosed live
    simp only [State.reserve, unclosed, live, Bool.not_false, Bool.and_true, if_true]
  refine sound.resumes found (.reserve ips (state.reserve (.entered resolved)).2) beside rfl rfl
    rfl rfl (fun _ => ?_) rfl (fun nonempty => ?_) (fun mode ip => id)
    (fun after armed => ⟨after, armed, fun ip => id⟩) (fun ip known => ?_) (fun ip => .inl)
    (fun ip pending => ?_) fun ip pending => ?_
  · simp only [State.reserve]
    split_ifs
    · exact reaps_continue _ _ _
    · rfl
  · simp only [State.reserve] at nonempty
    split_ifs at nonempty
    · rw [permitting_continue] at nonempty
      refine staged.switched (.inl ?_)
      by_contra unarmed
      exact nonempty (if_neg unarmed)
    · exact absurd rfl nonempty
  · refine (mem_append.mp known).imp_right fun fresh =>
      ⟨rfl, fun unclosed live => ?_, fun isSome => ?_⟩
    · rw [continues unclosed live, installing_continue]
      exact fresh
    · obtain ⟨live, armed, _⟩ := staged.armed isSome
      rw [continues (staged.unclosed_of_armed isSome) live, permitting_continue, if_pos armed]
      exact fresh
  · cases pending
  · cases pending

theorem Sound.reserve {progress : Reserve}
    (found : state.calls[index]? = some (.reserve ips progress)) :
    Sound cfg { (state.reserve progress).1 with
      calls := state.calls.set index (.reserve ips (state.reserve progress).2) } := by
  have staged := sound.staged
  cases progress with
  | entered => exact sound.records found
  | excluding =>
    refine sound.carves found rfl (fun _ => rfl) rfl
      (fun mode other known => mem_requested_call known _) (fun other pending => ?_)
      (fun other => id) fun _ other => id
    rcases mem_cons.mp pending with rfl | still
    · exact .inl (mem_requested_self mem_cons_self state.os)
    · exact .inr still
  | judging ip rest armed =>
    by_cases closed : state.excluder.closed
    · simp only [State.reserve, if_pos closed]
      refine sound.carves found rfl (fun unclosed => ?_) rfl (fun mode other => id)
        (fun other => .inr) (fun other pending => ?_) fun armed => ?_
      · cases closed.symm.trans unclosed
      · cases armed with
        | true => exact mem_cons_of_mem _ pending
        | false => exact pending
      · cases closed.symm.trans (staged.unclosed_of_armed armed)
    · simp only [State.reserve, if_neg closed]
      cases armed with
      | true =>
        exact sound.carves found rfl (fun _ => rfl) rfl (fun mode other => id)
          (fun other => .inr) (fun other => id) fun _ other => id
      | false =>
        refine sound.carves found rfl (fun _ => reaps_continue _ _ _) rfl
          (fun mode other => id) (fun other pending => .inr ?_) (fun other pending => ?_)
          fun _ => nofun
        · rw [if_neg Bool.false_ne_true, installing_continue]
          exact pending
        · rw [if_neg Bool.false_ne_true, permitting_continue] at pending
          cases pending
  | reaping =>
    refine sound.carves found rfl (fun _ => reaps_continue _ _ _) rfl
      (fun mode other known => mem_requested_call known _) (fun other pending => .inr ?_)
      (fun other pending => ?_) fun _ other pending => ?_
    · rw [State.reserve, installing_continue]
      exact pending
    · rw [State.reserve, permitting_continue] at pending
      exact pending
    · rw [State.reserve, permitting_continue]
      exact pending
  | allowing =>
    refine sound.allows found ?_ rfl ?_ ?_
    · exact reaps_continue _ _ _
    · exact installing_continue _ _ _
    · rw [State.reserve, permitting_continue]
      rfl
  | returned =>
    exact sound.carves found rfl (fun _ => rfl) rfl (fun mode ip => id) (fun ip => .inr)
      (fun ip => id) fun _ ip => id

theorem Sound.observe {handled rest : List Address} {progress : Observe}
    (found : state.calls[index]? = some (.observe handled rest progress)) :
    Sound cfg { (state.observe cfg handled rest progress).1 with
      calls := state.calls.set index (state.observe cfg handled rest progress).2 } := by
  have staged := sound.staged
  have member := mem_of_getElem? found
  have answers : state.answering := by
    by_contra silent
    cases sound.quiet (Bool.eq_false_iff.mpr silent) _ member
  cases progress with
  | between =>
    cases rest with
    | nil =>
      exact sound.carves found rfl (fun _ => rfl) rfl (fun mode ip => id) (fun ip => .inr)
        (fun ip => id) fun _ ip => id
    | cons ip =>
      simp only [State.observe]
      split_ifs with known
      · exact sound.carves found rfl (fun _ => rfl) rfl (fun mode ip => id) (fun ip => .inr)
          (fun ip => id) fun _ ip => id
      · have beside : Staged cfg { state with policy := { state.policy with
            dynamic := state.policy.dynamic ++ [ip] } } :=
          staged.beside rfl rfl rfl rfl rfl rfl (.inr answers) rfl rfl
        refine sound.resumes found (.observe _ _ (.carving _ _)) beside rfl rfl rfl rfl
          (fun _ => rfl) rfl (fun nonempty => ?_) (fun mode ip => id)
          (fun after armed => ⟨after, armed, fun ip => id⟩) (fun other => .inl)
          (fun other known => ?_) (fun other pending => ?_) fun other pending => ?_
        · refine staged.switched (.inr ?_)
          by_contra unarmed
          exact nonempty (if_neg unarmed)
        · refine (mem_append.mp known).imp_right fun learned => ⟨rfl, learned, fun isSome => ?_⟩
          rw [Call.permitting, (staged.armed isSome).2.2]
          exact learned
        · cases pending
        · cases pending
  | carving ip armed =>
    have switched : armed → cfg.killSwitch := by
      rintro rfl
      exact sound.permits _ member (cons_ne_nil _ _)
    have permitting : (state.observe cfg handled rest (.carving ip armed)).2.permitting =
        (Call.observe handled rest (.carving ip armed)).permitting := by
      cases armed with
      | false => simp only [State.observe, Bool.and_false, Bool.false_eq_true, if_false]; rfl
      | true => simp only [State.observe, Bool.and_true, switched rfl, if_true]; rfl
    have calm : (state.observe cfg handled rest (.carving ip armed)).2.reaps = false := by
      simp only [State.observe]
      split_ifs <;> rfl
    have carved : ∀ call, ip ∈ call.carves cfg.mode →
        (state.os.call call).lockdown = state.os.lockdown →
        Sound cfg { state.call call with
          calls := state.calls.set index
            (state.observe cfg handled rest (.carving ip armed)).2 } := by
      intro call asked lockdown
      refine sound.carves found lockdown (fun _ => calm) rfl
        (fun mode other known => mem_requested_call known call) (fun other pending => .inl ?_)
        (fun other => permitting ▸ id) fun _ other => permitting ▸ id
      rw [mem_singleton.mp pending]
      exact mem_requested_self asked state.os
    cases mode : cfg.mode with
    | excluding =>
      simp only [State.observe, State.carve, mode] at carved ⊢
      exact carved (.addExclusionRoutes [ip]) mem_cons_self rfl
    | including =>
      simp only [State.observe, State.carve, mode] at carved ⊢
      exact carved (.addInclusionRoutes [ip]) mem_cons_self (lockdown_include _ _)
  | allowing => exact sound.allows found rfl rfl rfl rfl

omit sound

/-- What no call changes. -/
theorem frame_advance (cfg : Config) (state : State) (call : Call) :
    let after := state.advance cfg call
    after.1.calls = state.calls ∧ after.1.main = state.main ∧
      after.1.excluder.closed = state.excluder.closed ∧ after.2.reserves = call.reserves := by
  cases call with
  | reserve ips progress => cases progress <;> exact ⟨rfl, rfl, rfl, rfl⟩
  | observe handled rest progress =>
    cases progress with
    | between =>
      cases rest with
      | nil => exact ⟨rfl, rfl, rfl, rfl⟩
      | cons =>
        simp only [State.advance, State.observe]
        split_ifs <;> exact ⟨rfl, rfl, rfl, rfl⟩
    | carving =>
      simp only [State.advance, State.observe, State.carve]
      split <;> exact ⟨rfl, rfl, rfl, rfl⟩
    | allowing => exact ⟨rfl, rfl, rfl, rfl⟩

/-- A resumed call is put back where it was. -/
theorem step_resume (moves : (tunnel cfg).step state (.resume index) = some next) :
    ∃ call, state.calls[index]? = some call ∧
      next = { (state.advance cfg call).1 with
        calls := state.calls.set index (state.advance cfg call).2 } := by
  obtain ⟨call, found, rfl⟩ := map_eq_some_iff.mp moves
  refine ⟨call, found, ?_⟩
  simp only [(frame_advance cfg state call).1]

/-- Every step keeps the recorded addresses asked for. -/
theorem Sound.step {label : Label} (sound : Sound cfg state)
    (moves : (tunnel cfg).step state label = some next) : Sound cfg next := by
  cases label with
  | proceed outcome =>
    simp only [tunnel, State.proceed] at moves
    split at moves
    · rename_i pc deferred reached
      cases moves
      exact sound.bringUp reached outcome
    · rename_i reached
      cases moves
      exact sound.leaves rfl prefix_rfl (.inl rfl)
        (fun _ => .inl (by rw [reached]; rfl)) id fun _ => rfl
    · rename_i first rest reached
      cases moves
      exact sound.undo first (by rw [reached]; rfl)
    · rename_i pc reached
      cases moves
      exact sound.close reached
    · cases moves
    · cases moves
    · cases moves
  | close =>
    simp only [tunnel] at moves
    split_ifs at moves with up
    cases moves
    refine sound.leaves rfl prefix_rfl (.inl rfl) (by rintro ⟨⟩) id fun closed => ?_
    cases (sound.staged.unclosed (by rw [up]; decide)).symm.trans closed
  | reserve =>
    cases moves
    exact sound.enters rfl rfl fun _ => rfl
  | observe =>
    simp only [tunnel] at moves
    split_ifs at moves with answers
    cases moves
    exact sound.enters rfl rfl fun silent => by cases answers.symm.trans silent
  | resume =>
    obtain ⟨call, found, rfl⟩ := step_resume moves
    cases call with
    | reserve => exact sound.reserve found
    | observe => exact sound.observe found

/-- Nothing is recorded yet that needs a route. -/
theorem sound_initial (start : (tunnel cfg).initial state) : Sound cfg state := by
  obtain ⟨_, rfl⟩ := start
  refine ⟨⟨fun late => ?_, fun late => ?_, nofun, nofun, nofun, nofun, nofun, nofun, nofun⟩,
    fun _ => nofun, fun _ => nofun, nofun, fun _ => nofun, nofun, fun _ => nofun, nofun⟩
  · exact absurd late (Nat.not_succ_le_zero 2)
  · exact absurd late (Nat.not_succ_le_zero 3)

/-- The invariant holds in every reachable state. -/
theorem sound_of_runs {guard : State → Label → Prop} {labels : List Label}
    (runs : (tunnel cfg).Runs guard labels state) : Sound cfg state :=
  runs.invariant sound_initial fun sound _ moves => sound.step moves

end Bacchus.Tunnel
