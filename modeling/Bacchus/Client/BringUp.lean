import Bacchus.Client.Tunnel
import Mathlib.Data.List.Dedup

/-!
# Bring-up leaves the machine protected or untouched

`startTunnel` by itself, with any of its calls failing. Whatever has been changed is covered by a
deferred function, and an error runs all of them. What a call changes that reports an error is
covered by none.
-/

namespace Bacchus.Tunnel

open Client (Address)
open List Machine

/-- The change that a deferred function takes back is there. -/
def Undo.due (os : Os) : Undo → Bool
  | .closeTUN => os.device || os.splitDefault || !os.tunRoutes.isEmpty
  | .enableIPv6 => os.ipv6Off
  | .closeNetstack => os.netstack
  | .releaseDNS => os.dnsCaptured
  | .revoke => os.served
  | .removeControl | .disable | .removeReserved | .removeStatics | .removeLearned => false

/-- The routes that a deferred function removes. -/
def Undo.removes (cfg : Config) (reserved learned : List Address) : Undo → List Address
  | .removeControl => cfg.control
  | .removeReserved => reserved
  | .removeStatics => cfg.statics
  | .removeLearned => learned
  | .disable | .closeTUN | .enableIPv6 | .closeNetstack | .releaseDNS | .revoke => []

/-- The deferred function a call needs, but for routes via the gateway. -/
def OsCall.takenBackBy : OsCall → Option Undo
  | .createTUN | .addSplitDefaultRoute | .addInclusionRoutes _ => some .closeTUN
  | .disablePhysicalIPv6 => some .enableIPv6
  | .startNetstack => some .closeNetstack
  | .captureDNS => some .releaseDNS
  | .allowServedEgress => some .revoke
  | _ => none

/-- The routes via the gateway a call adds. -/
def OsCall.adds : OsCall → List Address
  | .addExclusionRoutes ips => ips
  | _ => []

namespace Os

variable {os : Os} {call : OsCall}

/-- A call adds only the routes it names. -/
theorem mem_routes_call {ip : Address} (member : ip ∈ (os.call call).routes) :
    ip ∈ os.routes ∨ ip ∈ call.adds := by
  cases call with
  | addExclusionRoutes => exact (mem_append.mp member).symm
  | removeRoutes => exact .inl (mem_filter.mp member).1
  | addInclusionRoutes =>
    simp only [Os.call, Os.apply] at member
    split_ifs at member <;> exact .inl member
  | _ => exact .inl member

theorem due_call {undo : Undo} (due : undo.due (os.call call)) :
    undo.due os ∨ call.takenBackBy = some undo := by
  cases call with
  | addInclusionRoutes =>
    simp only [Os.call, Os.apply] at due
    split_ifs at due
    · cases undo <;> first | exact .inl due | exact .inr rfl
    · exact .inl (by cases undo <;> exact due)
  | removeRoutes =>
    cases undo with
    | closeTUN =>
      simp only [Os.call, Os.apply, Undo.due, Bool.or_eq_true] at due ⊢
      refine .inl (due.imp_right fun bound => ?_)
      simp only [Bool.not_eq_true', isEmpty_eq_false_iff] at bound ⊢
      intro none
      rw [none] at bound
      exact bound rfl
    | _ => exact .inl due
  | createTUN | addSplitDefaultRoute | disablePhysicalIPv6 | startNetstack | captureDNS
  | allowServedEgress => cases undo <;> first | exact .inl due | exact .inr rfl
  | closeTUN | enablePhysicalIPv6 | closeNetstack | releaseDNS | revokeServedEgress =>
    cases undo <;> first | exact .inl due | cases due
  | _ => cases undo <;> exact .inl due

theorem due_refuse {undo : Undo} (due : undo.due (os.refuse call false)) :
    undo.due os ∨ call = .addSplitDefaultRoute ∧ undo = .closeTUN := by
  cases undo with
  | closeTUN =>
    by_cases split : call = .addSplitDefaultRoute
    · exact .inr ⟨split, rfl⟩
    · exact .inl (by simpa [Os.refuse, Undo.due, split] using due)
  | _ => exact .inl due

theorem unlocked_call (disarms : call.arms = false)
    (unlocked : os.lockdown = none ∧ os.stray = false) :
    (os.call call).lockdown = none ∧ (os.call call).stray = false := by
  cases call with
  | enableKillSwitch => cases disarms
  | addInclusionRoutes =>
    simp only [Os.call, Os.apply]
    split_ifs <;> exact unlocked
  | refreshKillSwitchAllowIP => simp [Os.call, Os.apply, unlocked]
  | disableKillSwitch => exact ⟨rfl, rfl⟩
  | _ => exact unlocked

end Os

/-- Every change of the machine has its deferred function. -/
structure Covered (cfg : Config) (state : State) (deferred : List Undo) : Prop where
  routes : ∀ ip ∈ state.os.routes, ∃ undo ∈ deferred,
    ip ∈ undo.removes cfg state.excluder.seen state.policy.dynamic
  due : ∀ undo : Undo, undo.due state.os → undo ∈ deferred
  unlocked : state.os.lockdown = none ∧ state.os.stray = false

/-- Nothing of the session is left on the machine. -/
structure Os.Clean (os : Os) : Prop where
  routes : os.routes = []
  tunRoutes : os.tunRoutes = []
  splitDefault : os.splitDefault = false
  device : os.device = false
  netstack : os.netstack = false
  ipv6 : os.ipv6Off = false
  dns : os.dnsCaptured = false
  served : os.served = false
  lockdown : os.lockdown = none
  stray : os.stray = false

/-- What is still deferred. -/
def Main.deferred : Main → Option (List Undo)
  | .bringUp _ undo | .unwinding undo => some undo
  | .failed => some []
  | .up | .closing _ | .closed => none

variable {cfg : Config} {state next : State} {deferred later : List Undo} {first : Undo}

theorem Covered.clean (covered : Covered cfg state []) : state.os.Clean := by
  have undone : ∀ undo : Undo, undo.due state.os = false := by
    intro undo
    by_contra due
    cases covered.due undo (by simpa using due)
  have tun := undone .closeTUN
  simp only [Undo.due, Bool.or_eq_false_iff, Bool.not_eq_false', List.isEmpty_iff] at tun
  obtain ⟨⟨device, splitDefault⟩, tunRoutes⟩ := tun
  refine ⟨?_, tunRoutes, splitDefault, device, undone .closeNetstack, undone .enableIPv6,
    undone .releaseDNS, undone .revoke, covered.unlocked.1, covered.unlocked.2⟩
  refine eq_nil_iff_forall_not_mem.mpr fun ip member => ?_
  obtain ⟨_, none, _⟩ := covered.routes ip member
  cases none

/-- A call that succeeds, with what it defers. -/
theorem Covered.call (covered : Covered cfg state deferred) {call : OsCall}
    (more : ∀ undo ∈ deferred, undo ∈ later) (arms : call.arms = false)
    (back : ∀ undo, call.takenBackBy = some undo → undo ∈ later)
    (added : ∀ ip ∈ call.adds, ∃ undo ∈ later,
      ip ∈ undo.removes cfg state.excluder.seen state.policy.dynamic) (main : Main) :
    Covered cfg { state.call call with main } later := by
  refine ⟨fun ip member => ?_, fun undo due => ?_, Os.unlocked_call arms covered.unlocked⟩
  · rcases Os.mem_routes_call member with earlier | new
    · obtain ⟨undo, known, removes⟩ := covered.routes ip earlier
      exact ⟨undo, more undo known, removes⟩
    · exact added ip new
  · rcases Os.due_call due with earlier | new
    · exact more undo (covered.due undo earlier)
    · exact back undo new

theorem Covered.refuse (covered : Covered cfg state deferred) {call : OsCall}
    (back : call = .addSplitDefaultRoute → Undo.closeTUN ∈ deferred) (main : Main) :
    Covered cfg { state with os := state.os.refuse call false, main } deferred := by
  refine ⟨covered.routes, fun undo due => ?_, covered.unlocked⟩
  rcases Os.due_refuse due with earlier | ⟨split, rfl⟩
  · exact covered.due undo earlier
  · exact back split

/-- A deferred function removes its routes and adds none. -/
theorem mem_routes_undo {ip : Address} (member : ip ∈ (state.undo cfg first).os.routes) :
    ip ∈ state.os.routes ∧
      ip ∉ first.removes cfg state.excluder.seen state.policy.dynamic := by
  cases first with
  | removeControl | removeReserved | removeStatics | removeLearned =>
    obtain ⟨earlier, kept⟩ := mem_filter.mp member
    exact ⟨earlier, of_decide_eq_true kept⟩
  | _ => exact ⟨member, not_mem_nil⟩

theorem due_undo {undo : Undo} (due : undo.due (state.undo cfg first).os) :
    undo.due state.os ∧ undo ≠ first := by
  have earlier : undo.due state.os := by
    cases first with
    | disable => exact due
    | _ =>
      rcases Os.due_call due with earlier | new
      · exact earlier
      · cases new
  refine ⟨earlier, ?_⟩
  rintro rfl
  cases undo <;> cases due

/-- A deferred function settles what it is there for. -/
theorem Covered.undo (covered : Covered cfg state (first :: deferred)) (main : Main) :
    Covered cfg { state.undo cfg first with main } deferred := by
  refine ⟨fun ip member => ?_, fun undo due => ?_, ?_⟩
  · obtain ⟨earlier, kept⟩ := mem_routes_undo member
    obtain ⟨undo, known, removes⟩ := covered.routes ip earlier
    refine ⟨undo, (mem_cons.mp known).resolve_left ?_, ?_⟩
    · rintro rfl
      exact kept removes
    · cases first <;> exact removes
  · obtain ⟨earlier, other⟩ := due_undo due
    exact (mem_cons.mp (covered.due undo earlier)).resolve_left other
  · cases first with
    | disable => exact covered.unlocked
    | _ => exact Os.unlocked_call rfl covered.unlocked

/-- Everything so far is covered, and the device is there by the time it is used. -/
structure Undoable (cfg : Config) (state : State) : Prop where
  covered : ∀ deferred ∈ state.main.deferred, Covered cfg state deferred
  raised : ∀ deferred, state.main = .bringUp .configure deferred ∨
    state.main = .bringUp .capture deferred → Undo.closeTUN ∈ deferred

variable {pc : BringUp}

theorem Covered.goes (covered : Covered cfg state deferred)
    (reached : state.main = .bringUp pc deferred)
    (raised : pc = .configure ∨ pc = .capture → Undo.closeTUN ∈ deferred) :
    Undoable cfg state := by
  refine ⟨fun known same => ?_, fun known at_ => ?_⟩
  · rw [reached] at same
    cases same
    exact covered
  · rw [reached] at at_
    simp only [Main.bringUp.injEq] at at_
    rcases at_ with ⟨here, rfl⟩ | ⟨here, rfl⟩
    · exact raised (.inl here)
    · exact raised (.inr here)

variable {outcome : Outcome} (kept : outcome ≠ .lapsed)

include kept

/-- A call that can fail: either it defers what it needs, or the bring-up unwinds. -/
theorem Covered.attempt (covered : Covered cfg state deferred) {call : OsCall}
    (more : ∀ undo ∈ deferred, undo ∈ later) (arms : call.arms = false)
    (back : ∀ undo, call.takenBackBy = some undo → undo ∈ later) (added : call.adds = [])
    (split : call = .addSplitDefaultRoute → Undo.closeTUN ∈ deferred)
    (raised : pc = .configure ∨ pc = .capture → Undo.closeTUN ∈ later) :
    Undoable cfg (state.attempt call outcome (.bringUp pc later) deferred) := by
  cases outcome with
  | done =>
    refine (covered.call more arms back (fun ip member => ?_) _).goes rfl raised
    rw [added] at member
    cases member
  | refused =>
    refine ⟨fun known same => ?_, nofun⟩
    cases same
    exact covered.refuse split _
  | lapsed => exact absurd rfl kept

omit kept in
/-- Excluding addresses one by one adds only their routes. -/
theorem excludeEach_spec (ips : List Address) (os : Os) :
    let after := ips.foldl (fun os ip => os.call (.addExclusionRoutes [ip])) os
    (∀ ip ∈ after.routes, ip ∈ os.routes ∨ ip ∈ ips) ∧
      (∀ undo : Undo, undo.due after → undo.due os) ∧
        after.lockdown = os.lockdown ∧ after.stray = os.stray := by
  induction ips generalizing os with
  | nil => exact ⟨fun _ => .inl, fun _ => id, rfl, rfl⟩
  | cons first rest ih =>
    obtain ⟨routes, due, same⟩ := ih (os.call (.addExclusionRoutes [first]))
    refine ⟨fun ip member => ?_, fun undo more => ?_, same⟩
    · rcases routes ip member with earlier | later
      · rcases Os.mem_routes_call earlier with before | new
        · exact .inl before
        · exact .inr (mem_singleton.mp new ▸ .head _)
      · exact .inr (.tail _ later)
    · rcases Os.due_call (due undo more) with before | new
      · exact before
      · cases new

theorem Undoable.bringUp (undoable : Undoable cfg state)
    (reached : state.main = .bringUp pc deferred) (early : pc ≠ .arm) :
    Undoable cfg (state.bringUp cfg deferred outcome pc) := by
  have covered : Covered cfg state deferred :=
    undoable.covered deferred (by rw [reached]; rfl)
  have deeper : ∀ first : Undo, ∀ undo ∈ deferred, undo ∈ first :: deferred := fun _ _ =>
    mem_cons_of_mem _
  cases pc with
  | gateway =>
    exact covered.attempt kept (fun _ => id) rfl nofun rfl nofun (by simp)
  | excludeControl =>
    refine (covered.call (deeper .removeControl) rfl (fun _ none => by cases none)
      (fun ip member => ?_) _).goes rfl (by simp)
    exact ⟨_, .head _, member⟩
  | goLive =>
    obtain ⟨routes, due, lockdown, stray⟩ := excludeEach_spec state.excluder.seen state.os
    refine Covered.goes ⟨fun ip member => ?_, fun undo more => ?_, ?_⟩ rfl (by simp)
    · rcases routes ip member with earlier | reserved
      · obtain ⟨undo, known, removes⟩ := covered.routes ip earlier
        exact ⟨undo, .tail _ (.tail _ known), removes⟩
      · exact ⟨.removeReserved, .tail _ (.head _), reserved⟩
    · exact .tail _ (.tail _ (covered.due undo (due undo more)))
    · exact ⟨lockdown.trans covered.unlocked.1, stray.trans covered.unlocked.2⟩
  | excludeBypass =>
    -- The routes are covered with what is learned so far, and then with more.
    have seeded : Covered cfg { state with
          policy := { state.policy with
            dynamic := (state.policy.dynamic ++ cfg.resolved).dedup }
          entries := cfg.statics ++ (state.policy.dynamic ++ cfg.resolved).dedup }
        deferred := by
      refine ⟨fun ip member => ?_, covered.due, covered.unlocked⟩
      obtain ⟨undo, known, removes⟩ := covered.routes ip member
      refine ⟨undo, known, ?_⟩
      cases undo with
      | removeLearned => exact mem_dedup.mpr (mem_append_left _ removes)
      | _ => exact removes
    cases mode : cfg.mode with
    | excluding =>
      simp only [State.bringUp, mode]
      refine (seeded.call (fun undo known => .tail _ (.tail _ known)) rfl
        (fun _ none => by cases none) (fun ip member => ?_) _).goes rfl (by simp)
      rcases mem_append.mp member with static | learned
      · exact ⟨.removeStatics, .head _, static⟩
      · exact ⟨.removeLearned, .tail _ (.head _), learned⟩
    | including =>
      simp only [State.bringUp, mode]
      exact Covered.goes ⟨seeded.routes, seeded.due, seeded.unlocked⟩ rfl (by simp)
  | createTUN =>
    refine covered.attempt kept (deeper .closeTUN) rfl (fun undo same => ?_) rfl nofun
      fun _ => .head _
    cases same
    exact .head _
  | configure =>
    have raised := undoable.raised deferred (.inl reached)
    exact covered.attempt kept (fun _ => id) rfl nofun rfl nofun fun _ => raised
  | capture =>
    have raised := undoable.raised deferred (.inr reached)
    cases mode : cfg.mode with
    | excluding =>
      simp only [State.bringUp, mode]
      refine covered.attempt kept (fun _ => id) rfl (fun undo same => ?_) rfl
        (fun _ => raised) (by simp)
      cases same
      exact raised
    | including =>
      simp only [State.bringUp, mode]
      refine (covered.call (fun undo known => .tail _ (.tail _ known)) rfl (fun undo same => ?_)
        (fun _ none => by cases none) _).goes rfl (by simp)
      cases same
      exact .tail _ (.tail _ raised)
  | disableIPv6 =>
    refine (covered.call (deeper .enableIPv6) rfl (fun undo same => ?_)
      (fun _ none => by cases none) _).goes rfl (by simp)
    cases same
    exact .head _
  | startNetstack =>
    have settled : Undoable cfg (state.attempt .startNetstack outcome
        (.bringUp .captureDNS (.closeNetstack :: deferred)) deferred) := by
      refine covered.attempt kept (deeper .closeNetstack) rfl (fun undo same => ?_) rfl
        nofun (by simp)
      cases same
      exact .head _
    refine ⟨fun known same => ?_, settled.raised⟩
    have still := settled.covered known same
    exact ⟨still.routes, still.due, still.unlocked⟩
  | captureDNS =>
    refine covered.attempt kept (deeper .releaseDNS) rfl (fun undo same => ?_) rfl nofun (by simp)
    cases same
    exact .head _
  | serve =>
    simp only [State.bringUp]
    split_ifs
    · refine covered.attempt kept (deeper .revoke) rfl (fun undo same => ?_) rfl nofun (by simp)
      cases same
      exact .head _
    · exact Covered.goes ⟨covered.routes, covered.due, covered.unlocked⟩ rfl (by simp)
  | arm => exact absurd rfl early

/-- The arming either succeeds or leaves what it found. -/
theorem Undoable.arm (undoable : Undoable cfg state)
    (reached : state.main = .bringUp .arm deferred) :
    Undoable cfg (state.bringUp cfg deferred outcome .arm) := by
  have covered : Covered cfg state deferred :=
    undoable.covered deferred (by rw [reached]; rfl)
  simp only [State.bringUp]
  split_ifs
  · exact ⟨nofun, nofun⟩
  · cases outcome with
    | done => exact ⟨nofun, nofun⟩
    | refused =>
      refine ⟨fun known same => ?_, nofun⟩
      cases same
      refine ⟨covered.routes, fun undo due => ?_, covered.unlocked⟩
      rcases Os.due_refuse due with earlier | ⟨split, _⟩
      · exact covered.due undo earlier
      · cases split
    | lapsed => exact absurd rfl kept

omit kept

/-- The split default has not been asked for yet. -/
def BringUp.early : BringUp → Bool
  | .gateway | .excludeControl | .goLive | .excludeBypass | .createTUN | .configure
  | .capture => true
  | .disableIPv6 | .startNetstack | .captureDNS | .serve | .arm => false

/-- No exclusion route is asked for after the split default. -/
def CarvedFirst (calls : List OsCall) : Prop :=
  calls.Pairwise fun earlier later =>
    earlier = .addSplitDefaultRoute → ∀ ips, later ≠ .addExclusionRoutes ips

variable {calls : List OsCall}

theorem CarvedFirst.append {new : List OsCall} (ordered : CarvedFirst calls)
    (among : CarvedFirst new) (fits : (∀ call ∈ new, ∀ ips, call ≠ .addExclusionRoutes ips) ∨
      OsCall.addSplitDefaultRoute ∉ calls) : CarvedFirst (calls ++ new) := by
  refine pairwise_append.mpr ⟨ordered, among, fun earlier known later fresh split => ?_⟩
  rcases fits with fits | unsplit
  · exact fits later fresh
  · exact absurd (split ▸ known) unsplit

theorem carvedFirst_of_unsplit (unsplit : OsCall.addSplitDefaultRoute ∉ calls) :
    CarvedFirst calls :=
  pairwise_iff_forall_sublist.mpr fun sub split => absurd (split ▸ sub.subset (.head _)) unsplit

/-- The calls of a step, whether they succeed or not. -/
def BringUp.requests (cfg : Config) (state : State) : BringUp → List OsCall
  | .gateway => [.defaultGateway]
  | .excludeControl => [.addExclusionRoutes cfg.control]
  | .goLive => state.excluder.seen.map fun ip => .addExclusionRoutes [ip]
  | .excludeBypass =>
    if cfg.mode = .excluding then
      [.addExclusionRoutes (cfg.statics ++ (state.policy.dynamic ++ cfg.resolved).dedup)]
    else []
  | .createTUN => [.createTUN]
  | .configure => [.configureTunInterface]
  | .capture =>
    if cfg.mode = .excluding then [.addSplitDefaultRoute]
    else [.addInclusionRoutes state.entries]
  | .disableIPv6 => [.disablePhysicalIPv6]
  | .startNetstack => [.startNetstack]
  | .captureDNS => [.captureDNS]
  | .serve => if cfg.serveEgress then [.allowServedEgress] else []
  | .arm =>
    if cfg.killSwitch then
      [.enableKillSwitch (cfg.control ++ state.excluder.seen)
        (cfg.statics ++ state.policy.dynamic)]
    else []

theorem calls_attempt (state : State) (call : OsCall) (outcome : Outcome) (main : Main)
    (deferred : List Undo) :
    (state.attempt call outcome main deferred).os.calls = state.os.calls ++ [call] := by
  unfold State.attempt
  split_ifs <;> rfl

theorem calls_excludeEach (ips : List Address) (os : Os) :
    (ips.foldl (fun os ip => os.call (.addExclusionRoutes [ip])) os).calls =
      os.calls ++ ips.map fun ip => .addExclusionRoutes [ip] := by
  induction ips generalizing os with
  | nil => simp
  | cons first rest ih =>
    rw [foldl_cons, ih, map_cons]
    simp [Os.call]

/-- A step makes the calls listed for it. -/
theorem calls_bringUp (cfg : Config) (state : State) (deferred : List Undo) (outcome : Outcome)
    (pc : BringUp) :
    (state.bringUp cfg deferred outcome pc).os.calls =
      state.os.calls ++ pc.requests cfg state := by
  cases pc with
  | gateway | createTUN | configure | captureDNS => exact calls_attempt ..
  | excludeControl | disableIPv6 => rfl
  | goLive => exact calls_excludeEach ..
  | excludeBypass =>
    cases mode : cfg.mode <;> simp [State.bringUp, BringUp.requests, mode, State.call, Os.call]
  | capture =>
    cases mode : cfg.mode with
    | excluding => simp [State.bringUp, BringUp.requests, mode, calls_attempt]
    | including => simp [State.bringUp, BringUp.requests, mode, State.call, Os.call]
  | startNetstack => exact calls_attempt state _ outcome _ deferred
  | serve =>
    simp only [State.bringUp, BringUp.requests]
    split_ifs
    · exact calls_attempt ..
    · simp
  | arm =>
    simp only [State.bringUp, BringUp.requests, Bool.not_eq_true']
    cases cfg.killSwitch with
    | false => simp
    | true => exact calls_attempt ..

/-- Exclusion routes are asked for only before the split default. -/
theorem requests_late (late : pc.early = false) :
    ∀ call ∈ pc.requests cfg state, ∀ ips, call ≠ .addExclusionRoutes ips := by
  intro call member ips
  cases pc with
  | serve | arm =>
    simp only [BringUp.requests] at member
    split_ifs at member <;> simp_all
  | disableIPv6 | startNetstack | captureDNS =>
    rw [mem_singleton.mp member]
    nofun
  | _ => cases late

theorem split_mem_requests :
    OsCall.addSplitDefaultRoute ∈ pc.requests cfg state ↔
      pc = .capture ∧ cfg.mode = .excluding := by
  cases pc <;> simp only [BringUp.requests] <;> (try split_ifs) <;> simp_all

theorem carvedFirst_requests (pc : BringUp) : CarvedFirst (pc.requests cfg state) := by
  by_cases split : OsCall.addSplitDefaultRoute ∈ pc.requests cfg state
  · obtain ⟨rfl, mode⟩ := split_mem_requests.mp split
    simp only [BringUp.requests, if_pos mode]
    exact pairwise_singleton _ _
  · exact carvedFirst_of_unsplit split

/-- The step after this one. -/
def BringUp.successor : BringUp → Option BringUp
  | .gateway => some .excludeControl
  | .excludeControl => some .goLive
  | .goLive => some .excludeBypass
  | .excludeBypass => some .createTUN
  | .createTUN => some .configure
  | .configure => some .capture
  | .capture => some .disableIPv6
  | .disableIPv6 => some .startNetstack
  | .startNetstack => some .captureDNS
  | .captureDNS => some .serve
  | .serve => some .arm
  | .arm => none

theorem early_successor {after : BringUp} (next : pc.successor = some after) :
    after.early ↔ pc.early ∧ pc ≠ .capture := by
  cases pc <;> cases next <;> decide

/-- A step fails, or the bring-up goes on to the next one, or it is done. -/
theorem main_bringUp (cfg : Config) (state : State) (deferred : List Undo) (outcome : Outcome)
    (pc : BringUp) :
    (state.bringUp cfg deferred outcome pc).main = .unwinding deferred ∨
      (∃ after later, pc.successor = some after ∧
        (state.bringUp cfg deferred outcome pc).main = .bringUp after later) ∨
      pc = .arm ∧ (state.bringUp cfg deferred outcome pc).main = .up := by
  have attempted : ∀ call after later,
      (state.attempt call outcome (.bringUp after later) deferred).main = .unwinding deferred ∨
        (state.attempt call outcome (.bringUp after later) deferred).main =
          .bringUp after later := by
    intro call after later
    unfold State.attempt
    split_ifs
    · exact .inr rfl
    · exact .inl rfl
  cases pc with
  | gateway | createTUN | configure | startNetstack | captureDNS =>
    exact (attempted _ _ _).imp_right fun went => .inl ⟨_, _, rfl, went⟩
  | excludeControl | goLive | disableIPv6 => exact .inr (.inl ⟨_, _, rfl, rfl⟩)
  | excludeBypass =>
    simp only [State.bringUp]
    cases cfg.mode <;> exact .inr (.inl ⟨_, _, rfl, rfl⟩)
  | capture =>
    simp only [State.bringUp]
    cases cfg.mode with
    | excluding => exact (attempted _ _ _).imp_right fun went => .inl ⟨_, _, rfl, went⟩
    | including => exact .inr (.inl ⟨_, _, rfl, rfl⟩)
  | serve =>
    simp only [State.bringUp]
    split_ifs
    · exact (attempted _ _ _).imp_right fun went => .inl ⟨_, _, rfl, went⟩
    · exact .inr (.inl ⟨_, _, rfl, rfl⟩)
  | arm =>
    simp only [State.bringUp, State.attempt]
    split_ifs
    · exact .inr (.inr ⟨trivial, rfl⟩)
    · exact .inr (.inr ⟨trivial, rfl⟩)
    · exact .inl rfl

/-- The calls made so far, by where the bring-up is. -/
def Ordered (cfg : Config) (state : State) : Prop :=
  match state.main with
  | .bringUp pc _ =>
    CarvedFirst state.os.calls ∧
      (pc.early → OsCall.addSplitDefaultRoute ∉ state.os.calls) ∧
      (pc.early = false → cfg.mode = .excluding →
        OsCall.addSplitDefaultRoute ∈ state.os.calls)
  | .up =>
    CarvedFirst state.os.calls ∧
      (cfg.mode = .excluding → OsCall.addSplitDefaultRoute ∈ state.os.calls) ∧
      (cfg.killSwitch → ∃ control bypass,
        state.os.calls.getLast? = some (.enableKillSwitch control bypass))
  | _ => True

theorem Ordered.bringUp (ordered : Ordered cfg state) (outcome : Outcome)
    (reached : state.main = .bringUp pc deferred) :
    Ordered cfg (state.bringUp cfg deferred outcome pc) := by
  simp only [Ordered, reached] at ordered
  obtain ⟨carved, unsplit, split⟩ := ordered
  have calls := calls_bringUp cfg state deferred outcome pc
  have kept : CarvedFirst (state.bringUp cfg deferred outcome pc).os.calls := by
    rw [calls]
    refine carved.append (carvedFirst_requests pc) ?_
    cases early : pc.early with
    | true => exact .inr (unsplit early)
    | false => exact .inl (requests_late early)
  rcases main_bringUp cfg state deferred outcome pc with
    failed | ⟨after, later, next, went⟩ | ⟨rfl, up⟩
  · simp only [Ordered, failed]
  · simp only [Ordered, went]
    rw [calls, mem_append, split_mem_requests, ← Bool.not_eq_true, early_successor next]
    refine ⟨calls ▸ kept, fun ⟨early, other⟩ => ?_, fun late mode => ?_⟩
    · rintro (before | ⟨same, _⟩)
      · exact unsplit early before
      · exact other same
    · cases early : pc.early with
      | false => exact .inl (split early mode)
      | true =>
        refine .inr ⟨?_, mode⟩
        by_contra other
        exact late ⟨early, other⟩
  · simp only [Ordered, up]
    refine ⟨kept, fun mode => ?_, fun armed => ?_⟩
    · rw [calls]
      exact mem_append_left _ (split rfl mode)
    · rw [calls]
      simp [BringUp.requests, armed]

/-- Only the session's goroutine moves, and none of its calls takes effect that reports an error. -/
def alone (_ : State) : Label → Bool
  | .proceed outcome => outcome != .lapsed
  | _ => false

structure BroughtUp (cfg : Config) (state : State) : Prop where
  undoable : Undoable cfg state
  ordered : Ordered cfg state
  unclosed : ∀ pc, state.main ≠ .closing pc

/-- Every step of the bring-up can be undone. -/
theorem BroughtUp.step {label : Label} (brought : BroughtUp cfg state)
    (met : alone state label) (moves : (tunnel cfg).step state label = some next) :
    BroughtUp cfg next := by
  cases label with
  | close | reserve ips | observe ips | resume index => cases met
  | proceed outcome =>
    simp only [tunnel, State.proceed] at moves
    cases reached : state.main <;> rw [reached] at moves
    case failed | up | closed => cases moves
    case closing pc => exact absurd reached (brought.unclosed pc)
    case unwinding deferred =>
      have covered := brought.undoable.covered deferred (by rw [reached]; rfl)
      cases deferred with
      | nil =>
        cases moves
        refine ⟨⟨fun _ same => ?_, nofun⟩, trivial, nofun⟩
        cases same
        exact ⟨covered.routes, covered.due, covered.unlocked⟩
      | cons =>
        cases moves
        refine ⟨⟨fun _ same => ?_, nofun⟩, trivial, nofun⟩
        cases same
        exact covered.undo _
    case bringUp pc deferred =>
      cases moves
      have kept : outcome ≠ .lapsed := bne_iff_ne.mp met
      refine ⟨?_, brought.ordered.bringUp outcome reached, fun closing ends => ?_⟩
      · by_cases last : pc = .arm
        · subst last
          exact brought.undoable.arm kept reached
        · exact brought.undoable.bringUp kept reached last
      · rcases main_bringUp cfg state deferred outcome pc with
          failed | ⟨after, later, _, went⟩ | ⟨_, up⟩
        · cases failed.symm.trans ends
        · cases went.symm.trans ends
        · cases up.symm.trans ends

/-- A serving session with a kill-switch, a reserved address and a bypassed name. -/
def servingConfig : Config where
  mode := .excluding
  killSwitch := true
  serveEgress := true
  control := ["192.0.2.1"]
  statics := ["198.51.100.0/24"]
  resolved := ["203.0.113.9"]

end Bacchus.Tunnel
