import Bacchus.Client.Attempts
import Mathlib.Algebra.Order.BigOperators.Group.Finset

/-!
# Winding down

After a disconnect, attempts and disconnects that are under way come to an end, with nothing left
alive, as long as no new connect comes in between. What each of them has still to do is counted.
-/

namespace Bacchus.Client

open Function (update_of_ne)
open Option

/-- How many calls and sections an attempt has still to make, at most. -/
def ConnectStep.left : ConnectStep → Nat
  | .absent | .installed | .finished => 0
  | .clearing => 1
  | .aborting => 2
  | .cancelling _ => 3
  | .stopping _ => 4
  | .closing => 5
  | .installing => 6
  | .enforcing => 7
  | .dialing => 8
  | .launching => 9
  | .building => 10
  | .enrolling => 11
  | .preparing => 12
  | .announcing => 13

def DisconnectStep.left : DisconnectStep → Nat
  | .closeSession => 3
  | .cancel => 2
  | .stopEngine => 1
  | .returned => 0

/-- An attempt or a disconnect goes on. -/
def AttemptLabel.winds : AttemptLabel → Bool
  | .proceed _ _ | .resume _ => true
  | _ => false

namespace Attempts

variable {attempts next : Attempts} {gen : Gen} {enforcer : Bool}

/-- An attempt goes on until nothing is left, and installs nothing in a disconnected client. -/
theorem advance_left (enforcer : Bool) (gen : Gen) (succeeds : Bool)
    (idle : attempts.controller.state = .disconnected) :
    (attempts.advance enforcer gen succeeds = none → (attempts.step gen).left = 0) ∧
      ∀ next ∈ attempts.advance enforcer gen succeeds,
        (next.step gen).left < (attempts.step gen).left ∧
          next.controller.state = .disconnected := by
  have stale : attempts.controller.install gen = none := by simp [Controller.install, idle]
  have unannounced : attempts.controller.announce gen = attempts.controller := by
    simp [Controller.announce, idle]
  have aborted : (attempts.controller.abort gen).state = .disconnected := by
    unfold Controller.abort
    split_ifs <;> first | rfl | exact idle
  unfold advance
  cases reached : attempts.step gen
  case absent | installed | finished => exact ⟨fun _ => rfl, by rintro _ ⟨⟩⟩
  all_goals
    simp only [stale, unannounced]
    refine ⟨by rintro ⟨⟩, fun next moves => ?_⟩
    cases moves
    (repeat' split) <;> simp [setStep, finish, setLife, ConnectStep.left, idle, aborted]

/-- How many steps all of them have still to make, at most. -/
def left (attempts : Attempts) : Nat :=
  (∑ gen ∈ Finset.range (attempts.controller.gen + 1), (attempts.step gen).left) +
    (attempts.disconnects.map fun disconnecting => disconnecting.step.left).sum

/-- An attempt or a disconnect that goes on brings the end closer, and nothing but a connect puts
it off. -/
theorem winds_step {label : AttemptLabel} (accounted : attempts.Accounted)
    (idle : attempts.controller.state = .disconnected) (other : label ≠ .connect)
    (moves : (connectingClient enforcer).step attempts label = some next) :
    next.controller.state = .disconnected ∧
      next.left + (if label.winds then 1 else 0) ≤ attempts.left := by
  cases label with
  | connect => exact absurd rfl other
  | disconnect =>
    -- the disconnect finds nothing to tear down, and the generation it begins has no attempt
    cases moves
    have held := accounted.steady.held_eq_none (by simp [idle])
    have absent := (accounted.unborn _ (Nat.lt_succ_self _)).1
    refine ⟨rfl, ?_⟩
    simp [left, disconnectNow, Controller.disconnect, Controller.enter, held, absent,
      Finset.sum_range_succ, ConnectStep.left, DisconnectStep.left, AttemptLabel.winds]
  | event gen event =>
    cases moves
    refine ⟨?_, ?_⟩
    · simp [Controller.onEvent, stateFor, idle]
    · simp [left, AttemptLabel.winds]
  | proceed gen succeeds =>
    obtain ⟨less, still⟩ := (advance_left enforcer gen succeeds idle).2 next moves
    obtain ⟨_, ⟨step, goes, _⟩, gens⟩ := accounted.advance moves
    refine ⟨still, Nat.succ_le_of_lt ?_⟩
    unfold left
    rw [goes.disconnects, gens]
    refine Nat.add_lt_add_right (Finset.sum_lt_sum (fun other _ => ?_) ⟨gen, ?_, less⟩) _
    · by_cases here : other = gen
      · exact here ▸ less.le
      · rw [goes.step, update_of_ne here]
    · refine Finset.mem_range_succ_iff.mpr (accounted.begun fun absent => ?_)
      rw [absent] at less
      cases less
  | resume index =>
    obtain ⟨disconnecting, found, resumed⟩ := bind_eq_some_iff.mp moves
    obtain ⟨gen, taken, resumed⟩ := bind_eq_some_iff.mp resumed
    obtain ⟨⟨ended, after⟩, called, rfl⟩ := map_eq_some_iff.mp resumed
    have less : after.left < disconnecting.step.left := by
      cases step : disconnecting.step <;> rw [step] at called <;> cases called <;> decide
    have sums := Threads.sum_set (fun disconnecting => disconnecting.step.left)
      { disconnecting with step := after } found
    refine ⟨idle, Nat.add_lt_add_left ?_ _⟩
    dsimp only at sums ⊢
    omega

theorem left_follow {labels : List AttemptLabel} {final : Attempts}
    (accounted : attempts.Accounted) (idle : attempts.controller.state = .disconnected)
    (followed : (connectingClient enforcer).follow attempts labels = some final)
    (others : AttemptLabel.connect ∉ labels) :
    final.Accounted ∧ final.controller.state = .disconnected ∧
      final.left + labels.countP AttemptLabel.winds ≤ attempts.left := by
  induction labels generalizing attempts with
  | nil =>
    cases followed
    exact ⟨accounted, idle, le_rfl⟩
  | cons label rest ih =>
    obtain ⟨next, moves, followed⟩ := bind_eq_some_iff.mp followed
    obtain ⟨first, others⟩ := not_or.mp (List.mem_cons.not.mp others)
    obtain ⟨still, less⟩ := winds_step accounted idle (Ne.symm first) moves
    obtain ⟨ended, calm, bound⟩ := ih (accounted.step moves) still followed others
    refine ⟨ended, calm, ?_⟩
    rw [List.countP_cons]
    omega

end Attempts

/-- However the client has got to where it is: after a disconnect, and until the next connect, the
attempts and disconnects under way go on for a bounded number of steps only, whatever comes of
their calls and whatever else happens in between. When none of them can go on any more, no
context, engine or session is live. -/
theorem disconnect_winds_down {enforcer : Bool} {before labels : List AttemptLabel}
    {attempts final : Attempts}
    (runs : (connectingClient enforcer).Runs Machine.free before attempts)
    (followed : (connectingClient enforcer).follow attempts.disconnectNow labels = some final)
    (others : AttemptLabel.connect ∉ labels) :
    labels.countP AttemptLabel.winds ≤ attempts.disconnectNow.left ∧
      ((∀ label : AttemptLabel, label.winds = true →
          (connectingClient enforcer).step final label = none) →
        ∀ gen resource, final.made gen resource ≠ .live) := by
  have accounted := (Attempts.Accounted.runs runs).disconnectNow
  obtain ⟨accounted, idle, bound⟩ := Attempts.left_follow accounted rfl followed others
  refine ⟨by omega, fun stuck gen resource live => ?_⟩
  -- Whoever is charged with what is live could go on.
  rcases accounted.charged gen resource live with own | held | ⟨disconnecting, member, taken, keeps⟩
  · have zero := (Attempts.advance_left enforcer gen true idle).1 (stuck (.proceed gen true) rfl)
    cases step : final.step gen <;> rw [step] at own zero
    case absent | installed | finished => cases resource <;> cases own
    all_goals cases zero
  · rw [accounted.steady.held_eq_none (by simp [idle])] at held
    cases held
  · obtain ⟨index, found⟩ := List.mem_iff_getElem?.mp member
    have none := stuck (.resume index) rfl
    simp only [connectingClient, found, taken, bind_some, map_eq_none_iff] at none
    cases step : disconnecting.step <;> rw [step] at none keeps
    case returned => cases resource <;> cases keeps
    all_goals cases none

/-- A disconnect during the dial: the attempt opens a session nobody wants, and ends it again. -/
theorem dial_winds_down : ∃ attempts final,
    (connectingClient true).Runs Machine.free (.connect :: List.replicate 5 (.proceed 1 true))
        attempts ∧
      (connectingClient true).follow attempts.disconnectNow
        (List.replicate 6 (.proceed 1 true)) = some final ∧
      final.made 1 .session ≠ .unmade ∧ ∀ gen resource, final.made gen resource ≠ .live := by
  obtain ⟨attempts, reached⟩ : ∃ attempts, (connectingClient true).follow {}
      (.connect :: List.replicate 5 (.proceed 1 true)) = some attempts := ⟨_, rfl⟩
  have runs := Machine.Runs.ofFollow rfl reached (Machine.meets_free _ _)
  obtain ⟨final, followed⟩ : ∃ final, (connectingClient true).follow attempts.disconnectNow
      (List.replicate 6 (.proceed 1 true)) = some final := by
    cases reached
    exact ⟨_, rfl⟩
  refine ⟨attempts, final, runs, followed, ?_,
    (disconnect_winds_down runs followed (by decide)).2 fun label winds => ?_⟩
  · cases reached
    cases followed
    nofun
  · cases reached
    cases followed
    rcases label with _ | _ | ⟨gen, succeeds⟩ | ⟨_ | _⟩ | _ <;> try cases winds
    · by_cases first : gen = 1
      · subst first
        rfl
      · simp [connectingClient, Attempts.advance, Attempts.setStep, Attempts.finish,
          Attempts.setLife, Attempts.disconnectNow, Controller.connect, update_of_ne first]
    · rfl
    · rfl

end Bacchus.Client
