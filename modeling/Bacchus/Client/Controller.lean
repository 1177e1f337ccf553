import Mathlib.Data.List.Basic

/-!
# The desktop client's controller

The fields of `appstate.Controller` that decide the headline state, and each of its mutex
sections as one function. `publishLocked` runs inside the mutex.
-/

namespace Bacchus.Client

/-- The headline state; `protecting` is the source's `Protected`. -/
inductive ConnState where
  | disconnected
  | connecting
  | protecting
  | blocked
deriving DecidableEq

/-- The kinds of engine events. -/
inductive EventKind where
  | info | session | ice | connected | error
deriving DecidableEq

/-- An engine event. -/
structure Event where
  kind : EventKind
  session : String
  message : String
deriving DecidableEq

def contains (text pattern : String) : Bool :=
  text.toList.tails.any fun suffix => pattern.toList.isPrefixOf suffix

/-- `StateFor`: the next headline state. -/
def stateFor (current : ConnState) (event : Event) : ConnState :=
  if event.kind ≠ .ice ∨ (current ≠ .protecting ∧ current ≠ .blocked) then current
  else if contains event.message ": disconnected" || contains event.message ": failed" ||
      contains event.message ": closed" then .blocked
  else if contains event.message ": connected" || contains event.message ": completed" then
    .protecting
  else current

/-- A connect attempt, named by the generation it was given. -/
abbrev Gen := Nat

/-- The controller behind its mutex. -/
structure Controller where
  state : ConnState := .disconnected
  /-- What `OnState` was last given. -/
  published : ConnState := .disconnected
  gen : Gen := 0
  /-- The attempt whose engine and enforcement session the controller holds. -/
  held : Option Gen := none

namespace Controller

/-- `publishLocked` with the state just set. -/
def enter (ctrl : Controller) (state : ConnState) (held : Option Gen) : Controller :=
  { ctrl with state, published := state, held }

/-- `Connect`: refused unless disconnected. The state is not announced yet. -/
def connect (ctrl : Controller) : Option Controller :=
  if ctrl.state ≠ .disconnected then none
  else some { ctrl with gen := ctrl.gen + 1, state := .connecting }

/-- The goroutine of `Connect` announces the attempt, if it is still wanted. -/
def announce (ctrl : Controller) (gen : Gen) : Controller :=
  if ctrl.gen = gen ∧ ctrl.state = .connecting then
    { ctrl with published := .connecting }
  else ctrl

/-- The last section of `connectAsync`; a stale attempt installs nothing. -/
def install (ctrl : Controller) (gen : Gen) : Option Controller :=
  if ctrl.gen ≠ gen ∨ ctrl.state ≠ .connecting then none
  else some (ctrl.enter .protecting (some gen))

/-- The second section of `abortWith`. -/
def abort (ctrl : Controller) (gen : Gen) : Controller :=
  if ctrl.gen = gen then ctrl.enter .disconnected none else ctrl

/-- The section of `disconnectNow`. -/
def disconnect (ctrl : Controller) : Controller :=
  { ctrl.enter .disconnected none with gen := ctrl.gen + 1 }

/-- `onEvent`: an event of a stale attempt is dropped. -/
def onEvent (ctrl : Controller) (gen : Gen) (event : Event) : Controller :=
  if ctrl.gen ≠ gen then ctrl
  else
    let next := stateFor ctrl.state event
    if next ≠ ctrl.state then ctrl.enter next ctrl.held else ctrl

variable (ctrl : Controller)

/-- An announcement begins no attempt. -/
@[simp] theorem gen_announce (gen : Gen) :
    (ctrl.announce gen).gen = ctrl.gen := by
  unfold announce
  split_ifs <;> rfl

/-- An event begins no attempt. -/
@[simp] theorem gen_onEvent (gen : Gen) (event : Event) :
    (ctrl.onEvent gen event).gen = ctrl.gen := by
  simp only [onEvent]
  split_ifs <;> rfl

/-- An abort begins no attempt. -/
@[simp] theorem gen_abort (gen : Gen) :
    (ctrl.abort gen).gen = ctrl.gen := by
  unfold abort
  split_ifs <;> rfl

variable {ctrl next : Controller} {gen : Gen}

/-- Exactly the attempt in force can install, while it is connecting. -/
theorem install_eq_some :
    ctrl.install gen = some next ↔ ctrl.gen = gen ∧ ctrl.state = .connecting ∧
        next = ctrl.enter .protecting (some gen) := by
  unfold install
  split_ifs with stale
  · simp only [false_iff]
    rintro ⟨same, connecting, _⟩
    simp [same, connecting] at stale
  · obtain ⟨same, connecting⟩ := not_or.mp stale
    simp [not_not.mp same, not_not.mp connecting, eq_comm]

/-- What the user is shown is never more than the controller's own state. -/
def Honest (ctrl : Controller) : Prop :=
  ctrl.published = .protecting ↔ ctrl.state = .protecting

/-- Entering a state publishes it. -/
theorem Honest.enter (state : ConnState) (held : Option Gen) :
    (ctrl.enter state held).Honest := Iff.rfl

/-- A connect that starts keeps the controller honest. -/
theorem Honest.connect (honest : ctrl.Honest) (connected : ctrl.connect = some next) :
    next.Honest := by
  unfold Controller.connect at connected
  split_ifs at connected with busy
  cases connected
  unfold Honest at *
  rw [not_not.mp busy] at honest
  simp [honest]

/-- Announcing an attempt keeps it honest, in time or late. -/
theorem Honest.announce (honest : ctrl.Honest) (gen : Gen) :
    (ctrl.announce gen).Honest := by
  unfold Controller.announce
  split_ifs with current
  · simp [Honest, current.2]
  · exact honest

/-- An attempt that gives up keeps it honest. -/
theorem Honest.abort (honest : ctrl.Honest) (gen : Gen) : (ctrl.abort gen).Honest := by
  unfold Controller.abort
  split_ifs
  · exact .enter _ _
  · exact honest

/-- An event of a session keeps it honest. -/
theorem Honest.onEvent (honest : ctrl.Honest) (gen : Gen) (event : Event) :
    (ctrl.onEvent gen event).Honest := by
  simp only [Controller.onEvent]
  split_ifs
  · exact honest
  · exact .enter _ _
  · exact honest

/-- The controller holds the attempt it is on, exactly while it shows a session. -/
structure Steady (ctrl : Controller) : Prop where
  holds : ctrl.held.isSome ↔
    ctrl.state = .protecting ∨ ctrl.state = .blocked
  current : ∀ gen ∈ ctrl.held, gen = ctrl.gen

variable (steady : ctrl.Steady)

include steady

/-- A controller that shows no session holds none. -/
theorem Steady.held_eq_none
    (shown : ¬(ctrl.state = .protecting ∨ ctrl.state = .blocked)) :
    ctrl.held = none := by
  rw [← steady.holds] at shown
  simpa using shown

omit steady in
/-- A disconnected controller that holds nothing is steady. -/
theorem Steady.ended (gen : Gen) (published : ConnState) :
    Steady { state := .disconnected, published, gen, held := none } :=
  ⟨by simp, nofun⟩

/-- A connect needs a free controller and takes a new generation. -/
theorem Steady.connect (connected : ctrl.connect = some next) :
    next.Steady ∧ next.held = none ∧ ctrl.gen < next.gen ∧ ctrl.held = none := by
  unfold Controller.connect at connected
  split_ifs at connected with busy
  cases connected
  have held : ctrl.held = none := steady.held_eq_none (by rw [not_not.mp busy]; simp)
  exact ⟨⟨by simp [held], by simp [held]⟩, held, Nat.lt_succ_self _, held⟩

/-- An announcement keeps what is held. -/
theorem Steady.announce (gen : Gen) :
    (ctrl.announce gen).Steady ∧ (ctrl.announce gen).held = ctrl.held := by
  unfold Controller.announce
  split_ifs
  · exact ⟨⟨steady.holds, steady.current⟩, rfl⟩
  · exact ⟨steady, rfl⟩

/-- An attempt installs over nothing. -/
theorem Steady.install (installed : ctrl.install gen = some next) :
    next.Steady ∧ next.held = some gen ∧ next.gen = ctrl.gen ∧ ctrl.held = none := by
  obtain ⟨same, connecting, rfl⟩ := install_eq_some.mp installed
  have held : ctrl.held = none := steady.held_eq_none (by rw [connecting]; simp)
  refine ⟨⟨by simp [enter], fun other member => ?_⟩, rfl, rfl, held⟩
  obtain rfl := Option.mem_some_iff.mp member
  exact same.symm

/-- An attempt that is not held clears nothing that is. -/
theorem Steady.abort (unheld : ctrl.held ≠ some gen) :
    (ctrl.abort gen).Steady ∧ (ctrl.abort gen).held = ctrl.held := by
  unfold Controller.abort
  split_ifs with current
  · have held : ctrl.held = none := by
      cases found : ctrl.held with
      | none => rfl
      | some other =>
        have same := steady.current other found
        rw [found, same, current] at unheld
        exact absurd rfl unheld
    exact ⟨.ended _ _, held.symm⟩
  · exact ⟨steady, rfl⟩

omit steady in
theorem stateFor_session (current : ConnState) (event : Event) :
    (stateFor current event = .protecting ∨ stateFor current event = .blocked) ↔
      (current = .protecting ∨ current = .blocked) := by
  unfold stateFor
  split_ifs with inert down up
  · exact Iff.rfl
  · cases current <;> simp_all
  · cases current <;> simp_all
  · exact Iff.rfl

/-- An event keeps what is held. -/
theorem Steady.onEvent (gen : Gen) (event : Event) :
    (ctrl.onEvent gen event).Steady ∧
      (ctrl.onEvent gen event).held = ctrl.held := by
  simp only [Controller.onEvent]
  split_ifs with stale changed
  · exact ⟨steady, rfl⟩
  · refine ⟨⟨?_, steady.current⟩, rfl⟩
    exact steady.holds.trans (stateFor_session ctrl.state event).symm
  · exact ⟨steady, rfl⟩

end Controller

end Bacchus.Client
