import Bacchus.Client.Controller
import Bacchus.Semantics.Machine

/-!
# Connection-state reports and the headline state

The controller together with the WebRTC sessions of its engines. Every session, whether it
carries the client's own traffic, serves somebody else or lost a race, reports alike.
-/

namespace Bacchus.Client

open Option

/-- `webrtc.ICEConnectionState`. -/
inductive Ice where
  | new | checking | connected | completed | disconnected | failed | closed
deriving DecidableEq

namespace Ice

def text : Ice → String
  | .new => "new"
  | .checking => "checking"
  | .connected => "connected"
  | .completed => "completed"
  | .disconnected => "disconnected"
  | .failed => "failed"
  | .closed => "closed"

/-- The path is down. -/
def isDown : Ice → Bool
  | .disconnected | .failed | .closed => true
  | _ => false

/-- The path is up. -/
def isUp : Ice → Bool
  | .connected | .completed => true
  | _ => false

/-- What `newWebRTCSession` emits; the engine leaves the session of the event empty. -/
def event (ice : Ice) : Event where
  kind := .ice
  session := ""
  message := "webrtc ICE: " ++ ice.text

end Ice

/-- Which of the five phrases of `StateFor` a report contains. -/
theorem stateFor_event (current : ConnState) (ice : Ice) :
    stateFor current ice.event = if current = .protecting ∨ current = .blocked then
        if ice.isDown then .blocked else if ice.isUp then .protecting else current
      else current := by
  cases current <;> cases ice <;> decide

abbrev IceId := Nat

/-- A session of some attempt's engine. -/
structure IceSession where
  attempt : Gen
  /-- The last state reported. -/
  latest : Ice := .new

/-- Where a connect attempt is. -/
inductive Phase where
  /-- The goroutine has still to announce the attempt. -/
  | starting
  /-- Up to the end of `Engine.Connect`. -/
  | dialing
  /-- In `startEnforcement`. -/
  | enforcing
  /-- Before the section that installs the engine. -/
  | installing
  /-- Before the first section of `abortWith`. -/
  | aborting
  /-- The user has been told; before the second section. -/
  | clearing
  | finished
deriving DecidableEq

structure Attempt where
  phase : Phase := .finished
  /-- The session new connections of this engine use. -/
  active : Option IceId := none

structure Desktop where
  controller : Controller
  attempts : Gen → Attempt
  sessions : List IceSession

namespace Desktop

def session (desktop : Desktop) (id : IceId) : IceSession := desktop.sessions.getD id ⟨0, .new⟩

/-- The client's own active session: that of the controller's attempt. -/
def own (desktop : Desktop) : Option IceId := (desktop.attempts desktop.controller.gen).active

/-- The own active session last reported that its path is down. -/
def ownIsDown (desktop : Desktop) : Bool :=
  desktop.own.any fun id => (desktop.session id).latest.isDown

def setPhase (desktop : Desktop) (gen : Gen) (phase : Phase) : Desktop :=
  { desktop with
    attempts := Function.update desktop.attempts gen { desktop.attempts gen with phase } }

def setActive (desktop : Desktop) (gen : Gen) (id : IceId) : Desktop :=
  { desktop with
    attempts := Function.update desktop.attempts gen
      { desktop.attempts gen with active := some id } }

def openSession (desktop : Desktop) (gen : Gen) : Desktop :=
  { desktop with sessions := desktop.sessions ++ [{ attempt := gen }] }

def setLatest (desktop : Desktop) (id : IceId) (ice : Ice) : Desktop :=
  { desktop with sessions := desktop.sessions.modify id fun session =>
    { session with latest := ice } }

end Desktop

inductive DesktopLabel where
  | connect
  | disconnect
  /-- An attempt gets past the point it is at. -/
  | proceed (gen : Gen)
  /-- An attempt fails where it is. -/
  | fail (gen : Gen)
  /-- An engine dials a session or accepts one. -/
  | openSession (gen : Gen)
  /-- `setReconnectSession` or `setActivePath`. -/
  | activate (id : IceId)
  | report (id : IceId) (ice : Ice)

/-- The next section of an attempt. -/
def proceed (desktop : Desktop) (gen : Gen) : Option Desktop :=
  match (desktop.attempts gen).phase with
  | .starting =>
    some { desktop.setPhase gen .dialing with controller := desktop.controller.announce gen }
  | .dialing =>
    -- `Connect` returns only once the engine has an active session.
    if (desktop.attempts gen).active.isSome then some (desktop.setPhase gen .enforcing) else none
  | .enforcing => some (desktop.setPhase gen .installing)
  | .installing =>
    match desktop.controller.install gen with
    | some controller => some { desktop.setPhase gen .finished with controller }
    | none => some (desktop.setPhase gen .finished)
  | .aborting =>
    if desktop.controller.gen = gen then some (desktop.setPhase gen .clearing)
    else some (desktop.setPhase gen .finished)
  | .clearing =>
    some { desktop.setPhase gen .finished with controller := desktop.controller.abort gen }
  | .finished => none

/-- The desktop client with WebRTC sessions. -/
def desktopClient : Machine Desktop DesktopLabel where
  initial desktop := desktop.controller = {} ∧ desktop.attempts = (fun _ => {}) ∧
    desktop.sessions = []
  step desktop
    | .connect => desktop.controller.connect.map fun controller =>
      { desktop.setPhase controller.gen .starting with controller }
    | .disconnect => some { desktop with controller := desktop.controller.disconnect }
    | .proceed gen => proceed desktop gen
    | .fail gen =>
      if (desktop.attempts gen).phase ∈ [Phase.dialing, .enforcing] then
        some (desktop.setPhase gen .aborting)
      else none
    | .openSession gen => some (desktop.openSession gen)
    | .activate id =>
      if id < desktop.sessions.length then
        some (desktop.setActive (desktop.session id).attempt id)
      else none
    | .report id ice =>
      if id < desktop.sessions.length then
        some { desktop.setLatest id ice with
          controller := desktop.controller.onEvent (desktop.session id).attempt ice.event }
      else none

/-- Shown as protected, the own active session has not last reported its path down. -/
def Truthful (desktop : Desktop) : Prop :=
  desktop.controller.published = .protecting → desktop.ownIsDown = false

/-- While the own path is down, no other session of the engine in force reports its path up, the
attempt does not install its engine, and no switch is made to a session that is down. -/
def candid (desktop : Desktop) : DesktopLabel → Bool
  | .report id ice =>
    !(desktop.controller.state = .blocked &&
      (desktop.session id).attempt = desktop.controller.gen &&
      ice.isUp && desktop.own ≠ some id && desktop.ownIsDown)
  | .proceed gen =>
    !((desktop.attempts gen).phase = .installing && desktop.controller.gen = gen &&
      desktop.controller.state = .connecting && desktop.ownIsDown)
  | .activate id =>
    !(desktop.controller.state = .protecting &&
      (desktop.session id).attempt = desktop.controller.gen && (desktop.session id).latest.isDown)
  | _ => true

namespace Desktop

variable {desktop : Desktop}

theorem own_setActive (gen : Gen) (id : IceId) :
    (desktop.setActive gen id).own =
      if desktop.controller.gen = gen then some id else desktop.own := by
  unfold own setActive
  by_cases same : desktop.controller.gen = gen
  · subst same
    simp
  · simp [same]

variable {id : IceId}

theorem latest_setLatest {other : IceId} {ice : Ice} (live : id < desktop.sessions.length) :
    ((desktop.setLatest id ice).session other).latest =
      if other = id then ice else (desktop.session other).latest := by
  simp only [session, setLatest, List.getD_eq_getElem?_getD, List.getElem?_modify]
  by_cases same : other = id
  · subst same
    simp [List.getElem?_eq_getElem live]
  · simp [same, Ne.symm same]

theorem attempt_setLatest (id other : IceId) (ice : Ice) :
    ((desktop.setLatest id ice).session other).attempt = (desktop.session other).attempt := by
  simp only [session, setLatest, List.getD_eq_getElem?_getD, List.getElem?_modify]
  cases desktop.sessions[other]? with
  | none => simp
  | some =>
    by_cases same : id = other
    · simp [same]
    · simp [same]

/-- A report changes what is known of the own session only if it is its own. -/
theorem ownIsDown_setLatest {ice : Ice} (live : id < desktop.sessions.length) :
    (desktop.setLatest id ice).ownIsDown =
      if desktop.own = some id then ice.isDown else desktop.ownIsDown := by
  have same : (desktop.setLatest id ice).own = desktop.own := rfl
  unfold ownIsDown
  rw [same]
  cases known : desktop.own with
  | none => simp
  | some =>
    simp only [any_some, latest_setLatest live, some.injEq]
    split_ifs <;> rfl

/-- The own session is a matter of the generation and of what is active. -/
theorem ownIsDown_congr {next : Desktop} (gen : next.controller.gen = desktop.controller.gen)
    (active : ∀ other, (next.attempts other).active = (desktop.attempts other).active)
    (sessions : next.sessions = desktop.sessions) : next.ownIsDown = desktop.ownIsDown := by
  have owned : next.own = desktop.own := by
    unfold own
    rw [gen, active]
  unfold ownIsDown session
  rw [owned, sessions]

@[simp] theorem active_setPhase (gen : Gen) (phase : Phase) (other : Gen) :
    ((desktop.setPhase gen phase).attempts other).active = (desktop.attempts other).active := by
  unfold setPhase
  by_cases same : other = gen
  · subst same
    simp
  · simp [Function.update_of_ne same]

theorem session_openSession (live : id < desktop.sessions.length) (gen : Gen) :
    (desktop.openSession gen).session id = desktop.session id := by
  simp only [session, openSession, List.getD_eq_getElem?_getD, List.getElem?_append_left live]

theorem ownIsDown_setActive (gen : Gen) (id : IceId) :
    (desktop.setActive gen id).ownIsDown =
      if desktop.controller.gen = gen then (desktop.session id).latest.isDown
      else desktop.ownIsDown := by
  unfold ownIsDown
  rw [own_setActive]
  split_ifs <;> rfl

end Desktop

theorem published_onEvent {controller : Controller} (honest : controller.Honest) (gen : Gen)
    (ice : Ice) :
    (controller.onEvent gen ice.event).published = .protecting ↔
      (controller.state = .protecting ∧ (controller.gen = gen → ice.isDown = false)) ∨
        (controller.state = .blocked ∧ controller.gen = gen ∧ ice.isUp) := by
  have shown : (controller.onEvent gen ice.event).published = .protecting ↔
      (controller.onEvent gen ice.event).state = .protecting := honest.onEvent gen ice.event
  rw [shown]
  simp only [Controller.onEvent, stateFor_event]
  by_cases same : controller.gen = gen
  · cases known : controller.state <;> cases ice <;>
      simp [same, known, Controller.enter, Ice.isDown, Ice.isUp]
  · simp [same]

/-- The headline follows the state, and an active session is its attempt's. -/
structure Coherent (desktop : Desktop) : Prop where
  honest : desktop.controller.Honest
  owned : ∀ gen id, (desktop.attempts gen).active = some id →
    id < desktop.sessions.length ∧ (desktop.session id).attempt = gen

variable {desktop next : Desktop} {gen : Gen}

/-- The next section of an attempt keeps every active session where it is. -/
theorem proceed_frame (moves : proceed desktop gen = some next) :
    next.sessions = desktop.sessions ∧
      ∀ other, (next.attempts other).active = (desktop.attempts other).active := by
  have phased : ∀ phase other, ((desktop.setPhase gen phase).attempts other).active =
      (desktop.attempts other).active := Desktop.active_setPhase gen
  unfold proceed at moves
  split at moves
  · cases moves
    exact ⟨rfl, phased _⟩
  · split_ifs at moves
    cases moves
    exact ⟨rfl, phased _⟩
  · cases moves
    exact ⟨rfl, phased _⟩
  · split at moves <;> cases moves
    · exact ⟨rfl, phased _⟩
    · exact ⟨rfl, phased _⟩
  · split_ifs at moves <;> cases moves
    · exact ⟨rfl, phased _⟩
    · exact ⟨rfl, phased _⟩
  · cases moves
    exact ⟨rfl, phased _⟩
  · cases moves

/-- The attempt is about to install its engine, and is still wanted. -/
def Installs (desktop : Desktop) (gen : Gen) : Prop :=
  (desktop.attempts gen).phase = .installing ∧ desktop.controller.gen = gen ∧
    desktop.controller.state = .connecting

theorem proceed_controller (moves : proceed desktop gen = some next) :
    (Installs desktop gen ∧ next.controller = desktop.controller.enter .protecting (some gen)) ∨
      (¬ Installs desktop gen ∧
        (next.controller = desktop.controller ∨ next.controller = desktop.controller.announce gen ∨
          next.controller = desktop.controller.abort gen)) := by
  unfold proceed at moves
  unfold Installs
  cases phase : (desktop.attempts gen).phase <;> simp only [phase] at moves
  case installing =>
    split at moves
    · next installed =>
      cases moves
      obtain ⟨current, connecting, entered⟩ := Controller.install_eq_some.mp installed
      exact .inl ⟨⟨rfl, current, connecting⟩, entered⟩
    · next installed =>
      cases moves
      refine .inr ⟨?_, .inl rfl⟩
      rintro ⟨_, current, connecting⟩
      rw [Controller.install_eq_some.mpr ⟨current, connecting, rfl⟩] at installed
      cases installed
  case finished => cases moves
  all_goals refine .inr ⟨by simp, ?_⟩
  case starting =>
    cases moves
    exact .inr (.inl rfl)
  case dialing =>
    simp only [ite_none_right_eq_some, some.injEq] at moves
    obtain ⟨_, rfl⟩ := moves
    exact .inl rfl
  case enforcing =>
    cases moves
    exact .inl rfl
  case aborting =>
    split_ifs at moves <;> cases moves
    · exact .inl rfl
    · exact .inl rfl
  case clearing =>
    cases moves
    exact .inr (.inr rfl)

theorem Coherent.ownIsDown_openSession (coherent : Coherent desktop) (gen : Gen) :
    (desktop.openSession gen).ownIsDown = desktop.ownIsDown := by
  have owned : (desktop.openSession gen).own = desktop.own := rfl
  unfold Desktop.ownIsDown
  rw [owned]
  cases known : desktop.own with
  | none => rfl
  | some id =>
    have live := (coherent.owned _ id known).1
    simp only [any_some, Desktop.session_openSession live]

theorem Coherent.proceed (coherent : Coherent desktop)
    (moves : proceed desktop gen = some next) : Coherent next := by
  obtain ⟨sessions, active⟩ := proceed_frame moves
  constructor
  · rcases proceed_controller moves with ⟨_, same⟩ | ⟨_, same | same | same⟩
    · rw [same]
      exact .enter _ _
    · rw [same]
      exact coherent.honest
    · rw [same]
      exact coherent.honest.announce gen
    · rw [same]
      exact coherent.honest.abort gen
  · intro other id activated
    rw [active] at activated
    unfold Desktop.session
    rw [sessions]
    exact coherent.owned other id activated

/-- Every step keeps the reports coherent. -/
theorem Coherent.step {desktop next : Desktop} {label : DesktopLabel} (coherent : Coherent desktop)
    (moves : desktopClient.step desktop label = some next) : Coherent next := by
  cases label <;> simp only [desktopClient, ite_none_right_eq_some, some.injEq] at moves
  case connect =>
    simp only [map_eq_some_iff] at moves
    obtain ⟨_, connected, rfl⟩ := moves
    refine ⟨coherent.honest.connect connected, fun gen id activated => ?_⟩
    exact coherent.owned gen id (by simpa using activated)
  case disconnect =>
    cases moves
    exact ⟨Iff.rfl, coherent.owned⟩
  case proceed gen => exact coherent.proceed moves
  case fail gen =>
    obtain ⟨_, rfl⟩ := moves
    exact ⟨coherent.honest, fun other id activated =>
      coherent.owned other id (by simpa using activated)⟩
  case openSession gen =>
    cases moves
    refine ⟨coherent.honest, fun other id activated => ?_⟩
    obtain ⟨live, mine⟩ := coherent.owned other id activated
    rw [Desktop.session_openSession live]
    have longer : (desktop.openSession gen).sessions.length = desktop.sessions.length + 1 := by
      simp [Desktop.openSession]
    exact ⟨longer ▸ Nat.lt_succ_of_lt live, mine⟩
  case activate id =>
    obtain ⟨live, rfl⟩ := moves
    refine ⟨coherent.honest, fun other own activated => ?_⟩
    by_cases mine : other = (desktop.session id).attempt
    · subst mine
      obtain rfl : id = own := by simpa [Desktop.setActive] using activated
      exact ⟨live, rfl⟩
    · exact coherent.owned other own (by simpa [Desktop.setActive, mine] using activated)
  case report id ice =>
    obtain ⟨live, rfl⟩ := moves
    refine ⟨coherent.honest.onEvent _ _, fun other own activated => ?_⟩
    obtain ⟨inside, mine⟩ := coherent.owned other own activated
    refine ⟨by simpa [Desktop.setLatest] using inside, ?_⟩
    rw [← mine]
    exact Desktop.attempt_setLatest id own ice

/-- Leaving the headline and the own session as they are keeps a truthful state. -/
theorem Truthful.kept (truthful : Truthful desktop)
    (published : next.controller.published = .protecting →
      desktop.controller.published = .protecting) (down : next.ownIsDown = desktop.ownIsDown) :
    Truthful next :=
  fun shown => down.trans (truthful (published shown))

theorem truthful_proceed_iff (truthful : Truthful desktop)
    (moves : proceed desktop gen = some next) :
    Truthful next ↔ candid desktop (.proceed gen) := by
  obtain ⟨sessions, active⟩ := proceed_frame moves
  rcases proceed_controller moves with ⟨⟨phase, current, connecting⟩, same⟩ | ⟨other, same⟩
  · have down : next.ownIsDown = desktop.ownIsDown :=
      Desktop.ownIsDown_congr (by rw [same]; rfl) active sessions
    unfold Truthful candid
    simp [same, Controller.enter, down, phase, current, connecting]
  · have calm : candid desktop (.proceed gen) := by
      unfold Installs at other
      simp only [candid, Bool.not_eq_true', Bool.and_eq_false_iff, decide_eq_false_iff_not]
      tauto
    refine iff_of_true ?_ calm
    -- Every other section leaves the headline alone or takes protection off it.
    rcases same with same | same | same
    · exact truthful.kept (by rw [same]; exact id)
        (Desktop.ownIsDown_congr (by rw [same]) active sessions)
    · refine truthful.kept (fun shown => ?_)
        (Desktop.ownIsDown_congr (by rw [same]; simp) active sessions)
      rw [same, Controller.announce] at shown
      split_ifs at shown
      exact shown
    · refine truthful.kept (fun shown => ?_)
        (Desktop.ownIsDown_congr (by rw [same]; simp) active sessions)
      rw [same, Controller.abort] at shown
      split_ifs at shown
      · cases shown
      · exact shown

/-- A step from a truthful state keeps it so exactly if it is candid. -/
theorem truthful_step_iff {label : DesktopLabel} (coherent : Coherent desktop)
    (truthful : Truthful desktop) (moves : desktopClient.step desktop label = some next) :
    Truthful next ↔ candid desktop label := by
  have shown : desktop.controller.published = .protecting ↔
      desktop.controller.state = .protecting := coherent.honest
  have fair : desktop.controller.state = .protecting → desktop.ownIsDown = false :=
    fun protecting => truthful (shown.mpr protecting)
  cases label <;> simp only [desktopClient, ite_none_right_eq_some, some.injEq] at moves
  case connect =>
    simp only [map_eq_some_iff] at moves
    obtain ⟨controller, connected, rfl⟩ := moves
    unfold Controller.connect at connected
    split_ifs at connected with busy
    cases connected
    have hidden : ¬ desktop.controller.published = .protecting := by
      rw [shown, not_not.mp busy]
      nofun
    exact iff_of_true (fun published => absurd published hidden) rfl
  case disconnect =>
    cases moves
    exact iff_of_true nofun rfl
  case proceed gen => exact truthful_proceed_iff truthful moves
  case fail gen =>
    obtain ⟨_, rfl⟩ := moves
    refine iff_of_true (truthful.kept id ?_) rfl
    exact Desktop.ownIsDown_congr rfl (Desktop.active_setPhase _ _) rfl
  case openSession gen =>
    cases moves
    refine iff_of_true (truthful.kept id ?_) rfl
    exact coherent.ownIsDown_openSession gen
  case activate id =>
    obtain ⟨live, rfl⟩ := moves
    have kept : (desktop.setActive (desktop.session id).attempt id).controller.published =
        .protecting ↔ desktop.controller.state = .protecting := shown
    unfold Truthful candid
    rw [kept, Desktop.ownIsDown_setActive]
    by_cases mine : desktop.controller.gen = (desktop.session id).attempt
    · simp [mine, imp_iff_not_or]
    · simp only [if_neg mine, Ne.symm mine]
      simpa using fair
  case report id ice =>
    obtain ⟨live, rfl⟩ := moves
    have down : Desktop.ownIsDown { desktop.setLatest id ice with
        controller := desktop.controller.onEvent (desktop.session id).attempt ice.event } =
          if desktop.own = some id then ice.isDown else desktop.ownIsDown := by
      rw [← Desktop.ownIsDown_setLatest live]
      exact Desktop.ownIsDown_congr (Controller.gen_onEvent _ _ _) (fun _ => rfl) rfl
    unfold Truthful candid
    rw [down, published_onEvent coherent.honest]
    by_cases mine : desktop.own = some id
    · have same := (coherent.owned _ _ mine).2
      cases ice <;> simp [mine, same, Ice.isDown, Ice.isUp]
    · cases lost : desktop.ownIsDown with
      | false => simp [mine]
      | true =>
        have blocked : desktop.controller.state ≠ .protecting := by
          intro protecting
          rw [fair protecting] at lost
          cases lost
        simp only [blocked, false_and, false_or, if_neg mine]
        by_cases same : desktop.controller.gen = (desktop.session id).attempt
        · simp [mine, same, imp_iff_not_or]
        · simp [same, Ne.symm same]

theorem coherent_of_initial (valid : desktopClient.initial desktop) :
    Coherent desktop ∧ Truthful desktop := by
  obtain ⟨controller, attempts, _⟩ := valid
  refine ⟨⟨?_, fun gen id activated => ?_⟩, fun published => ?_⟩
  · rw [controller]
    exact ⟨nofun, nofun⟩
  · rw [attempts] at activated
    cases activated
  · rw [controller] at published
    cases published

/-- Along a run, every state is truthful exactly if every step is candid. -/
theorem shown_protected_truthfully_iff {start final : Desktop} {labels : List DesktopLabel}
    (valid : desktopClient.initial start)
    (followed : desktopClient.follow start labels = some final) :
    desktopClient.Meets (fun desktop label => ∀ next, desktopClient.step desktop label = some next →
      Truthful next) start labels ↔
        desktopClient.Meets (fun desktop label => candid desktop label = true) start labels := by
  have agree : ∀ {desktop label next}, Coherent desktop ∧ Truthful desktop →
      desktopClient.step desktop label = some next →
        ((∀ next, desktopClient.step desktop label = some next → Truthful next) ↔
          candid desktop label) := by
    rintro desktop label next ⟨coherent, truthful⟩ transition
    rw [← truthful_step_iff coherent truthful transition]
    constructor
    · intro every
      exact every next transition
    · intro holds other same
      obtain rfl := some.inj (transition.symm.trans same)
      exact holds
  refine Machine.meets_iff agree ?_ (coherent_of_initial valid) followed
  rintro desktop label next ⟨coherent, _⟩ every transition
  exact ⟨coherent.step transition, every next transition⟩

def Desktop.fresh : Desktop := ⟨{}, fun _ => {}, []⟩

/-- The user connects; the engine's session comes up and becomes the active one. -/
def dialLabels : List DesktopLabel :=
  [.connect, .proceed 1, .openSession 1, .report 0 .connected, .activate 0, .proceed 1]

/-- The own path fails; then a session that serves somebody else comes up. -/
def servedRun : List DesktopLabel :=
  dialLabels ++ [.proceed 1, .proceed 1, .openSession 1, .report 0 .failed, .report 1 .connected]

/-- The own path fails while enforcement is still being brought up. -/
def earlyRun : List DesktopLabel := dialLabels ++ [.report 0 .failed, .proceed 1, .proceed 1]

/-- The client is shown as protected although its own path has failed: after a session it serves has
come up, and after a failure before the install. -/
theorem shown_protected_after_failure :
    (∃ final, desktopClient.Runs Machine.free servedRun final ∧
      final.controller.published = .protecting ∧ final.own = some 0 ∧
      (final.session 0).latest = .failed) ∧
    (∃ final, desktopClient.Runs Machine.free earlyRun final ∧
      final.controller.published = .protecting ∧ final.own = some 0 ∧
      (final.session 0).latest = .failed) := by
  have valid : desktopClient.initial .fresh := ⟨rfl, rfl, rfl⟩
  constructor <;>
    exact ⟨_, .ofFollow valid rfl (Machine.meets_free _ _), by decide, by decide, by decide⟩

/-- A path that drops and comes back is shown truthfully throughout. -/
theorem recovery_shown_truthfully :
    ∃ labels final, desktopClient.initial .fresh ∧ desktopClient.follow .fresh labels = some final ∧
      final.controller.published = .protecting ∧
      desktopClient.Meets (fun desktop label => ∀ next,
        desktopClient.step desktop label = some next → Truthful next) .fresh labels := by
  have valid : desktopClient.initial .fresh := ⟨rfl, rfl, rfl⟩
  refine ⟨dialLabels ++ [.proceed 1, .proceed 1, .report 0 .disconnected, .report 0 .connected], _,
    valid, rfl, by decide, ?_⟩
  exact (shown_protected_truthfully_iff valid rfl).mpr (by decide)

end Bacchus.Client
