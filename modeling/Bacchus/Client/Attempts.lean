import Bacchus.Client.Controller
import Bacchus.Semantics.Machine
import Bacchus.Semantics.Threads
import Mathlib.Data.Fintype.Basic

/-!
# Connect attempts and disconnects

What a connect attempt makes (a context, an engine, an enforcement session), and who has to end
it: the attempt until it installs, then the controller, then the `disconnectNow` that took it.
`connectAsync`, `abortWith` and `disconnectNow` are cut at every call and every mutex section.
-/

namespace Bacchus.Client

open Function List Option

/-- What an attempt makes and somebody has to end. -/
inductive Resource where
  | context | engine | session
deriving DecidableEq

/-- Whether a resource was made, and is still there. -/
inductive Life where
  | unmade | live | ended
deriving DecidableEq

/-- What is left of a resource that is ended if it was made. -/
def Life.finish : Life → Life
  | .unmade => .unmade
  | .live | .ended => .ended

/-- The next call or section of an attempt. -/
inductive ConnectStep where
  /-- No attempt was given this generation. -/
  | absent
  | announcing
  /-- Everything before the context is made: directory, configuration, device credential. -/
  | preparing
  /-- `enrollIfNeeded`. -/
  | enrolling
  /-- `core.New`. -/
  | building
  /-- `eng.Start`. -/
  | launching
  /-- `eng.Connect`. -/
  | dialing
  /-- `startEnforcement`. -/
  | enforcing
  | installing
  /-- A stale attempt closes its own session. -/
  | closing
  | stopping (aborts : Bool)
  | cancelling (aborts : Bool)
  /-- The first section of `abortWith`. -/
  | aborting
  | clearing
  /-- The controller has taken over. -/
  | installed
  | finished
deriving DecidableEq

/-- The attempt has, or may still make, a context that it has not cancelled. -/
def ConnectStep.pending : ConnectStep → Bool
  | .absent | .aborting | .clearing | .installed | .finished => false
  | _ => true

/-- The attempt at this step ends the resource itself, unless it installs. -/
def ConnectStep.keeps : ConnectStep → Resource → Bool
  | .announcing, .context | .preparing, .context => false
  | step, .context => step.pending
  | .dialing, .engine | .enforcing, .engine | .installing, .engine | .closing, .engine
  | .stopping _, .engine => true
  | .installing, .session | .closing, .session => true
  | _, _ => false

/-- The next call of `disconnectNow`. -/
inductive DisconnectStep where
  | closeSession
  | cancel
  | stopEngine
  | returned
deriving DecidableEq

def DisconnectStep.keeps : DisconnectStep → Resource → Bool
  | .closeSession, _ => true
  | .cancel, .context | .cancel, .engine => true
  | .stopEngine, .engine => true
  | _, _ => false

/-- The resource the next call of `disconnectNow` ends, and the call after it. -/
def DisconnectStep.call : DisconnectStep → Option (Resource × DisconnectStep)
  | .closeSession => some (.session, .cancel)
  | .cancel => some (.context, .stopEngine)
  | .stopEngine => some (.engine, .returned)
  | .returned => none

/-- A call of `disconnectNow` after its section. -/
structure Disconnecting where
  /-- The attempt whose engine, context and session it took. -/
  taken : Option Gen
  /-- The generation it found; the attempts begun before it have no later one. -/
  upTo : Gen
  step : DisconnectStep
deriving DecidableEq

/-- The controller with all its attempts. -/
structure Attempts where
  controller : Controller := {}
  step : Gen → ConnectStep := fun _ => .absent
  made : Gen → Resource → Life := fun _ _ => .unmade
  disconnects : List Disconnecting := []

namespace Attempts

def setStep (attempts : Attempts) (gen : Gen) (step : ConnectStep) : Attempts :=
  { attempts with step := update attempts.step gen step }

def setLife (attempts : Attempts) (gen : Gen) (resource : Resource) (life : Life) : Attempts :=
  { attempts with
    made := update attempts.made gen
      (update (attempts.made gen) resource life) }

def finish (attempts : Attempts) (gen : Gen) (resource : Resource) : Attempts :=
  attempts.setLife gen resource (attempts.made gen resource).finish

/-- The next call or section of an attempt. `succeeds` is the outcome of a call that can fail;
without an enforcer `startEnforcement` opens no session and does not fail. -/
def advance (enforcer : Bool) (attempts : Attempts) (gen : Gen) (succeeds : Bool) :
    Option Attempts :=
  match attempts.step gen with
  | .absent | .installed | .finished => none
  | .announcing =>
    some { attempts.setStep gen .preparing with controller := attempts.controller.announce gen }
  | .preparing =>
    some (if succeeds then (attempts.setLife gen .context .live).setStep gen .enrolling
      else attempts.setStep gen .aborting)
  | .enrolling => some (attempts.setStep gen (if succeeds then .building else .cancelling true))
  | .building => some (attempts.setStep gen (if succeeds then .launching else .cancelling true))
  | .launching =>
    some (if succeeds then (attempts.setLife gen .engine .live).setStep gen .dialing
      else attempts.setStep gen (.cancelling true))
  | .dialing => some (attempts.setStep gen (if succeeds then .enforcing else .stopping true))
  | .enforcing =>
    some (if !enforcer then attempts.setStep gen .installing
      else if succeeds then (attempts.setLife gen .session .live).setStep gen .installing
      else attempts.setStep gen (.stopping true))
  | .installing =>
    match attempts.controller.install gen with
    | some controller => some { attempts.setStep gen .installed with controller }
    | none => some (attempts.setStep gen .closing)
  | .closing => some ((attempts.finish gen .session).setStep gen (.stopping false))
  | .stopping aborts => some ((attempts.finish gen .engine).setStep gen (.cancelling aborts))
  | .cancelling aborts =>
    some ((attempts.finish gen .context).setStep gen (if aborts then .aborting else .finished))
  | .aborting =>
    some (attempts.setStep gen (if attempts.controller.gen = gen then .clearing else .finished))
  | .clearing =>
    some { attempts.setStep gen .finished with controller := attempts.controller.abort gen }

/-- The section of `disconnectNow`: with nothing to tear down it returns at once. -/
def disconnectNow (attempts : Attempts) : Attempts :=
  { attempts with
    controller := attempts.controller.disconnect
    disconnects := attempts.disconnects ++
      [{ taken := attempts.controller.held, upTo := attempts.controller.gen,
         step := if attempts.controller.held.isSome then .closeSession else .returned }] }

end Attempts

/-- A call of the user, or a step of an attempt. -/
inductive AttemptLabel where
  | connect
  | disconnect
  /-- An attempt goes on, with the outcome of its call. -/
  | proceed (gen : Gen) (succeeds : Bool)
  /-- A `disconnectNow` goes on. -/
  | resume (index : Nat)
  /-- The engine of an attempt reports something. -/
  | event (gen : Gen) (event : Event)
deriving DecidableEq

/-- The desktop client, with or without an enforcer. -/
def connectingClient (enforcer : Bool) : Machine Attempts AttemptLabel where
  initial attempts := attempts = {}
  step attempts
    | .connect => attempts.controller.connect.map fun controller =>
      { attempts.setStep controller.gen .announcing with controller }
    | .disconnect => some attempts.disconnectNow
    | .proceed gen succeeds => attempts.advance enforcer gen succeeds
    | .resume index => attempts.disconnects[index]?.bind fun disconnecting =>
      disconnecting.taken.bind fun gen => disconnecting.step.call.map fun (ended, after) =>
        { attempts.finish gen ended with
          disconnects := attempts.disconnects.set index { disconnecting with step := after } }
    | .event gen event => some { attempts with controller := attempts.controller.onEvent gen event }

namespace Attempts

/-- Every attempt and every disconnect is over. -/
def Quiet (attempts : Attempts) : Prop :=
  (∀ gen, attempts.step gen = .absent ∨ attempts.step gen = .installed ∨
    attempts.step gen = .finished) ∧
  ∀ disconnecting ∈ attempts.disconnects, disconnecting.step = .returned

/-- No attempt has or may make a context it has not cancelled, and no other disconnect has one to
cancel. -/
def idle (attempts : Attempts) : Bool :=
  (range (attempts.controller.gen + 1)).all (fun gen => !(attempts.step gen).pending) &&
    attempts.disconnects.all fun disconnecting => !disconnecting.step.keeps .context

/-- A disconnect takes its section only when the client is idle. -/
def calm (attempts : Attempts) : AttemptLabel → Bool
  | .disconnect => attempts.idle
  | _ => true

/-- Whoever has to end what an attempt has made. -/
def Charged (attempts : Attempts) (gen : Gen) (resource : Resource) : Prop :=
  (attempts.step gen).keeps resource ∨ attempts.controller.held = some gen ∨
    ∃ disconnecting ∈ attempts.disconnects, disconnecting.taken = some gen ∧
      disconnecting.step.keeps resource

/-- Whatever is live has somebody who will end it, and an attempt handed on has nothing more to
do. -/
structure Accounted (attempts : Attempts) : Prop where
  steady : attempts.controller.Steady
  held : ∀ gen ∈ attempts.controller.held, attempts.step gen = .installed
  taken : ∀ disconnecting ∈ attempts.disconnects, ∀ gen ∈ disconnecting.taken,
    attempts.step gen = .installed
  unborn : ∀ gen, attempts.controller.gen < gen →
    attempts.step gen = .absent ∧ ∀ resource, attempts.made gen resource = .unmade
  charged : ∀ gen resource, attempts.made gen resource = .live → attempts.Charged gen resource

variable {attempts next : Attempts} {gen : Gen} {resource : Resource}

/-- An attempt that has not installed ends what it has made. -/
theorem Accounted.keeps (accounted : attempts.Accounted) (own : attempts.step gen ≠ .installed)
    (live : attempts.made gen resource = .live) : (attempts.step gen).keeps resource := by
  rcases accounted.charged gen resource live with keeps | held | ⟨disconnecting, member, taken, _⟩
  · exact keeps
  · exact absurd (accounted.held gen held) own
  · exact absurd (accounted.taken disconnecting member gen taken) own

/-- One attempt goes to `step`, and what it has made is then its own or the controller's to end. -/
structure Goes (attempts next : Attempts) (gen : Gen) (step : ConnectStep) : Prop where
  step : next.step = update attempts.step gen step
  others : ∀ other, other ≠ gen → next.made other = attempts.made other
  disconnects : next.disconnects = attempts.disconnects

theorem Accounted.goes (accounted : attempts.Accounted) {step : ConnectStep}
    (goes : Goes attempts next gen step) (own : attempts.step gen ≠ .installed)
    (steady : next.controller.Steady)
    (held : next.controller.held = attempts.controller.held ∨
      attempts.controller.held = none ∧ next.controller.held = some gen ∧ step = .installed)
    (later : attempts.controller.gen ≤ next.controller.gen) (begun : gen ≤ next.controller.gen)
    (keeps : ∀ resource, next.made gen resource = .live →
      step.keeps resource ∨ next.controller.held = some gen) : next.Accounted := by
  have elsewhere : ∀ other, other ≠ gen → next.step other = attempts.step other := by
    intro other apart
    rw [goes.step, update_of_ne apart]
  have here : next.step gen = step := by rw [goes.step, update_self]
  refine ⟨steady, fun other shown => ?_, fun disconnecting member other taken => ?_,
    fun other young => ?_, fun other resource live => ?_⟩
  · rcases held with same | ⟨_, mine, installed⟩
    · rw [same] at shown
      have installed := accounted.held other shown
      rwa [elsewhere other fun same => own (same ▸ installed)]
    · obtain rfl : gen = other := some.inj (mine.symm.trans shown)
      exact here.trans installed
  · rw [goes.disconnects] at member
    have installed := accounted.taken disconnecting member other taken
    rwa [elsewhere other fun same => own (same ▸ installed)]
  · have apart : other ≠ gen := Nat.ne_of_gt (Nat.lt_of_le_of_lt begun young)
    rw [elsewhere other apart, goes.others other apart]
    exact accounted.unborn other (Nat.lt_of_le_of_lt later young)
  · by_cases same : other = gen
    · subst same
      rcases keeps resource live with mine | mine
      · exact .inl (here ▸ mine)
      · exact .inr (.inl mine)
    · rw [goes.others other same] at live
      unfold Charged
      rw [elsewhere other same, goes.disconnects]
      rcases accounted.charged other resource live with mine | shown | taken
      · exact .inl mine
      · refine .inr (.inl ?_)
        rcases held with unchanged | ⟨none, _⟩
        · rwa [unchanged]
        · rw [none] at shown
          cases shown
      · exact .inr (.inr taken)

theorem made_setLife (attempts : Attempts) (gen : Gen) (resource : Resource) (life : Life)
    (other : Gen) (which : Resource) :
    (attempts.setLife gen resource life).made other which =
      if other = gen ∧ which = resource then life else attempts.made other which := by
  unfold setLife
  by_cases same : other = gen
  · subst same
    by_cases fits : which = resource <;> simp [fits]
  · simp [same]

theorem Life.finish_ne_live (life : Life) : life.finish ≠ .live := by
  cases life <;> nofun

/-- An attempt that exists has been begun. -/
theorem Accounted.begun (accounted : attempts.Accounted) (present : attempts.step gen ≠ .absent) :
    gen ≤ attempts.controller.gen := by
  by_contra young
  exact present (accounted.unborn gen (Nat.lt_of_not_le young)).1

variable {before after : ConnectStep}

/-- A call of an attempt, after which what is live is accounted for. An attempt that is over stays
so and makes no context. -/
structure Advances (attempts next : Attempts) (gen : Gen) : Prop where
  accounted : next.Accounted
  goes : ∃ step, Goes attempts next gen step ∧
    ((attempts.step gen).pending = false → step.pending = false ∧ next.made = attempts.made)
  same : next.controller.gen = attempts.controller.gen

theorem Accounted.move (accounted : attempts.Accounted) {controller : Controller}
    (reached : attempts.step gen = before) (present : before ≠ .absent) (own : before ≠ .installed)
    (steady : controller.Steady) (held : controller.held = attempts.controller.held)
    (same : controller.gen = attempts.controller.gen)
    (keeps : ∀ resource, before.keeps resource → after.keeps resource)
    (rests : before.pending = false → after.pending = false) :
    Advances attempts { attempts.setStep gen after with controller } gen := by
  rw [← reached] at present own keeps rests
  refine ⟨accounted.goes ⟨rfl, fun _ _ => rfl, rfl⟩ own steady (.inl held) (Nat.le_of_eq same.symm)
    (same ▸ accounted.begun present) fun resource live => .inl ?_,
    ⟨after, ⟨rfl, fun _ _ => rfl, rfl⟩, fun ended => ⟨rests ended, rfl⟩⟩, same⟩
  exact keeps resource (accounted.keeps own live)

theorem Accounted.act (accounted : attempts.Accounted) {changed : Resource} {life : Life}
    (reached : attempts.step gen = before) (busy : before.pending)
    (own : before ≠ .installed) (kept : life = .live → after.keeps changed)
    (keeps : ∀ resource, before.keeps resource → resource ≠ changed →
      after.keeps resource) :
    Advances attempts ((attempts.setLife gen changed life).setStep gen after) gen := by
  rw [← reached] at busy own keeps
  have goes : Goes attempts ((attempts.setLife gen changed life).setStep gen after) gen after :=
    ⟨rfl, fun _ apart => update_of_ne apart _ _, rfl⟩
  have present : attempts.step gen ≠ .absent := fun absent => by
    rw [absent] at busy
    cases busy
  refine ⟨accounted.goes goes own accounted.steady (.inl rfl) (Nat.le_refl _)
    (accounted.begun present) fun resource live => .inl ?_, ⟨after, goes, ?_⟩, rfl⟩
  · change (attempts.setLife gen changed life).made gen resource = .live at live
    rw [made_setLife] at live
    split_ifs at live with same
    · rw [same.2]
      exact kept live
    · exact keeps resource (accounted.keeps own live) fun equal => same ⟨rfl, equal⟩
  · rw [busy]
    nofun

variable {enforcer : Bool}

instance : Fintype Resource :=
  ⟨{.context, .engine, .session}, fun resource => by cases resource <;> decide⟩

variable (accounted : attempts.Accounted)
include accounted

/-- A call of an attempt keeps the account and concerns that attempt. -/
theorem Accounted.advance {succeeds : Bool}
    (advanced : attempts.advance enforcer gen succeeds = some next) :
    Advances attempts next gen := by
  unfold Attempts.advance at advanced
  cases reached : attempts.step gen <;> rw [reached] at advanced
  case absent | installed | finished => cases advanced
  case announcing =>
    cases advanced
    obtain ⟨steady, held⟩ := accounted.steady.announce gen
    exact accounted.move reached nofun nofun steady held (by simp) (by decide) nofun
  case preparing | launching =>
    cases advanced
    split_ifs
    · exact accounted.act reached rfl nofun (by decide) (by decide)
    · exact accounted.move reached nofun nofun accounted.steady rfl rfl (by decide) nofun
  case enrolling | building | dialing =>
    cases advanced
    refine accounted.move reached nofun nofun accounted.steady rfl rfl ?_ nofun
    cases succeeds <;> decide
  case enforcing =>
    cases advanced
    split_ifs
    · exact accounted.move reached nofun nofun accounted.steady rfl rfl (by decide) nofun
    · exact accounted.act reached rfl nofun (by decide) (by decide)
    · exact accounted.move reached nofun nofun accounted.steady rfl rfl (by decide) nofun
  case installing =>
    cases installs : attempts.controller.install gen with
    | none =>
      rw [installs] at advanced
      cases advanced
      exact accounted.move reached nofun nofun accounted.steady rfl rfl (by decide) nofun
    | some =>
      rw [installs] at advanced
      cases advanced
      obtain ⟨steady, held, same, free⟩ := accounted.steady.install installs
      refine ⟨accounted.goes ⟨rfl, fun _ _ => rfl, rfl⟩ (by rw [reached]; nofun) steady
        (.inr ⟨free, held, rfl⟩) (Nat.le_of_eq same.symm) ?_ fun _ _ => .inr held,
        ⟨_, ⟨rfl, fun _ _ => rfl, rfl⟩, by rw [reached]; nofun⟩, same⟩
      exact same ▸ accounted.begun (by rw [reached]; nofun)
  case closing =>
    cases advanced
    exact accounted.act reached rfl nofun (absurd · (Life.finish_ne_live _)) (by decide)
  case stopping aborts | cancelling aborts =>
    cases advanced
    refine accounted.act reached rfl nofun (absurd · (Life.finish_ne_live _)) ?_
    cases aborts <;> decide
  case aborting =>
    cases advanced
    refine accounted.move reached nofun nofun accounted.steady rfl rfl ?_ ?_ <;>
      split_ifs <;> decide
  case clearing =>
    cases advanced
    have unheld : attempts.controller.held ≠ some gen := fun held => by
      rw [accounted.held gen held] at reached
      cases reached
    obtain ⟨steady, held⟩ := accounted.steady.abort unheld
    exact accounted.move reached nofun nofun steady held (by simp) (by decide) fun _ => rfl

theorem Accounted.connect {controller : Controller}
    (connected : attempts.controller.connect = some controller) :
    Accounted { attempts.setStep controller.gen .announcing with controller } := by
  obtain ⟨steady, none, young, free⟩ := accounted.steady.connect connected
  obtain ⟨absent, unmade⟩ := accounted.unborn controller.gen young
  refine accounted.goes ⟨rfl, fun _ _ => rfl, rfl⟩ (by rw [absent]; nofun) steady
    (.inl (none.trans free.symm)) (Nat.le_of_lt young) (Nat.le_refl _) fun resource live => ?_
  cases (unmade resource).symm.trans live

/-- A disconnect keeps the account. -/
theorem Accounted.disconnectNow : attempts.disconnectNow.Accounted := by
  refine ⟨.ended _ _, nofun, fun disconnecting member gen taken => ?_, fun gen young => ?_,
    fun gen resource live => ?_⟩
  · rcases mem_append.mp member with earlier | new
    · exact accounted.taken disconnecting earlier gen taken
    · rw [mem_singleton.mp new] at taken
      exact accounted.held gen taken
  · exact accounted.unborn gen (Nat.lt_of_succ_lt young)
  · rcases accounted.charged gen resource live with mine | held | ⟨disconnecting, member, rest⟩
    · exact .inl mine
    · refine .inr (.inr ⟨_, mem_append_right _ (.head _), held, ?_⟩)
      simp [held, DisconnectStep.keeps]
    · exact .inr (.inr ⟨disconnecting, mem_append_left _ member, rest⟩)

omit accounted

variable {ended : Resource}

/-- A call of a disconnect leaves what it does not end to the calls after it. -/
theorem keeps_of_call {step after : DisconnectStep} (called : step.call = some (ended, after))
    (keeps : step.keeps resource) (other : resource ≠ ended) :
    after.keeps resource := by
  cases step with
  | closeSession | cancel | stopEngine =>
    cases called
    cases resource <;> first | rfl | contradiction
  | returned => cases called

theorem made_finish_live {other : Gen}
    (live : (attempts.finish gen ended).made other resource = .live) :
    attempts.made other resource = .live ∧ ¬(other = gen ∧ resource = ended) := by
  rw [finish, made_setLife] at live
  split_ifs at live with same
  · exact absurd live (Life.finish_ne_live _)
  · exact ⟨live, same⟩

theorem Accounted.resume (accounted : attempts.Accounted) {index : Nat}
    {disconnecting : Disconnecting} (found : attempts.disconnects[index]? = some disconnecting)
    (taken : disconnecting.taken = some gen) {after : DisconnectStep}
    (called : disconnecting.step.call = some (ended, after)) :
    Accounted { attempts.finish gen ended with
      disconnects := attempts.disconnects.set index { disconnecting with step := after } } := by
  refine ⟨accounted.steady, accounted.held, fun other member => ?_, fun other young => ?_,
    fun other resource live => ?_⟩
  · refine Threads.forall_set accounted.taken ?_ other member
    exact accounted.taken disconnecting (mem_of_getElem? found)
  · obtain ⟨absent, unmade⟩ := accounted.unborn other young
    refine ⟨absent, fun resource => ?_⟩
    have apart : other ≠ gen := by
      rintro rfl
      rw [accounted.taken disconnecting (mem_of_getElem? found) other taken] at absent
      cases absent
    change (attempts.setLife gen ended _).made other resource = .unmade
    rw [made_setLife, if_neg fun same => apart same.1, unmade]
  · obtain ⟨alive, unended⟩ := made_finish_live live
    rcases accounted.charged other resource alive with mine | held | bearer
    · exact .inl mine
    · exact .inr (.inl held)
    · refine .inr (.inr (Threads.exists_set found (fun ⟨same, keeps⟩ => ⟨same, ?_⟩) bearer))
      refine keeps_of_call called keeps fun equal => unended ⟨?_, equal⟩
      exact some.inj (same.symm.trans taken)

/-- Every step keeps the account. -/
theorem Accounted.step (accounted : attempts.Accounted) {enforcer : Bool} {label : AttemptLabel}
    (moves : (connectingClient enforcer).step attempts label = some next) : next.Accounted := by
  cases label with
  | connect =>
    obtain ⟨_, connected, rfl⟩ := map_eq_some_iff.mp moves
    exact accounted.connect connected
  | disconnect =>
    cases moves
    exact accounted.disconnectNow
  | proceed => exact (accounted.advance moves).accounted
  | resume =>
    obtain ⟨_, found, resumed⟩ := bind_eq_some_iff.mp moves
    obtain ⟨gen, taken, resumed⟩ := bind_eq_some_iff.mp resumed
    obtain ⟨⟨_, _⟩, called, rfl⟩ := map_eq_some_iff.mp resumed
    exact accounted.resume found taken called
  | event gen event =>
    cases moves
    obtain ⟨steady, held⟩ := accounted.steady.onEvent gen event
    refine ⟨steady, fun other shown => ?_, accounted.taken, fun other young => ?_,
      fun other resource live => ?_⟩
    · exact accounted.held other (held ▸ shown)
    · exact accounted.unborn other (by simpa using young)
    · unfold Charged
      rw [held]
      exact accounted.charged other resource live

theorem accounted_initial : Accounted {} :=
  ⟨.ended 0 .disconnected, nofun, nofun, fun _ _ => ⟨rfl, fun _ => rfl⟩, nofun⟩

/-- The account is kept over every run. -/
theorem Accounted.runs {guard : Attempts → AttemptLabel → Prop} {labels : List AttemptLabel}
    (runs : (connectingClient enforcer).Runs guard labels attempts) : attempts.Accounted := by
  refine runs.invariant (fun start => ?_) fun accounted _ moves => accounted.step moves
  subst start
  exact accounted_initial

/-- Once everything is over, what is live is the controller's. -/
theorem Accounted.held_of_live (accounted : attempts.Accounted) (quiet : attempts.Quiet)
    (live : attempts.made gen resource = .live) : attempts.controller.held = some gen := by
  rcases accounted.charged gen resource live with mine | held | ⟨disconnecting, member, _, keeps⟩
  · rcases quiet.1 gen with ended | ended | ended <;>
    · rw [ended] at mine
      cases resource <;> cases mine
  · exact held
  · rw [quiet.2 disconnecting member] at keeps
    cases resource <;> cases keeps

/-- Only attempts the controller has begun can have something to do. -/
theorem Accounted.quiet (accounted : attempts.Accounted)
    (ended : ∀ gen ≤ attempts.controller.gen, attempts.step gen = .absent ∨
      attempts.step gen = .installed ∨ attempts.step gen = .finished)
    (returned : ∀ disconnecting ∈ attempts.disconnects, disconnecting.step = .returned) :
    attempts.Quiet := by
  refine ⟨fun gen => ?_, returned⟩
  rcases Nat.lt_or_ge attempts.controller.gen gen with young | begun
  · exact .inl (accounted.unborn gen young).1
  · exact ended gen begun

end Attempts

/-- However connects, disconnects and their attempts interleave: once all are over, an engine that
runs and a session that is open is the one the controller holds and shows, so there is at most one
of each, and every other one has been ended. -/
theorem one_engine_one_session {enforcer : Bool} {labels : List AttemptLabel} {attempts : Attempts}
    (runs : (connectingClient enforcer).Runs Machine.free labels attempts)
    (quiet : attempts.Quiet) :
    ∀ resource, (resource = .engine ∨ resource = .session) →
      (∀ gen, attempts.made gen resource = .live → attempts.controller.held = some gen ∧
          (attempts.controller.state = .protecting ∨ attempts.controller.state = .blocked)) ∧
      (∀ first second, attempts.made first resource = .live →
        attempts.made second resource = .live → first = second) ∧
      ∀ gen, attempts.made gen resource ≠ .unmade → attempts.controller.held ≠ some gen →
        attempts.made gen resource = .ended := by
  have accounted := Attempts.Accounted.runs runs
  intro resource _
  refine ⟨fun gen live => ?_, fun first second firstLive secondLive => ?_, fun gen made other => ?_⟩
  · have held := accounted.held_of_live quiet live
    exact ⟨held, accounted.steady.holds.mp (by rw [held]; rfl)⟩
  · have firstHeld := accounted.held_of_live quiet firstLive
    exact some.inj (firstHeld.symm.trans (accounted.held_of_live quiet secondLive))
  · cases life : attempts.made gen resource with
    | unmade => exact absurd life made
    | live => exact absurd (accounted.held_of_live quiet life) other
    | ended => rfl

/-- The labels of an attempt that goes through. -/
def goesThrough (gen : Gen) : List AttemptLabel :=
  replicate 8 (.proceed gen true)

/-- A second connect while the first session is being torn down. -/
def reconnects : List AttemptLabel :=
  .connect :: goesThrough 1 ++ [.disconnect, .connect, .resume 0, .proceed 3 true, .resume 0] ++
    replicate 7 (.proceed 3 true) ++ [.resume 0]

/-- Three attempts end with one engine and one session. -/
theorem reconnects_to_one_session : ∃ attempts,
    (connectingClient true).Runs Machine.free reconnects attempts ∧ attempts.Quiet ∧
      attempts.made 3 .engine = .live ∧ attempts.made 3 .session = .live ∧
      attempts.controller.held = some 3 ∧
      attempts.made 1 .engine = .ended ∧ attempts.made 1 .session = .ended := by
  obtain ⟨attempts, followed⟩ : ∃ attempts,
      (connectingClient true).follow {} reconnects = some attempts := ⟨_, rfl⟩
  have runs := Machine.Runs.ofFollow rfl followed (Machine.meets_free _ _)
  have quiet : attempts.Quiet := by
    refine (Attempts.Accounted.runs runs).quiet ?_ ?_
    · cases followed
      decide
    · cases followed
      decide
  obtain ⟨held, _, ended⟩ := one_engine_one_session runs quiet .engine (.inl rfl)
  obtain ⟨_, _, closed⟩ := one_engine_one_session runs quiet .session (.inr rfl)
  have live : attempts.made 3 .engine = .live := by
    cases followed
    rfl
  have open_ : attempts.made 3 .session = .live := by
    cases followed
    rfl
  have other : attempts.controller.held ≠ some 1 := by
    rw [(held 3 live).1]
    decide
  refine ⟨attempts, runs, quiet, live, open_, (held 3 live).1, ended 1 ?_ other, closed 1 ?_ other⟩
  · cases followed
    nofun
  · cases followed
    nofun

namespace Attempts

variable {attempts next : Attempts} {gen : Gen}

/-- Of the attempts begun before a disconnect, none is under way, and the only context left is one
it has taken and not cancelled yet. -/
structure Abandoned (attempts : Attempts) (disconnecting : Disconnecting) : Prop where
  before : disconnecting.upTo < attempts.controller.gen
  ended : ∀ gen ≤ disconnecting.upTo, (attempts.step gen).pending = false
  context : ∀ gen ≤ disconnecting.upTo, attempts.made gen .context = .live →
    disconnecting.taken = some gen ∧ disconnecting.step.keeps .context

theorem idle_iff : attempts.idle ↔
    (∀ gen ≤ attempts.controller.gen, (attempts.step gen).pending = false) ∧
      ∀ disconnecting ∈ attempts.disconnects, disconnecting.step.keeps .context = false := by
  simp only [idle, Bool.and_eq_true, List.all_eq_true, mem_range, Nat.lt_succ_iff,
    Bool.not_eq_true']

variable {disconnecting : Disconnecting}

/-- What is abandoned stays so if no attempt of an earlier generation starts or makes a context. -/
theorem Abandoned.mono (abandoned : attempts.Abandoned disconnecting)
    (later : attempts.controller.gen ≤ next.controller.gen)
    (kept : ∀ gen ≤ disconnecting.upTo, (attempts.step gen).pending = false →
      (next.step gen).pending = false ∧
        (next.made gen .context = .live → attempts.made gen .context = .live)) :
    next.Abandoned disconnecting := by
  refine ⟨Nat.lt_of_lt_of_le abandoned.before later, fun gen early => ?_, fun gen early live => ?_⟩
  · exact (kept gen early (abandoned.ended gen early)).1
  · exact abandoned.context gen early ((kept gen early (abandoned.ended gen early)).2 live)

theorem Abandoned.advance (abandoned : attempts.Abandoned disconnecting)
    (advances : Advances attempts next gen) : next.Abandoned disconnecting := by
  obtain ⟨step, goes, rests⟩ := advances.goes
  refine abandoned.mono (Nat.le_of_eq advances.same.symm) fun other early ended => ?_
  by_cases mine : other = gen
  · subst mine
    obtain ⟨still, made⟩ := rests ended
    rw [goes.step, update_self, made]
    exact ⟨still, id⟩
  · rw [goes.step, update_of_ne mine, goes.others other mine]
    exact ⟨ended, id⟩

/-- The section of a disconnect that finds the client idle. -/
theorem abandoned_disconnectNow (accounted : attempts.Accounted) (idle : attempts.idle)
    {step : DisconnectStep}
    (first : attempts.controller.held.isSome → step = .closeSession) :
    attempts.disconnectNow.Abandoned ⟨attempts.controller.held, attempts.controller.gen, step⟩ := by
  obtain ⟨ended, others⟩ := idle_iff.mp idle
  refine ⟨Nat.lt_succ_self _, ended, fun gen early live => ?_⟩
  rcases accounted.charged gen .context live with mine | held | ⟨other, member, _, keeps⟩
  · have pending : (attempts.step gen).pending := by
      revert mine
      cases attempts.step gen <;> first | exact fun _ => rfl | exact nofun
    rw [ended gen early] at pending
    cases pending
  · refine ⟨held, ?_⟩
    rw [first (by rw [held]; rfl)]
    rfl
  · rw [others other member] at keeps
    cases keeps

structure Orderly (attempts : Attempts) : Prop where
  accounted : attempts.Accounted
  abandoned : ∀ disconnecting ∈ attempts.disconnects, attempts.Abandoned disconnecting

/-- Every calm step keeps the order. -/
theorem Orderly.step (orderly : attempts.Orderly) {enforcer : Bool} {label : AttemptLabel}
    (calm : attempts.calm label)
    (moves : (connectingClient enforcer).step attempts label = some next) : next.Orderly := by
  obtain ⟨accounted, abandoned⟩ := orderly
  refine ⟨accounted.step moves, fun disconnecting member => ?_⟩
  cases label with
  | connect =>
    obtain ⟨controller, connected, rfl⟩ := map_eq_some_iff.mp moves
    obtain ⟨_, _, later, _⟩ := accounted.steady.connect connected
    have earlier := abandoned disconnecting member
    refine earlier.mono (Nat.le_of_lt later) fun gen early ended => ⟨?_, id⟩
    have apart : gen ≠ controller.gen :=
      Nat.ne_of_lt (Nat.lt_trans (Nat.lt_of_le_of_lt early earlier.before) later)
    change (update attempts.step controller.gen .announcing gen).pending = false
    rwa [update_of_ne apart]
  | disconnect =>
    cases moves
    rcases mem_append.mp member with earlier | new
    · exact (abandoned disconnecting earlier).mono (Nat.le_succ _) fun _ _ ended => ⟨ended, id⟩
    · obtain rfl := mem_singleton.mp new
      exact abandoned_disconnectNow accounted calm fun some => if_pos some
  | proceed =>
    have advances := accounted.advance moves
    obtain ⟨_, goes, _⟩ := advances.goes
    rw [goes.disconnects] at member
    exact (abandoned disconnecting member).advance advances
  | resume index =>
    obtain ⟨old, found, resumed⟩ := bind_eq_some_iff.mp moves
    obtain ⟨gen, taken, resumed⟩ := bind_eq_some_iff.mp resumed
    obtain ⟨⟨ended, after⟩, called, rfl⟩ := map_eq_some_iff.mp resumed
    have kept : ∀ other, attempts.Abandoned other → Abandoned { attempts.finish gen ended with
        disconnects := attempts.disconnects.set index { old with step := after } } other :=
      fun other earlier => earlier.mono (Nat.le_refl _) fun _ _ ended =>
        ⟨ended, fun live => (made_finish_live live).1⟩
    rcases mem_or_eq_of_mem_set member with earlier | rfl
    · exact kept disconnecting (abandoned disconnecting earlier)
    · have earlier := kept old (abandoned old (mem_of_getElem? found))
      refine ⟨earlier.before, earlier.ended, fun other early live => ?_⟩
      obtain ⟨same, keeps⟩ := earlier.context other early live
      refine ⟨same, keeps_of_call called keeps fun equal => ?_⟩
      exact (made_finish_live live).2 ⟨some.inj (same.symm.trans taken), equal⟩
  | event =>
    cases moves
    exact (abandoned disconnecting member).mono (by simp) fun _ _ ended => ⟨ended, id⟩

end Attempts

/-- If every disconnect finds the client idle (no attempt under way, no other disconnect with a
context to cancel), then once it has run no attempt begun before has a context that is not
cancelled, and none is still under way. -/
theorem disconnect_cancels {enforcer : Bool} {labels : List AttemptLabel} {attempts : Attempts}
    (runs : (connectingClient enforcer).Runs (fun attempts label => attempts.calm label = true)
      labels attempts) :
    ∀ disconnecting ∈ attempts.disconnects, disconnecting.step = .returned →
      ∀ gen ≤ disconnecting.upTo,
        attempts.made gen .context ≠ .live ∧ (attempts.step gen).pending = false := by
  have orderly : attempts.Orderly := by
    refine runs.invariant (fun start => ?_) fun orderly calm transition =>
      orderly.step calm transition
    subst start
    exact ⟨Attempts.accounted_initial, nofun⟩
  intro disconnecting member returned gen early
  have settled := orderly.abandoned disconnecting member
  refine ⟨fun live => ?_, settled.ended gen early⟩
  obtain ⟨_, keeps⟩ := settled.context gen early live
  rw [returned] at keeps
  cases keeps

/-- A disconnect after the session has come up, and one after a failure. -/
def calmSession : List AttemptLabel :=
  .connect :: goesThrough 1 ++ [.disconnect, .resume 0, .resume 0, .resume 0, .connect,
    .proceed 3 true, .proceed 3 true, .proceed 3 false, .proceed 3 true, .disconnect]

/-- Two disconnects, each after an attempt. -/
theorem calmSession_cancelled : ∃ attempts,
    (connectingClient true).Runs (fun attempts label => attempts.calm label = true) calmSession
        attempts ∧
      attempts.disconnects.map Disconnecting.upTo = [1, 3] ∧
      attempts.made 1 .context ≠ .live ∧ (attempts.step 1).pending = false ∧
      attempts.made 3 .context ≠ .live ∧ (attempts.step 3).pending = false := by
  obtain ⟨attempts, runs, two, last⟩ : ∃ attempts, (connectingClient true).Runs
      (fun attempts label => attempts.calm label) calmSession attempts ∧
      attempts.disconnects.map Disconnecting.upTo = [1, 3] ∧
      ⟨none, 3, .returned⟩ ∈ attempts.disconnects := by
    refine Machine.exists_runs rfl ?_ ?_ <;> decide
  have cancelled := disconnect_cancels runs _ last rfl
  obtain ⟨first, firstOver⟩ := cancelled 1 (by decide)
  obtain ⟨third, thirdOver⟩ := cancelled 3 (by decide)
  exact ⟨attempts, runs, two, first, firstOver, third, thirdOver⟩

/-- A disconnect during the enrolment: it has returned, the attempt's context is not cancelled, and
enrolment and dial are carried through. -/
theorem enrolment_outlives_disconnect : ∃ attempts later, (connectingClient true).Runs Machine.free
      [.connect, .proceed 1 true, .proceed 1 true, .disconnect] attempts ∧
      attempts.disconnects = [⟨none, 1, .returned⟩] ∧
      attempts.step 1 = .enrolling ∧ attempts.made 1 .context = .live ∧
      (connectingClient true).follow attempts (List.replicate 4 (.proceed 1 true)) = some later ∧
      later.step 1 = .enforcing ∧ later.made 1 .engine = .live ∧
        later.made 1 .context = .live := by
  obtain ⟨attempts, followed⟩ : ∃ attempts, (connectingClient true).follow {}
      [.connect, .proceed 1 true, .proceed 1 true, .disconnect] = some attempts := ⟨_, rfl⟩
  have runs := Machine.Runs.ofFollow rfl followed (Machine.meets_free _ _)
  cases followed
  exact ⟨_, _, runs, rfl, rfl, rfl, rfl, rfl, rfl, rfl⟩

end Bacchus.Client
