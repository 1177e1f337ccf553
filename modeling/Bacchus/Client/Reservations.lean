import Bacchus.Client.Enforcement
import Bacchus.Semantics.Threads

/-!
# Reservations beside an enforcement session

A dial reserving an underlay address, or the bypass policy learning one, takes nothing from the
session that is open, unless it reaches over from another session's excluder.
-/

namespace Bacchus.Client

open List Function

/-- The attempt's engine holds the SOCKS address. -/
def Stage.engaged : Stage → Bool
  | .bringUp _ | .installing | .up | .tearDown _ => true
  | _ => false

/-- The attempt has not been given an excluder yet. -/
def Stage.early : Stage → Bool
  | .starting | .dialing | .bringUp .connect | .bringUp .takeExcluder => true
  | _ => false

/-- Nothing has been done in the attempt's name. -/
structure Untouched (system : System) (gen : Gen) : Prop where
  setUp : system.setUp gen = []
  learned : system.learned gen = []
  dials : ∀ dial ∈ system.dials, dial.gen = gen → dial.progress.inFlight = false
  excluders : ∀ excluder ∈ system.excluders, excluder.usedBy ≠ some gen

/-- The helper session is open with its routes, and no reservation will take one away. -/
structure Building (system : System) (gen : Gen) : Prop where
  conn : system.conn = some gen
  helper : system.net.helper = some gen
  routes : ∀ ip ∈ system.setUp gen, ip ∈ system.net.routes
  quiet : ∀ dial ∈ system.dials, dial.progress.inFlight →
    (system.excluder dial.excluder).closed = false

/-- The lockdown is the one the attempt armed. -/
def Locked (net : Network) (gen : Gen) : Prop :=
  ∃ lockdown, net.table = some lockdown ∧ lockdown.armedBy = gen

/-- What holds of the helper and the machine while an attempt has the SOCKS address. -/
def Session (system : System) (gen : Gen) : Stage → Prop
  | .bringUp .connect => system.conn = none ∧ system.net.helper = none
  | .bringUp .arm => Building system gen ∧ system.net.tun = some gen
  | .bringUp _ => Building system gen
  | .installing | .up => Building system gen ∧ system.net.tun = some gen ∧ Locked system.net gen
  | .tearDown .endSession =>
    system.conn = none ∧ system.net.helper = some gen ∧ system.taken gen = some gen
  | .tearDown .dropExcluder | .tearDown .stopEngine => system.conn = none ∧ system.net.helper = none
  | .tearDown _ => system.conn = some gen ∧ system.net.helper = some gen
  | _ => False

/-- At most one attempt has the SOCKS address, and the helper serves that one. -/
def Slot (system : System) : Prop :=
  (system.conn = none ∧ system.net.helper = none ∧
      ∀ gen, (system.stage gen).engaged = false) ∨
    ∃ gen, system.port = some gen ∧ Session system gen (system.stage gen) ∧
      ∀ other, (system.stage other).engaged → other = gen

/-- A call only reaps what it requested through a closed excluder. -/
def Reaps (system : System) : Prop :=
  ∀ dial ∈ system.dials, ∀ ip rest armed, dial.progress = .reaping ip rest armed →
    (system.excluder dial.excluder).closed

/-- What holds of every reachable state. -/
structure Sound (system : System) : Prop where
  steady : system.controller.Steady
  held : ∀ gen, system.controller.held = some gen ↔ system.stage gen = .up
  unborn : ∀ gen, system.controller.gen < gen → system.stage gen = .finished ∧ Untouched system gen
  early : ∀ gen, (system.stage gen).early → Untouched system gen
  reaps : Reaps system
  slot : Slot system

variable {system : System} {gen : Gen}

/-- Only an engaged attempt has a session. -/
theorem Session.engaged {stage : Stage} (sess : Session system gen stage) :
    stage.engaged := by
  cases stage <;> first | rfl | exact sess.elim

section

variable (system : System) (gen : Gen) (ips : List Address) (effect : Network → Network)

@[simp] theorem dials_request : (system.request effect).dials = system.dials := by
  unfold System.request
  split_ifs <;> rfl

@[simp] theorem excluders_request : (system.request effect).excluders = system.excluders := by
  unfold System.request
  split_ifs <;> rfl

@[simp] theorem dials_addRoutes : (system.addRoutes gen ips).dials = system.dials := by
  unfold System.addRoutes
  split_ifs <;> rfl

@[simp] theorem excluders_addRoutes : (system.addRoutes gen ips).excluders = system.excluders := by
  unfold System.addRoutes
  split_ifs <;> rfl

end

section

variable {system : System} {gen other : Gen} {ips : List Address}

/-- Further routes do not harm a bring-up. -/
theorem Building.addRoutes (building : Building system gen) :
    Building (system.addRoutes other ips) gen := by
  unfold System.addRoutes
  split_ifs with linked
  · refine ⟨building.conn, building.helper, fun ip member => ?_, building.quiet⟩
    by_cases same : gen = other
    · subst same
      simp only [update_self, mem_append] at member ⊢
      exact member.imp id (building.routes ip)
    · simp only [update_of_ne same] at member
      exact mem_append_right _ (building.routes ip member)
  · exact building

/-- Nor does a request that leaves the helper session and the routes. -/
theorem Building.request (building : Building system gen) {effect : Network → Network}
    (helper : ∀ net, (effect net).helper = net.helper)
    (routes : ∀ net, (effect net).routes = net.routes) : Building (system.request effect) gen := by
  unfold System.request
  split_ifs with linked
  · refine ⟨building.conn, (helper _).trans building.helper, fun ip member => ?_, building.quiet⟩
    simp only [routes]
    exact building.routes ip member
  · exact building

end

/-- What a step takes nothing from: the session of the attempt with the SOCKS address. -/
structure Keeps (system next : System) : Prop where
  conn : next.conn = system.conn
  taken : next.taken = system.taken
  helper : next.net.helper = system.net.helper
  tun : next.net.tun = system.net.tun
  locked : ∀ gen, Locked system.net gen → Locked next.net gen
  building : ∀ gen, Building system gen → Building next gen

/-- A step beside the attempts: it leaves them where they are. -/
structure Beside (system next : System) : Prop extends Keeps system next where
  controller : next.controller = system.controller
  stage : next.stage = system.stage
  port : next.port = system.port
  untouched : ∀ gen, (system.stage gen).early ∨ system.controller.gen < gen →
    Untouched system gen → Untouched next gen

/-- A step that keeps the session leaves it at its stage. -/
theorem Keeps.session {next : System} (keeps : Keeps system next) {stage : Stage}
    (sess : Session system gen stage) : Session next gen stage := by
  obtain ⟨conn, taken, helper, tun, locked, building⟩ := keeps
  cases stage with
  | bringUp step =>
    cases step with
    | connect => exact ⟨conn.trans sess.1, helper.trans sess.2⟩
    | arm => exact ⟨building gen sess.1, tun.trans sess.2⟩
    | _ => exact building gen sess
  | installing | up => exact ⟨building gen sess.1, tun.trans sess.2.1, locked gen sess.2.2⟩
  | tearDown step =>
    cases step with
    | endSession =>
      exact ⟨conn.trans sess.1, helper.trans sess.2.1, by rw [taken]; exact sess.2.2⟩
    | _ => exact ⟨conn.trans sess.1, helper.trans sess.2⟩
  | _ => exact sess

theorem Sound.beside {next : System} (sound : Sound system) (beside : Beside system next)
    (reaps : Reaps next) : Sound next := by
  have stage := beside.stage
  constructor
  · rw [beside.controller]
    exact sound.steady
  · intro gen
    rw [beside.controller, stage]
    exact sound.held gen
  · intro gen later
    rw [beside.controller] at later
    rw [stage]
    obtain ⟨finished, untouched⟩ := sound.unborn gen later
    exact ⟨finished, beside.untouched gen (.inr later) untouched⟩
  · intro gen early
    rw [stage] at early
    exact beside.untouched gen (.inl early) (sound.early gen early)
  · exact reaps
  · rcases sound.slot with ⟨conn, helper, free⟩ | ⟨gen, port, sess, only⟩
    · exact .inl ⟨beside.conn.trans conn, beside.helper.trans helper, by rw [stage]; exact free⟩
    · refine .inr ⟨gen, beside.port.trans port, ?_, by rw [stage]; exact only⟩
      rw [stage]
      exact beside.toKeeps.session sess

variable {effect : Network → Network}

theorem Locked.request (kept : ∀ net, Locked net gen → Locked (effect net) gen)
    (locked : Locked system.net gen) :
    Locked (system.request effect).net gen := by
  unfold System.request
  split_ifs
  · exact kept _ locked
  · exact locked

theorem Locked.allow {net : Network} (ip : Address) (locked : Locked net gen) :
    Locked (net.allow ip) gen := by
  obtain ⟨lockdown, found, mine⟩ := locked
  exact ⟨{ lockdown with allow := ip :: lockdown.allow }, by simp [Network.allow, found], mine⟩

theorem Untouched.request (before : Untouched system gen) :
    Untouched (system.request effect) gen := by
  unfold System.request
  split_ifs
  · exact ⟨before.setUp, before.learned, before.dials, before.excluders⟩
  · exact before

theorem beside_allow (system : System) (ip : Address) :
    Beside system (system.request fun net => net.allow ip) := by
  have building : ∀ gen, Building system gen →
      Building (system.request fun net => net.allow ip) gen :=
    fun gen built => built.request (fun _ => rfl) fun _ => rfl
  have locked : ∀ gen, Locked system.net gen →
      Locked (system.request fun net => net.allow ip).net gen :=
    fun gen held => held.request fun _ => Locked.allow ip
  refine ⟨⟨?_, ?_, ?_, ?_, locked, building⟩, ?_, ?_, ?_, fun _ _ => .request⟩
  all_goals
    unfold System.request
    split_ifs <;> rfl

/-- A route requested in the name of an attempt that is past its start. -/
theorem beside_addRoutes (ips : List Address)
    (past : ∀ other, (system.stage other).early ∨ system.controller.gen < other →
      Untouched system other → other ≠ gen) : Beside system (system.addRoutes gen ips) := by
  have building : ∀ other, Building system other → Building (system.addRoutes gen ips) other :=
    fun other built => built.addRoutes
  have untouched : ∀ other, (system.stage other).early ∨ system.controller.gen < other →
      Untouched system other → Untouched (system.addRoutes gen ips) other := by
    intro other fresh before
    have apart := past other fresh before
    unfold System.addRoutes
    split_ifs
    · refine ⟨?_, before.learned, before.dials, before.excluders⟩
      simp only [update_of_ne apart]
      exact before.setUp
    · exact before
  have locked : ∀ other, Locked system.net other → Locked (system.addRoutes gen ips).net other := by
    intro other held
    unfold System.addRoutes
    split_ifs
    · exact held
    · exact held
  refine ⟨⟨?_, ?_, ?_, ?_, locked, building⟩, ?_, ?_, ?_, untouched⟩
  all_goals
    unfold System.addRoutes
    split_ifs <;> rfl

section

variable {system : System} {update : Excluder → Excluder}

/-- An update of one excluder, seen by whoever looks one up. -/
theorem excluder_updateExcluder (system : System) (update : Excluder → Excluder)
    (index pos : Nat) :
    (system.updateExcluder index update).excluder pos = system.excluder pos ∨
      (system.updateExcluder index update).excluder pos = update (system.excluder pos) := by
  simp only [System.excluder, System.updateExcluder, getD_eq_getElem?_getD,
    getElem?_modify]
  cases system.excluders[pos]? with
  | none => exact .inl rfl
  | some =>
    by_cases same : index = pos
    · exact .inr (by simp [same])
    · exact .inl (by simp [same])

/-- An update that closes nothing. -/
theorem closed_updateExcluder (kept : ∀ excluder, (update excluder).closed = excluder.closed)
    (index pos : Nat) :
    ((system.updateExcluder index update).excluder pos).closed =
      (system.excluder pos).closed := by
  rcases excluder_updateExcluder system update index pos with same | changed
  · rw [same]
  · rw [changed, kept]

theorem usedBy_mem {pos : Nat} {gen : Gen}
    (used : (system.excluder pos).usedBy = some gen) :
    ∃ excluder ∈ system.excluders, excluder.usedBy = some gen := by
  rw [System.excluder, getD_eq_getElem?_getD] at used
  cases found : system.excluders[pos]? with
  | none =>
    rw [found] at used
    cases used
  | some excluder =>
    rw [found] at used
    exact ⟨excluder, mem_of_getElem? found, used⟩

/-- Making an excluder closes none. -/
theorem closed_currentExcluder (pos : Nat) :
    (system.currentExcluder.1.excluder pos).closed = (system.excluder pos).closed := by
  unfold System.currentExcluder
  cases system.pe with
  | some => rfl
  | none =>
    simp only [System.excluder, getD_eq_getElem?_getD, getElem?_append]
    split_ifs with inside
    · rfl
    · rw [getElem?_eq_none (Nat.le_of_not_lt inside)]
      cases pos - system.excluders.length with
      | zero | succ => rfl

theorem beside_updateExcluder (closed : ∀ excluder, (update excluder).closed = excluder.closed)
    (usedBy : ∀ excluder, (update excluder).usedBy = excluder.usedBy) (index : Nat) :
    Beside system (system.updateExcluder index update) := by
  refine ⟨⟨rfl, rfl, rfl, rfl, fun _ => id, fun gen built => ?_⟩, rfl, rfl, rfl,
    fun gen _ before => ?_⟩
  · refine ⟨built.conn, built.helper, built.routes, fun dial member inFlight => ?_⟩
    rw [closed_updateExcluder closed]
    exact built.quiet dial member inFlight
  · refine ⟨before.setUp, before.learned, before.dials, fun excluder member => ?_⟩
    obtain ⟨old, known, rfl | ⟨_, rfl⟩⟩ := Threads.mem_modify member
    · exact before.excluders _ known
    · rw [usedBy]
      exact before.excluders old known

/-- Making an excluder is in no attempt's name. -/
theorem Untouched.currentExcluder {gen : Gen} (untouched : Untouched system gen) :
    Untouched system.currentExcluder.1 gen := by
  unfold System.currentExcluder
  cases system.pe with
  | some => exact untouched
  | none =>
    refine ⟨untouched.setUp, untouched.learned, untouched.dials, fun excluder member => ?_⟩
    rcases mem_append.mp member with old | new
    · exact untouched.excluders excluder old
    · rw [mem_singleton.mp new]
      exact nofun

/-- Making an excluder is beside the session. -/
theorem beside_currentExcluder (system : System) : Beside system system.currentExcluder.1 := by
  have building : ∀ gen, Building system gen → Building system.currentExcluder.1 gen := by
    intro gen built
    have quiet : ∀ dial ∈ system.dials, dial.progress.inFlight →
        (system.currentExcluder.1.excluder dial.excluder).closed = false := by
      intro dial member inFlight
      rw [closed_currentExcluder]
      exact built.quiet dial member inFlight
    unfold System.currentExcluder at quiet ⊢
    cases pe : system.pe with
    | some => exact built
    | none =>
      simp only [pe] at quiet
      exact ⟨built.conn, built.helper, built.routes, quiet⟩
  refine ⟨⟨?_, ?_, ?_, ?_, fun gen => ?_, building⟩, ?_, ?_, ?_, fun _ _ => .currentExcluder⟩
  all_goals
    unfold System.currentExcluder
    cases system.pe <;> first | rfl | exact id

end

theorem Beside.refl (system : System) : Beside system system :=
  ⟨⟨rfl, rfl, rfl, rfl, fun _ => id, fun _ => id⟩, rfl, rfl, rfl, fun _ _ => id⟩

theorem Beside.trans {first second third : System} (before : Beside first second)
    (after : Beside second third) : Beside first third where
  conn := after.conn.trans before.conn
  taken := after.taken.trans before.taken
  helper := after.helper.trans before.helper
  tun := after.tun.trans before.tun
  locked gen := after.locked gen ∘ before.locked gen
  building gen := after.building gen ∘ before.building gen
  controller := after.controller.trans before.controller
  stage := after.stage.trans before.stage
  port := after.port.trans before.port
  untouched gen fresh untouched := by
    refine after.untouched gen ?_ (before.untouched gen fresh untouched)
    rwa [before.stage, before.controller]

section

variable {system : System} {dial : Dial} {index : Nat}

/-- A call of `reserve` goes on. Who comes into flight does so through an open excluder of its
own. -/
theorem beside_dials (member : dial ∈ system.dials) {progress : Reserve}
    (flight : progress.inFlight → dial.progress.inFlight ∨
      (system.excluder dial.excluder).closed = false ∧
        (system.excluder dial.excluder).usedBy = some dial.gen) :
    Beside system
      { system with dials := system.dials.set index { dial with progress } } := by
  refine ⟨⟨rfl, rfl, rfl, rfl, fun _ => id, fun gen built => ?_⟩, rfl, rfl, rfl,
    fun gen _ before => ?_⟩
  · refine ⟨built.conn, built.helper, built.routes, fun other found inFlight => ?_⟩
    rcases mem_or_eq_of_mem_set found with old | rfl
    · exact built.quiet other old inFlight
    · rcases flight inFlight with already | ⟨opened, _⟩
      · exact built.quiet dial member already
      · exact opened
  · refine ⟨before.setUp, before.learned, fun other found mine => ?_, before.excluders⟩
    rcases mem_or_eq_of_mem_set found with old | rfl
    · exact before.dials other old mine
    · by_contra inFlight
      rcases flight (by simpa using inFlight) with already | ⟨_, used⟩
      · rw [before.dials dial member mine] at already
        cases already
      · obtain ⟨excluder, known, its⟩ := usedBy_mem used
        exact before.excluders excluder known (its.trans (congrArg some mine))

variable {rest : List Address}

/-- Under the session that is open no call takes a route back. -/
theorem beside_reap (reaps : Reaps system) (member : dial ∈ system.dials) {ip : Address}
    {armed : Bool} (reaping : dial.progress = .reaping ip rest armed) :
    Beside system (system.removeRoutes [ip]) := by
  have building : ∀ gen, Building system gen → Building (system.removeRoutes [ip]) gen := by
    intro gen built
    have closed := reaps dial member ip rest armed reaping
    rw [built.quiet dial member (by rw [reaping]; rfl)] at closed
    cases closed
  have locked : ∀ gen, Locked system.net gen → Locked (system.removeRoutes [ip]).net gen :=
    fun gen held => held.request fun _ => id
  refine ⟨⟨?_, ?_, ?_, ?_, locked, building⟩, ?_, ?_, ?_, fun _ _ => .request⟩
  all_goals
    unfold System.removeRoutes System.request
    split_ifs <;> rfl

/-- One action of a call of `reserve` takes nothing from a session. -/
theorem beside_reserve (sound : Sound system) (member : dial ∈ system.dials) :
    Beside system (reserve system dial).1 := by
  unfold reserve
  cases progress : dial.progress with
  | entered => apply beside_updateExcluder <;> exact fun _ => rfl
  | excluding =>
    refine beside_addRoutes _ fun other fresh before mine => ?_
    have rests := before.dials dial member mine.symm
    rw [progress] at rests
    cases rests
  | judging | returned => exact Beside.refl system
  | reaping => exact beside_reap sound.reaps member progress
  | allowing ip => exact beside_allow system ip

@[simp] theorem dials_reserve (system : System) (dial : Dial) :
    (reserve system dial).1.dials = system.dials := by
  unfold reserve
  cases dial.progress <;> simp [System.updateExcluder, System.removeRoutes]

theorem excluder_reserve (system : System) (dial : Dial) (pos : Nat) :
    ∃ seen, (reserve system dial).1.excluder pos =
      { system.excluder pos with seen } := by
  unfold reserve
  cases dial.progress with
  | entered ips =>
    rcases excluder_updateExcluder system (fun excluder =>
      { excluder with
        seen := excluder.seen ++ (system.excluder dial.excluder).fresh ips }) dial.excluder
      pos with same | changed
    · exact ⟨_, same⟩
    · exact ⟨_, changed⟩
  | excluding | reaping | allowing =>
    refine ⟨(system.excluder pos).seen, ?_⟩
    simp [System.excluder, System.removeRoutes]
  | judging | returned => exact ⟨_, rfl⟩

/-- A call comes into flight through an excluder that is live and open. -/
theorem reserve_inFlight (inFlight : (reserve system dial).2.inFlight) :
    dial.progress.inFlight ∨
      (∃ ips, dial.progress = .entered ips) ∧
        (system.excluder dial.excluder).routesLive ∧
        (system.excluder dial.excluder).closed = false := by
  unfold reserve at inFlight
  cases progress : dial.progress with
  | entered ips =>
    simp only [progress] at inFlight
    split_ifs at inFlight with live
    · simp only [Bool.and_eq_true, Bool.not_eq_true'] at live
      exact .inr ⟨⟨ips, rfl⟩, live⟩
    · cases inFlight
  | returned =>
    simp only [progress] at inFlight
    cases inFlight
  | _ => exact .inl rfl

theorem reserve_reaping {ip : Address} {armed : Bool}
    (reaping : (reserve system dial).2 = .reaping ip rest armed) :
    (system.excluder dial.excluder).closed := by
  have going : ∀ armed' ips, Reserve.continue armed' ips ≠ .reaping ip rest armed := by
    intro armed' ips
    cases ips <;> exact nofun
  unfold reserve at reaping
  cases progress : dial.progress <;> simp only [progress] at reaping
  case entered ips =>
    split_ifs at reaping
    exact absurd reaping (going _ _)
  case judging ip' rest' armed' =>
    split_ifs at reaping with closed
    · exact closed
    · exact absurd reaping (going _ _)
  case reaping | allowing => exact absurd reaping (going _ _)
  case excluding | returned => cases reaping

/-- The next action of a dial whose excluder, if live, is its own attempt's. -/
theorem Sound.resume (sound : Sound system) (found : system.dials[index]? = some dial)
    (met : ∀ ips, dial.progress = .entered ips →
      (system.excluder dial.excluder).routesLive = false ∨
        (system.excluder dial.excluder).closed ∨
        (system.excluder dial.excluder).usedBy = some dial.gen) :
    Sound { (reserve system dial).1 with
      dials := (reserve system dial).1.dials.set index
        { dial with progress := (reserve system dial).2 } } := by
  have member := mem_of_getElem? found
  have shape := excluder_reserve system dial
  have beside : Beside system (reserve system dial).1 := beside_reserve sound member
  refine sound.beside (beside.trans (beside_dials (by simpa using member) fun inFlight => ?_)) ?_
  · obtain ⟨seen, same⟩ := shape dial.excluder
    rw [same]
    rcases reserve_inFlight inFlight with already | ⟨⟨ips, entered⟩, live, opened⟩
    · exact .inl already
    · have used := met ips entered
      simp only [live, opened, reduceCtorEq, false_or] at used
      exact .inr ⟨opened, used⟩
  · intro other known ip rest armed reaping
    obtain ⟨seen, same⟩ := shape other.excluder
    have closed : ((reserve system dial).1.excluder other.excluder).closed =
        (system.excluder other.excluder).closed := by rw [same]
    refine closed.trans ?_
    rw [dials_reserve] at known
    rcases mem_or_eq_of_mem_set known with old | rfl
    · exact sound.reaps other old ip rest armed reaping
    · have shut : (system.excluder dial.excluder).closed := reserve_reaping reaping
      exact shut

/-- A dial of any engine enters `ReserveUnderlay`. -/
theorem Sound.enter (sound : Sound system) (gen : Gen) (ips : List Address) :
    Sound { system.currentExcluder.1 with
      dials := system.currentExcluder.1.dials ++
        [⟨gen, system.currentExcluder.2, .entered ips⟩] } := by
  have beside : ∀ before : System, Beside before
      { before with dials := before.dials ++ [⟨gen, system.currentExcluder.2, .entered ips⟩] } := by
    intro before
    refine ⟨⟨rfl, rfl, rfl, rfl, fun _ => id, fun other built => ?_⟩, rfl, rfl, rfl,
      fun other _ untouched => ?_⟩
    · refine ⟨built.conn, built.helper, built.routes, fun dial known inFlight => ?_⟩
      rcases mem_append.mp known with old | new
      · exact built.quiet dial old inFlight
      · rw [mem_singleton.mp new] at inFlight
        cases inFlight
    · refine ⟨untouched.setUp, untouched.learned, fun dial known mine => ?_, untouched.excluders⟩
      rcases mem_append.mp known with old | new
      · exact untouched.dials dial old mine
      · rw [mem_singleton.mp new]
        rfl
  have dials : system.currentExcluder.1.dials = system.dials := by
    unfold System.currentExcluder
    cases system.pe <;> rfl
  refine sound.beside ((beside_currentExcluder system).trans (beside _)) ?_
  intro dial known ip rest armed reaping
  refine (closed_currentExcluder dial.excluder).trans ?_
  rcases mem_append.mp known with old | new
  · rw [dials] at old
    exact sound.reaps dial old ip rest armed reaping
  · rw [mem_singleton.mp new] at reaping
    cases reaping

end

section

variable {system : System} {gen : Gen} {ip : Address}

/-- Only the dials and the excluders count. -/
theorem Reaps.congr {next : System} (reaps : Reaps system) (dials : next.dials = system.dials)
    (excluders : next.excluders = system.excluders) : Reaps next := by
  unfold Reaps System.excluder at *
  rwa [dials, excluders]

/-- An engaged session may learn an address. -/
theorem Sound.learn (sound : Sound system) (learns : (system.stage gen).learns)
    (known : gen ≤ system.controller.gen) :
    Sound { system with
      learned := update system.learned gen (ip :: system.learned gen) } := by
  refine sound.beside ⟨⟨rfl, rfl, rfl, rfl, fun _ => id, fun other built => ?_⟩, rfl, rfl, rfl,
    fun other fresh before => ?_⟩ (sound.reaps.congr rfl rfl)
  · exact ⟨built.conn, built.helper, built.routes, built.quiet⟩
  · have apart : other ≠ gen := by
      rintro rfl
      rcases fresh with early | later
      · revert learns early
        cases system.stage other with
        | bringUp step => cases step <;> simp [Stage.learns, Stage.early]
        | _ => simp [Stage.learns, Stage.early]
      · exact absurd known (Nat.not_le.mpr later)
    refine ⟨before.setUp, ?_, before.dials, before.excluders⟩
    simp only [update_of_ne apart]
    exact before.learned

/-- A learned address may be routed. -/
theorem Sound.carve (sound : Sound system) (learned : ip ∈ system.learned gen) :
    Sound (system.addRoutes gen [ip]) := by
  refine sound.beside (beside_addRoutes [ip] fun other _ before mine => ?_)
    (sound.reaps.congr (dials_addRoutes _ _ _) (excluders_addRoutes _ _ _))
  rw [← mine, before.learned] at learned
  cases learned

/-- An address may be allowed. -/
theorem Sound.permit (sound : Sound system) (ip : Address) :
    Sound (system.request fun net => net.allow ip) :=
  sound.beside (beside_allow system ip)
    (sound.reaps.congr (dials_request _ _) (excluders_request _ _))

end

end Bacchus.Client
