import Bacchus.Client.Reservations

/-!
# One enforcement session after another

The SOCKS listener is bound from the end of `Engine.Connect` to `Engine.Stop`, around the whole
of an enforcement session, so two sessions never overlap. Only a dial that is still reserving
can reach over into the next.
-/

namespace Bacchus.Client

open Function

section

variable {system next : System} {gen : Gen} {stage : Stage}

/-- The attempt that has the SOCKS address is the only one. -/
theorem Slot.owner (slot : Slot system) (stands : system.stage gen = stage)
    (engaged : stage.engaged) : system.port = some gen ∧ Session system gen stage ∧
      ∀ other, (system.stage other).engaged → other = gen := by
  subst stands
  rcases slot with ⟨_, _, free⟩ | ⟨owner, port, sess, only⟩
  · rw [free gen] at engaged
    cases engaged
  · obtain rfl := only gen engaged
    exact ⟨port, sess, only⟩

theorem Slot.keep (moved : next.stage = update system.stage gen stage)
    (only : ∀ other, (system.stage other).engaged → other = gen)
    (port : next.port = some gen) (sess : Session next gen stage) : Slot next := by
  refine .inr ⟨gen, port, ?_, fun other engaged => ?_⟩
  · rw [moved, update_self]
    exact sess
  · by_contra apart
    rw [moved, update_of_ne apart] at engaged
    exact apart (only other engaged)

theorem Slot.pass (slot : Slot system) (keeps : Keeps system next)
    (moved : next.stage = update system.stage gen stage) (port : next.port = system.port)
    (idle : (system.stage gen).engaged = false) (rests : stage.engaged = false) : Slot next := by
  have engaged : ∀ other, (next.stage other).engaged = (system.stage other).engaged := by
    intro other
    by_cases same : other = gen
    · rw [moved, same, update_self, idle, rests]
    · rw [moved, update_of_ne same]
  rcases slot with ⟨conn, helper, free⟩ | ⟨owner, bound, sess, only⟩
  · exact .inl ⟨keeps.conn.trans conn, keeps.helper.trans helper,
      fun other => (engaged other).trans (free other)⟩
  · have apart : owner ≠ gen := by
      rintro rfl
      rw [sess.engaged] at idle
      cases idle
    refine .inr ⟨owner, port.trans bound, ?_, fun other => by rw [engaged]; exact only other⟩
    rw [moved, update_of_ne apart]
    exact keeps.session sess

/-- The controller's session is where it was as long as no attempt comes up or goes down. -/
theorem Sound.held_move (sound : Sound system)
    (moved : next.stage = update system.stage gen stage)
    (held : next.controller.held = system.controller.held)
    (below : system.stage gen ≠ .up) (short : stage ≠ .up) (other : Gen) :
    next.controller.held = some other ↔ next.stage other = .up := by
  rw [held, sound.held other, moved]
  by_cases same : other = gen
  · subst same
    simp [below, short]
  · rw [update_of_ne same]

theorem Sound.begun (sound : Sound system) (live : system.stage gen ≠ .finished) :
    gen ≤ system.controller.gen := by
  by_contra later
  exact live (sound.unborn gen (Nat.lt_of_not_le later)).1

variable (sound : Sound system) (moved : next.stage = update system.stage gen stage)
  (early : stage.early → Untouched next gen)
  (others : ∀ other, other ≠ gen → Untouched system other → Untouched next other)
  (dials : next.dials = system.dials)
  (closed : ∀ index, (system.excluder index).closed → (next.excluder index).closed)
  (slot : Slot next)
include sound moved early others dials closed slot

theorem Sound.move (steady : next.controller.Steady)
    (held : ∀ other, next.controller.held = some other ↔ next.stage other = .up)
    (later : system.controller.gen ≤ next.controller.gen) (begun : gen ≤ next.controller.gen) :
    Sound next := by
  refine ⟨steady, held, fun other after => ?_, fun other young => ?_, ?_, slot⟩
  · have apart : other ≠ gen := Nat.ne_of_gt (Nat.lt_of_le_of_lt begun after)
    obtain ⟨finished, untouched⟩ := sound.unborn other (Nat.lt_of_le_of_lt later after)
    rw [moved, update_of_ne apart]
    exact ⟨finished, others other apart untouched⟩
  · by_cases same : other = gen
    · subst same
      rw [moved, update_self] at young
      exact early young
    · rw [moved, update_of_ne same] at young
      exact others other same (sound.early other young)
  · intro dial known ip rest armed reaping
    rw [dials] at known
    exact closed _ (sound.reaps dial known ip rest armed reaping)

theorem Sound.advance (controller : next.controller = system.controller)
    (live : system.stage gen ≠ .finished) (below : system.stage gen ≠ .up) (short : stage ≠ .up) :
    Sound next := by
  have begun := sound.begun live
  refine sound.move moved early others dials closed slot ?_ ?_ ?_ ?_
  · rw [controller]
    exact sound.steady
  · exact sound.held_move moved (congrArg Controller.held controller) below short
  · exact Nat.le_of_eq (congrArg Controller.gen controller.symm)
  · rwa [controller]

end

section

variable {system : System} {gen : Gen} {stage : Stage}

theorem keeps_placed (system : System) (stage : Gen → Stage) (controller : Controller)
    (port : Option Gen) :
    Keeps system { system with stage, controller, port } :=
  ⟨rfl, rfl, rfl, rfl, fun _ => id,
    fun _ built => ⟨built.conn, built.helper, built.routes, built.quiet⟩⟩

theorem Untouched.placed (untouched : Untouched system gen) (stage : Gen → Stage)
    (controller : Controller) (port : Option Gen) :
    Untouched { system with stage, controller, port } gen :=
  ⟨untouched.setUp, untouched.learned, untouched.dials, untouched.excluders⟩

theorem Sound.idle (sound : Sound system) {controller : Controller}
    (steady : controller.Steady) (held : controller.held = system.controller.held)
    (same : controller.gen = system.controller.gen) (live : system.stage gen ≠ .finished)
    (idle : (system.stage gen).engaged = false) (rests : stage.engaged = false)
    (early : stage.early → (system.stage gen).early) :
    Sound { system.setStage gen stage with controller } := by
  have below : system.stage gen ≠ .up := by
    intro up
    rw [up] at idle
    cases idle
  have short : stage ≠ .up := by
    rintro rfl
    cases rests
  have begun := sound.begun live
  refine sound.move rfl (fun young => ?_) (fun _ _ before => before.placed _ _ _) rfl (fun _ => id)
    ?_ steady (sound.held_move rfl held below short) (Nat.le_of_eq same.symm) ?_
  · exact (sound.early gen (early young)).placed _ _ _
  · exact sound.slot.pass (keeps_placed _ _ _ _) rfl rfl idle rests
  · rwa [← same] at begun

end

/-- A step in the name of one attempt: the others are untouched by it. -/
structure Spares (gen : Gen) (system next : System) : Prop where
  controller : next.controller = system.controller
  stage : next.stage = system.stage
  port : next.port = system.port
  dials : next.dials = system.dials
  closed : ∀ index, (system.excluder index).closed → (next.excluder index).closed
  untouched : ∀ other, other ≠ gen → Untouched system other → Untouched next other

section

variable {gen : Gen} {system next : System}

theorem Spares.trans {third : System} (first : Spares gen system next)
    (second : Spares gen next third) : Spares gen system third where
  controller := second.controller.trans first.controller
  stage := second.stage.trans first.stage
  port := second.port.trans first.port
  dials := second.dials.trans first.dials
  closed index := second.closed index ∘ first.closed index
  untouched other apart := second.untouched other apart ∘ first.untouched other apart

/-- Steps of the network, the connection or the attempt's own notes. -/
theorem Spares.network (controller : next.controller = system.controller)
    (stage : next.stage = system.stage) (port : next.port = system.port)
    (dials : next.dials = system.dials) (excluders : next.excluders = system.excluders)
    (setUp : ∀ other, other ≠ gen → next.setUp other = system.setUp other)
    (learned : next.learned = system.learned) : Spares gen system next := by
  refine ⟨controller, stage, port, dials, fun index closed => ?_, fun other apart before => ?_⟩
  · unfold System.excluder at *
    rwa [excluders]
  · refine ⟨(setUp other apart).trans before.setUp, ?_, ?_, ?_⟩
    · rw [learned]
      exact before.learned
    · rw [dials]
      exact before.dials
    · rw [excluders]
      exact before.excluders

theorem spares_refl (gen : Gen) (system : System) : Spares gen system system :=
  .network rfl rfl rfl rfl rfl (fun _ _ => rfl) rfl

theorem spares_request (effect : Network → Network) :
    Spares gen system (system.request effect) := by
  unfold System.request
  split_ifs <;> exact .network rfl rfl rfl rfl rfl (fun _ _ => rfl) rfl

theorem spares_addRoutes (ips : List Address) : Spares gen system (system.addRoutes gen ips) := by
  unfold System.addRoutes
  split_ifs
  · exact .network rfl rfl rfl rfl rfl (fun other apart => update_of_ne apart _ _) rfl
  · exact .network rfl rfl rfl rfl rfl (fun _ _ => rfl) rfl

/-- An excluder may be closed, and may be given to the attempt. -/
theorem spares_updateExcluder (index : Nat) (update : Excluder → Excluder)
    (closed : ∀ excluder, excluder.closed → (update excluder).closed)
    (usedBy : ∀ excluder, (update excluder).usedBy = excluder.usedBy ∨
      (update excluder).usedBy = some gen) :
    Spares gen system (system.updateExcluder index update) := by
  refine ⟨rfl, rfl, rfl, rfl, fun pos shut => ?_, fun other apart before => ?_⟩
  · rcases excluder_updateExcluder system update index pos with same | changed
    · rwa [same]
    · rw [changed]
      exact closed _ shut
  · refine ⟨before.setUp, before.learned, before.dials, fun excluder member => ?_⟩
    obtain ⟨old, known, rfl | ⟨_, rfl⟩⟩ := Threads.mem_modify member
    · exact before.excluders _ known
    · rcases usedBy old with same | given
      · rw [same]
        exact before.excluders old known
      · rw [given]
        exact fun mine => apart (Option.some.inj mine).symm

theorem spares_currentExcluder : Spares gen system system.currentExcluder.1 := by
  refine ⟨?_, ?_, ?_, ?_, fun index closed => ?_, fun _ _ before => before.currentExcluder⟩
  case refine_5 => rwa [closed_currentExcluder]
  all_goals
    unfold System.currentExcluder
    cases system.pe <;> rfl

/-- Every step keeps the sessions apart. -/
theorem Sound.step (sound : Sound system) {before stage : Stage}
    (spares : Spares gen system next) (stands : system.stage gen = before)
    (engaged : before.engaged) (below : before ≠ .up) (short : stage ≠ .up)
    (early : stage.early → Untouched next gen)
    (sess : Session next gen stage) : Sound (next.setStage gen stage) := by
  subst stands
  obtain ⟨port, _, only⟩ := sound.slot.owner rfl engaged
  have moved : (next.setStage gen stage).stage = update system.stage gen stage := by
    rw [← spares.stage]
    rfl
  have live : system.stage gen ≠ .finished := by
    intro finished
    rw [finished] at engaged
    cases engaged
  refine sound.advance moved (fun young => ?_) (fun other apart before => ?_) spares.dials
    spares.closed ?_ spares.controller live below short
  · exact (early young).placed _ _ _
  · exact (spares.untouched other apart before).placed _ _ _
  · exact Slot.keep moved only (spares.port.trans port) ((keeps_placed _ _ _ _).session sess)

end

section

variable {policy : Gen → Policy} {system : System} {gen : Gen}

theorem Building.linked (built : Building system gen) : system.linked := by
  simp [System.linked, built.conn, built.helper]

theorem Building.updateExcluder (built : Building system gen) (index : Nat)
    (update : Excluder → Excluder)
    (closed : ∀ excluder, (update excluder).closed = excluder.closed) :
    Building (system.updateExcluder index update) gen := by
  refine ⟨built.conn, built.helper, built.routes, fun dial member inFlight => ?_⟩
  rw [closed_updateExcluder closed]
  exact built.quiet dial member inFlight

variable {effect : Network → Network}

theorem request_eq (linked : system.linked) :
    system.request effect = { system with net := effect system.net } :=
  if_pos linked

/-- Every step of `Start` leads to the next stage of the session. -/
theorem Sound.bringsUp (sound : Sound system) {step : BringUp}
    (stands : system.stage gen = .bringUp step)
    (quiet : step = .connect → ∀ dial ∈ system.dials, dial.progress.inFlight = false) :
    Sound (bringUp policy system gen step) := by
  obtain ⟨_, sess, _⟩ := sound.slot.owner stands rfl
  cases step with
  | connect =>
    obtain ⟨conn, helper⟩ := sess
    have untouched := sound.early gen (by rw [stands]; rfl)
    have opened : Spares gen system { system with conn := some gen, net := .opened gen } :=
      .network rfl rfl rfl rfl rfl (fun _ _ => rfl) rfl
    have next : bringUp policy system gen .connect =
        { system with conn := some gen, net := .opened gen }.setStage gen
          (.bringUp .takeExcluder) := by
      simp only [Client.bringUp, conn, helper]
      rfl
    rw [next]
    refine sound.step opened stands rfl nofun nofun (fun _ => ?_) ?_
    · exact ⟨untouched.setUp, untouched.learned, untouched.dials, untouched.excluders⟩
    · refine ⟨rfl, rfl, fun ip member => ?_, fun dial member inFlight => ?_⟩
      · rw [untouched.setUp] at member
        cases member
      · rw [quiet rfl dial member] at inFlight
        cases inFlight
  | takeExcluder =>
    have given : Spares gen system.currentExcluder.1
        (system.currentExcluder.1.updateExcluder system.currentExcluder.2 fun excluder =>
          { excluder with usedBy := some gen }) :=
      spares_updateExcluder _ _ (fun _ => id) fun _ => .inr rfl
    have noted : ∀ before : System, ∀ excluderOf, Spares gen before
        { before with excluderOf } :=
      fun _ _ => .network rfl rfl rfl rfl rfl (fun _ _ => rfl) rfl
    have built := ((beside_currentExcluder system).building gen sess).updateExcluder
      system.currentExcluder.2 (fun excluder => { excluder with usedBy := some gen }) fun _ => rfl
    have next : bringUp policy system gen .takeExcluder =
        { system.currentExcluder.1.updateExcluder system.currentExcluder.2 fun excluder =>
            { excluder with usedBy := some gen } with
          excluderOf := update system.excluderOf gen system.currentExcluder.2 }.setStage
          gen (.bringUp .excludeControl) := rfl
    rw [next]
    refine sound.step ((spares_currentExcluder.trans given).trans (noted _ _)) stands rfl
      nofun nofun nofun ?_
    exact ⟨built.conn, built.helper, built.routes, built.quiet⟩
  | goLive =>
    refine sound.step ((spares_addRoutes _).trans (spares_updateExcluder _ _ (fun _ => id)
      fun _ => .inl rfl)) stands rfl nofun nofun nofun ?_
    exact sess.addRoutes.updateExcluder _ _ fun _ => rfl
  | excludeControl | excludeBypass =>
    exact sound.step (spares_addRoutes _) stands rfl nofun nofun nofun sess.addRoutes
  | raiseTun =>
    refine sound.step (spares_request _) stands rfl nofun nofun nofun ⟨?_, ?_⟩
    · exact sess.request (fun _ => rfl) fun _ => rfl
    · rw [request_eq sess.linked]
  | arm =>
    obtain ⟨built, tun⟩ := sess
    refine sound.step ((spares_request _).trans (spares_updateExcluder _ _ (fun _ => id)
      fun _ => .inl rfl)) stands rfl nofun nofun nofun ⟨?_, ?_, ?_⟩
    · apply Building.updateExcluder
      · exact built.request (fun _ => rfl) fun _ => rfl
      · exact fun _ => rfl
    · rw [request_eq built.linked]
      exact tun
    · rw [request_eq built.linked]
      exact ⟨_, rfl, rfl⟩

theorem conn_request : (system.request effect).conn = system.conn := by
  unfold System.request
  split_ifs <;> rfl

theorem helper_request (kept : ∀ net, (effect net).helper = net.helper) :
    (system.request effect).net.helper = system.net.helper := by
  unfold System.request
  split_ifs
  · exact kept _
  · rfl

/-- Every step of `Close` leads to the next, and the last gives the address back. -/
theorem Sound.tearsDown (sound : Sound system) {step : TearDown}
    (stands : system.stage gen = .tearDown step) : Sound (tearDown policy system gen step) := by
  have noted : ∀ before : System, ∀ net conn taken pe, Spares gen before
      { before with net, conn, taken, pe } :=
    fun _ _ _ _ _ => .network rfl rfl rfl rfl rfl (fun _ _ => rfl) rfl
  obtain ⟨_, sess, only⟩ := sound.slot.owner stands rfl
  cases step with
  | disarm | dropControl | dropReserved | dropBypass =>
    refine sound.step (spares_request _) stands rfl nofun nofun nofun
      ⟨conn_request.trans sess.1, ?_⟩
    refine Eq.trans ?_ sess.2
    apply helper_request
    exact fun _ => rfl
  | lowerTun =>
    change Sound (System.setStage { system with net := { system.net with tun := none } } gen _)
    exact sound.step (noted system _ _ _ _) stands rfl nofun nofun nofun sess
  | disable =>
    exact sound.step (spares_updateExcluder _ _ (fun _ _ => rfl) fun _ => .inl rfl) stands rfl
      nofun nofun nofun sess
  | takeConn =>
    change Sound (System.setStage
      { system with conn := none, taken := update system.taken gen system.conn } gen _)
    refine sound.step (noted system _ _ _ _) stands rfl nofun nofun nofun ⟨rfl, sess.2, ?_⟩
    exact (update_self gen system.conn system.taken).trans sess.1
  | endSession =>
    let helper := if system.net.helper = system.taken gen then none else system.net.helper
    change Sound (System.setStage { system with net := { system.net with helper } } gen _)
    refine sound.step (noted system _ _ _ _) stands rfl nofun nofun nofun ⟨sess.1, ?_⟩
    exact if_pos (sess.2.1.trans sess.2.2.symm)
  | dropExcluder =>
    let pe := if system.pe = some (system.excluderOf gen) then none else system.pe
    change Sound (System.setStage { system with pe } gen _)
    exact sound.step (noted system _ _ _ _) stands rfl nofun nofun nofun sess
  | stopEngine =>
    have live : system.stage gen ≠ .finished := by rw [stands]; exact nofun
    have below : system.stage gen ≠ .up := by rw [stands]; exact nofun
    refine sound.advance rfl nofun (fun _ _ before => before.placed _ _ _) rfl (fun _ => id)
      (.inl ⟨sess.1, sess.2, fun other => ?_⟩) rfl live below nofun
    change (update system.stage gen .finished other).engaged = false
    by_cases same : other = gen
    · rw [same, update_self]
      rfl
    · rw [update_of_ne same]
      by_contra held
      exact same (only other (by simpa using held))

end

section

variable {policy : Gen → Policy} {system next : System} {gen : Gen} {controller : Controller}
  (sound : Sound system)
include sound

theorem Sound.control (steady : controller.Steady) (held : controller.held = system.controller.held)
    (later : system.controller.gen ≤ controller.gen) :
    Sound { system with controller } := by
  refine ⟨steady, fun gen => ?_, fun gen after => ?_, fun gen young => ?_,
    sound.reaps.congr rfl rfl, ?_⟩
  · rw [held]
    exact sound.held gen
  · obtain ⟨finished, untouched⟩ := sound.unborn gen (Nat.lt_of_le_of_lt later after)
    exact ⟨finished, untouched.placed _ _ _⟩
  · exact (sound.early gen young).placed _ _ _
  · have keeps := keeps_placed system system.stage controller system.port
    rcases sound.slot with free | ⟨owner, port, sess, only⟩
    · exact .inl free
    · exact .inr ⟨owner, port, keeps.session sess, only⟩

theorem Sound.connect
    (connected : system.controller.connect = some controller) :
    Sound { system.setStage controller.gen .starting with controller } := by
  obtain ⟨steady, held, later, before⟩ := sound.steady.connect connected
  obtain ⟨finished, untouched⟩ := sound.unborn controller.gen later
  have below : system.stage controller.gen ≠ .up := by rw [finished]; exact nofun
  refine sound.move rfl (fun _ => untouched.placed _ _ _) (fun _ _ other => other.placed _ _ _) rfl
    (fun _ => id) ?_ steady (sound.held_move rfl (held.trans before.symm) below nofun)
    (Nat.le_of_lt later) (Nat.le_refl _)
  exact sound.slot.pass (keeps_placed _ _ _ _) rfl rfl (by rw [finished]; rfl) rfl

theorem Sound.disconnect : Sound (disconnect system) := by
  have ended : system.controller.disconnect.Steady := .ended _ _
  have later : system.controller.gen ≤ system.controller.disconnect.gen := Nat.le_succ _
  unfold Client.disconnect
  cases held : system.controller.held with
  | none => exact sound.control ended held.symm later
  | some gen =>
    have up := (sound.held gen).mp held
    obtain ⟨port, sess, only⟩ := sound.slot.owner up rfl
    have begun : gen ≤ system.controller.disconnect.gen :=
      Nat.le_trans (sound.begun (by rw [up]; exact nofun)) later
    refine sound.move rfl nofun (fun _ _ before => before.placed _ _ _) rfl (fun _ => id)
      (Slot.keep rfl only port ⟨sess.1.conn, sess.1.helper⟩) ended (fun other => ?_) later
      begun
    refine ⟨nofun, fun above => absurd above ?_⟩
    change update system.stage gen _ other ≠ .up
    by_cases same : other = gen
    · rw [same, update_self]
      exact nofun
    · rw [update_of_ne same]
      exact fun above => same (only other (by rw [above]; rfl))

theorem Sound.install (stands : system.stage gen = .installing)
    (installed : system.controller.install gen = some controller) :
    Sound { system.setStage gen .up with controller } := by
  obtain ⟨steady, held, same, before⟩ := sound.steady.install installed
  obtain ⟨port, sess, only⟩ := sound.slot.owner stands rfl
  have begun : gen ≤ system.controller.gen := sound.begun (by rw [stands]; exact nofun)
  refine sound.move rfl nofun (fun _ _ before => before.placed _ _ _) rfl (fun _ => id)
    (Slot.keep rfl only port ?_) steady (fun other => ?_) (Nat.le_of_eq same.symm)
    (by rwa [← same] at begun)
  · have shown : Session system gen .up := sess
    exact (keeps_placed system _ _ _).session shown
  · rw [held]
    change some gen = some other ↔ update system.stage gen .up other = .up
    by_cases mine : other = gen
    · simp [mine]
    · rw [update_of_ne mine, ← sound.held other, before]
      simp [Ne.symm mine]

theorem Sound.advanceAttempt
    (quiet : system.stage gen = .bringUp .connect →
      ∀ dial ∈ system.dials, dial.progress.inFlight = false)
    (advanced : advanceAttempt policy system gen = some next) : Sound next := by
  unfold Client.advanceAttempt at advanced
  cases stands : system.stage gen <;> rw [stands] at advanced
  case starting =>
    cases advanced
    obtain ⟨steady, held⟩ := sound.steady.announce gen
    apply sound.idle steady held (Controller.gen_announce _ _)
    all_goals simp [stands, Stage.engaged, Stage.early]
  case dialing =>
    dsimp only at advanced
    have live : system.stage gen ≠ .finished := by simp [stands]
    have below : system.stage gen ≠ .up := by simp [stands]
    split_ifs at advanced with unbound
    · cases advanced
      rcases sound.slot with ⟨conn, helper, free⟩ | ⟨owner, port, _, _⟩
      · refine sound.advance rfl (fun _ => (sound.early gen (by rw [stands]; rfl)).placed _ _ _)
          (fun _ _ before => before.placed _ _ _) rfl (fun _ => id)
          (Slot.keep rfl (fun other held => ?_) rfl ⟨conn, helper⟩) rfl live below (by rintro ⟨⟩)
        rw [free other] at held
        cases held
      · rw [port] at unbound
        cases unbound
    · cases advanced
      apply sound.idle sound.steady rfl rfl live
      all_goals simp [stands, Stage.engaged, Stage.early]
  case bringUp step =>
    cases advanced
    exact sound.bringsUp stands fun first => quiet (by rw [stands, first])
  case installing =>
    cases installed : system.controller.install gen with
    | some =>
      rw [installed] at advanced
      cases advanced
      exact sound.install stands installed
    | none =>
      rw [installed] at advanced
      cases advanced
      obtain ⟨_, sess, _⟩ := sound.slot.owner stands rfl
      exact sound.step (spares_refl gen system) stands rfl (by rintro ⟨⟩) (by rintro ⟨⟩)
        (by rintro ⟨⟩)
        ⟨sess.1.conn, sess.1.helper⟩
  case up | finished => cases advanced
  case tearDown step =>
    cases advanced
    exact sound.tearsDown stands
  case aborting =>
    cases advanced
    split_ifs
    all_goals
      apply sound.idle sound.steady rfl rfl
      all_goals simp [stands, Stage.engaged, Stage.early]
  case clearing =>
    cases advanced
    have unheld : system.controller.held ≠ some gen := by
      intro held
      have up := (sound.held gen).mp held
      rw [stands] at up
      cases up
    obtain ⟨steady, held⟩ := sound.steady.abort unheld
    apply sound.idle steady held (Controller.gen_abort _ _)
    all_goals simp [stands, Stage.engaged, Stage.early]

omit sound

theorem sound_initial : Sound {} where
  steady := .ended 0 .disconnected
  held gen := by simp
  unborn gen _ := ⟨rfl, rfl, rfl, nofun, nofun⟩
  early gen young := by cases young
  reaps := nofun
  slot := .inl ⟨rfl, rfl, fun _ => rfl⟩

/-- Every step of the client that keeps the sessions apart keeps the invariant. -/
theorem Sound.client {label : SystemLabel} (sound : Sound system)
    (apart : separate system label)
    (moves : (enforcedClient policy).step system label = some next) : Sound next := by
  cases label <;> simp only [enforcedClient] at moves
  case connect =>
    obtain ⟨_, connected, rfl⟩ := Option.map_eq_some_iff.mp moves
    exact sound.connect connected
  case disconnect =>
    cases moves
    exact sound.disconnect
  case proceed gen =>
    refine sound.advanceAttempt (fun stands => ?_) moves
    simpa [separate, stands] using apart
  case fail gen =>
    split_ifs at moves with stands
    cases moves
    apply sound.idle sound.steady rfl rfl
    all_goals simp [stands, Stage.engaged, Stage.early]
  case event gen event =>
    cases moves
    obtain ⟨steady, held⟩ := sound.steady.onEvent gen event
    exact sound.control steady held (Nat.le_of_eq (Controller.gen_onEvent _ _ _).symm)
  case enter gen ips =>
    split_ifs at moves
    cases moves
    exact sound.enter gen ips
  case resume index =>
    cases found : system.dials[index]? with
    | none => simp [found] at moves
    | some dial =>
      rw [found] at moves
      cases moves
      refine sound.resume found fun ips entered => ?_
      obtain ⟨gen, _, _⟩ := dial
      subst entered
      simpa [separate, found, or_assoc] using apart
  case learn gen ip =>
    split_ifs at moves with learns
    cases moves
    exact sound.learn learns.1 learns.2
  case carve gen ip =>
    split_ifs at moves with learned
    cases moves
    exact sound.carve learned
  case permit gen ip =>
    split_ifs at moves
    cases moves
    exact sound.permit ip

/-- While the sessions are kept apart, the session the controller shows is in force, and one is
closed only when no other is being set up or is in force. -/
theorem shown_session_in_force {labels : List SystemLabel}
    (runs : (enforcedClient policy).Runs (fun system label => separate system label = true)
      labels system) :
    (system.controller.state = .protecting ∨ system.controller.state = .blocked →
      ∃ gen, system.controller.held = some gen ∧ InForce system gen) ∧
    ∀ gen step other, system.stage gen = .tearDown step → (system.stage other).engaged = true →
      other = gen := by
  have sound : Sound system := by
    refine runs.invariant ?_ fun holds met transition => holds.client met transition
    rintro _ rfl
    exact sound_initial
  constructor
  · intro shown
    obtain ⟨gen, held⟩ := Option.isSome_iff_exists.mp (sound.steady.holds.mpr shown)
    have up := (sound.held gen).mp held
    obtain ⟨_, ⟨built, tun, locked⟩, _⟩ := sound.slot.owner up rfl
    exact ⟨gen, held, built.conn, built.helper, locked, tun, built.routes⟩
  · intro gen step other closing engaged
    exact (sound.slot.owner closing rfl).2.2 other engaged

end

/-- The control plane is routed past the tunnel. -/
def controlPolicy : Gen → Policy := fun _ => { control := ["192.0.2.1"] }

/-- As many steps of one attempt. -/
def steps (count : Nat) (gen : Gen) : List SystemLabel := List.replicate count (.proceed gen)

/-- The user connects, and the first session comes up. -/
def firstSession : List SystemLabel := .connect :: steps 10 1

/-- A dial of the first engine is overtaken by the disconnect and by the second session, whose route
it takes for one of its own that came too late. -/
def lateReap : List SystemLabel :=
  firstSession ++ [.enter 1 ["203.0.113.7"], .resume 0, .disconnect] ++ steps 10 1 ++
    [.connect, .proceed 3, .enter 3 ["203.0.113.7"], .resume 1] ++ steps 9 3 ++
    [.resume 0, .resume 0, .resume 0]

/-- The second engine reserves its relay while the first session's excluder is in force, and the
first session's teardown takes the route away. -/
def strayReservation : List SystemLabel :=
  firstSession ++ [.disconnect, .connect, .proceed 3, .enter 3 ["203.0.113.7"]] ++
    List.replicate 4 (.resume 0) ++ steps 10 1 ++ steps 9 3

/-- The session shown as protected has lost the route to its own relay. -/
def LosesRoute (labels : List SystemLabel) : Prop :=
  ∃ final, (enforcedClient controlPolicy).Runs Machine.free labels final ∧
    final.controller.state = .protecting ∧ final.controller.held = some 3 ∧
    "203.0.113.7" ∈ final.setUp 3 ∧ "203.0.113.7" ∉ final.net.routes ∧ ¬InForce final 3

theorem losesRoute_of_follow {labels : List SystemLabel}
    (lost : ((enforcedClient controlPolicy).follow {} labels).any (fun final =>
      final.controller.state = .protecting ∧ final.controller.held = some 3 ∧
        "203.0.113.7" ∈ final.setUp 3 ∧ "203.0.113.7" ∉ final.net.routes)) :
    LosesRoute labels := by
  obtain ⟨final, runs, shown, held, requested, gone⟩ :=
    Machine.exists_runs rfl (Machine.meets_free _ _) lost
  exact ⟨final, runs, shown, held, requested, gone, fun inForce =>
    gone (inForce.routes _ requested)⟩

/-- What is left of an earlier session takes a route from the newer one. -/
theorem newer_session_loses_route : LosesRoute lateReap ∧ LosesRoute strayReservation :=
  ⟨losesRoute_of_follow (by decide +kernel), losesRoute_of_follow (by decide +kernel)⟩

/-- A session after another one that reserves its relay in time is in force. -/
theorem second_session_in_force :
    ∃ final, (enforcedClient controlPolicy).Runs
      (fun system label => separate system label = true)
      (firstSession ++ .disconnect :: steps 10 1 ++
        [.connect, .proceed 3, .enter 3 ["203.0.113.7"], .resume 0] ++ steps 9 3) final ∧
      ∃ gen, final.controller.held = some gen ∧ InForce final gen := by
  obtain ⟨final, runs, protecting⟩ : ∃ final, (enforcedClient controlPolicy).Runs
      (fun system label => separate system label)
      (firstSession ++ .disconnect :: steps 10 1 ++
        [.connect, .proceed 3, .enter 3 ["203.0.113.7"], .resume 0] ++ steps 9 3) final ∧
      final.controller.state = .protecting := by
    refine Machine.exists_runs rfl ?_ ?_ <;> decide +kernel
  exact ⟨final, runs, (shown_session_in_force runs).1 (.inl protecting)⟩

end Bacchus.Client
