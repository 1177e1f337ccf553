import Bacchus.Netd.Connections

/-!
# Who can end or change the open session

`clientGone` does not ask which connection opened the session it takes, and a handler keeps
running after its session has left the slot. In runs where neither reaches across sessions, every
step that changes the open session is its own client's.
-/

namespace Bacchus.Netd

open List Option

/-- The goroutine works on a session it was authorised for, or ends one. -/
def Phase.working : Phase → Bool
  | .handling .. | .tearingDown .. => true
  | _ => false

/-- The goroutine is inside `handleOpen` with the mutex held. -/
def Phase.isOpening : Phase → Bool
  | .opening .. => true
  | _ => false

/-- What every action of a handler or a teardown leaves alone. -/
structure Framed (before after : Helper) : Prop where
  sess : after.sess = before.sess
  mutex : after.mutex = before.mutex
  count : after.sessions.length = before.sessions.length
  token : ∀ id, (after.session id).token = (before.session id).token
  openedBy : ∀ id, (after.session id).openedBy = (before.session id).openedBy

theorem framed_restore (id : SessionId) (helper : Helper) (scope : Scope) :
    Framed helper (helper.restore id scope) := by
  have same : ∀ {α : Type} (field : Session → α),
      (∀ session : Session, field { session with toSessionState := scope.session } =
        field session) →
      ∀ other, field ((helper.restore id scope).session other) = field (helper.session other) := by
    intro α field kept other
    simp only [Helper.session, Helper.restore, getD_eq_getElem?_getD, getElem?_modify]
    cases helper.sessions[other]? with
    | none => rfl
    | some => by_cases here : id = other <;> simp [here, kept]
  exact
    { sess := rfl
      mutex := rfl
      count := by simp [Helper.restore]
      token := same Session.token fun _ => rfl
      openedBy := same Session.openedBy fun _ => rfl }

theorem framed_kernel (helper : Helper) (kernel : Kernel) :
    Framed helper { helper with kernel } :=
  ⟨rfl, rfl, rfl, fun _ => rfl, fun _ => rfl⟩

/-- Every action of the task keeps slot, mutex and the sessions' owners. -/
def Tame {α : Type} (task : Task Helper Answer α) : Prop :=
  task.EveryAction fun before _ after => Framed before after

theorem tame_on {α : Type} (work : Work α) (id : SessionId) : Tame (Work.on work id) :=
  Task.everyAction_zoom (fun helper _ scope => framed_restore id helper scope) work

theorem tame_reapForOpen : Tame reapForOpen :=
  Task.everyAction_zoom (fun helper _ scope => framed_kernel helper scope.kernel) reapOrphan

/-- What a phase promises about the helper it runs in. -/
def Phase.Fits (helper : Helper) (conn : ConnId) : Phase → Prop
  | .opening _ task => helper.mutex = some conn ∧ helper.sess = none ∧ Tame task
  | .handling _ req id task =>
    req.token = (helper.session id).token ∧ (helper.sess = none ∨ helper.sess = some id) ∧
      id < helper.sessions.length ∧ Tame task
  | .tearingDown _ task => helper.sess = none ∧ Tame task
  | _ => True

variable {conn : ConnId} {phase : Phase}

theorem Phase.Fits.framed {before after : Helper} (fits : phase.Fits before conn)
    (framed : Framed before after) : phase.Fits after conn := by
  cases phase with
  | opening => exact ⟨framed.mutex.trans fits.1, framed.sess.trans fits.2.1, fits.2.2⟩
  | handling uid req id =>
    obtain ⟨token, _, bound, tame⟩ := fits
    refine ⟨token.trans (framed.token id).symm, ?_, framed.count ▸ bound, tame⟩
    rwa [framed.sess]
  | tearingDown => exact ⟨framed.sess.trans fits.1, fits.2⟩
  | idle | dispatching | replying | leaving | closed => trivial

namespace Service

variable {service : Service} {conn : ConnId}

theorem phase_update_self (next : Helper × Phase) (live : conn < service.conns.length) :
    (service.update conn next).phase conn = next.2 := by
  simp [phase, update, live]

theorem phase_update_other {other : ConnId} (next : Helper × Phase) (different : other ≠ conn) :
    (service.update conn next).phase other = service.phase other := by
  simp [phase, update, getElem?_set_ne different.symm]

/-- Only an accepted connection is anywhere but closed. -/
theorem live_of_phase {phase : Phase} (found : service.phase conn = phase)
    (working : phase ≠ .closed) : conn < service.conns.length := by
  by_contra outside
  apply working
  rw [← found, Service.phase, getD_eq_getElem?_getD,
    getElem?_eq_none (Nat.le_of_not_lt outside), getD_none]

end Service

/-- The invariant of orderly runs: only the open session is being worked on, and none while a new
one is being opened. -/
structure Sound (service : Service) : Prop where
  fits : ∀ conn, (service.phase conn).Fits service.helper conn
  slot : ∀ id, service.helper.sess = some id → id < service.helper.sessions.length
  alone : ∀ conn other, (service.phase conn).isOpening →
    (service.phase other).working = false

variable {service : Service}

theorem Sound.update {next : Helper × Phase} (live : conn < service.conns.length)
    (self : next.2.Fits next.1 conn)
    (others : ∀ other, other ≠ conn → (service.phase other).Fits next.1 other)
    (slot : ∀ id, next.1.sess = some id → id < next.1.sessions.length)
    (alone : ∀ other, other ≠ conn →
      (next.2.isOpening → (service.phase other).working = false) ∧
      ((service.phase other).isOpening → next.2.working = false ∧
        ∀ third, third ≠ conn → (service.phase third).working = false)) :
    Sound (service.update conn next) where
  fits other := by
    by_cases here : other = conn
    · subst here
      rw [Service.phase_update_self next live]
      exact self
    · rw [Service.phase_update_other next here]
      exact others other here
  slot := slot
  alone first second isOpening := by
    by_cases here : first = conn
    · subst here
      rw [Service.phase_update_self next live] at isOpening
      by_cases same : second = first
      · subst same
        rw [Service.phase_update_self next live]
        cases phase : next.2 <;> simp_all [Phase.isOpening, Phase.working]
      · rw [Service.phase_update_other next same]
        exact (alone second same).1 isOpening
    · rw [Service.phase_update_other next here] at isOpening
      obtain ⟨_, othersIdle⟩ := (alone first here).2 isOpening
      by_cases same : second = conn
      · subst same
        rwa [Service.phase_update_self next live]
      · rw [Service.phase_update_other next same]
        exact othersIdle second same

variable {helper : Helper}

/-- A connection moves within a frame, into a phase that fits and neither opens nor starts to
work. -/
theorem Sound.frame (sound : Sound service) (live : conn < service.conns.length)
    (framed : Framed service.helper helper) (self : phase.Fits helper conn)
    (opens : phase.isOpening → (service.phase conn).isOpening)
    (works : phase.working → (service.phase conn).working) :
    Sound (service.update conn (helper, phase)) := by
  refine Sound.update live self (fun other _ => (sound.fits other).framed framed) ?_ ?_
  · intro id taken
    have bound := sound.slot id (framed.sess ▸ taken)
    rwa [← framed.count] at bound
  · intro other _
    refine ⟨fun isOpening => sound.alone conn other (opens isOpening), fun isOpening => ?_⟩
    refine ⟨?_, fun third _ => sound.alone other third isOpening⟩
    cases busy : phase.working with
    | false => rfl
    | true => exact absurd (works busy) (by simp [sound.alone other conn isOpening])

theorem Framed.refl (helper : Helper) : Framed helper helper :=
  ⟨rfl, rfl, rfl, fun _ => rfl, fun _ => rfl⟩

/-- The connection that ends opened the open session, if any. -/
def EndsOwn (service : Service) (conn : ConnId) : Prop :=
  ∀ id ∈ service.helper.sess, (service.helper.session id).openedBy = conn

/-- If the request opens a session, no other connection works for an earlier one. -/
def OpensAlone (service : Service) (conn : ConnId) (req : Request) : Prop :=
  Verb.parse req.verb = some .open → service.helper.sess = none →
    ∀ other < service.conns.length, other ≠ conn → (service.phase other).working = false

instance (service : Service) (conn : ConnId) : Decidable (EndsOwn service conn) :=
  inferInstanceAs (Decidable (∀ id ∈ service.helper.sess, _))

instance (service : Service) (conn : ConnId) (req : Request) :
    Decidable (OpensAlone service conn req) :=
  inferInstanceAs (Decidable (_ → _ → ∀ other < service.conns.length, _))

/-- No connection ends while another one's session is open, and none is opened while work for an
earlier one is running. -/
def Orderly (service : Service) : Label → Prop
  | .act conn _ =>
    match service.phase conn with
    | .leaving => EndsOwn service conn
    | .dispatching _ req => OpensAlone service conn req
    | _ => True
  | _ => True

instance (service : Service) : (label : Label) → Decidable (Orderly service label)
  | .act conn _ =>
      match found : service.phase conn with
      | .leaving => decidable_of_iff (EndsOwn service conn) (by simp only [Orderly, found])
      | .dispatching _ req =>
          decidable_of_iff (OpensAlone service conn req) (by simp only [Orderly, found])
      | .idle _ | .opening .. | .handling .. | .replying .. | .tearingDown .. | .closed =>
          isTrue (by simp only [Orderly, found])
  | .accept .. | .receive .. | .malformed .. | .hangup .. => isTrue trivial

/-- With the mutex free nobody is inside `handleOpen`. -/
theorem Sound.notOpening (sound : Sound service) (free : service.helper.mutex.isNone)
    (conn : ConnId) : (service.phase conn).isOpening = false := by
  have fits := sound.fits conn
  cases phase : service.phase conn with
  | opening =>
    rw [phase] at fits
    rw [fits.1] at free
    cases free
  | _ => rfl

/-- Emptying the slot disturbs nobody while the mutex is free. -/
theorem Sound.vacate (sound : Sound service) (live : conn < service.conns.length)
    (free : service.helper.mutex.isNone)
    (self : phase.Fits { service.helper with sess := none } conn)
    (closedDoor : phase.isOpening = false) :
    Sound (service.update conn ({ service.helper with sess := none }, phase)) := by
  refine Sound.update live self ?_ (by simp) ?_
  · intro other _
    have fits := sound.fits other
    cases found : service.phase other with
    | opening =>
      have shut := sound.notOpening free other
      rw [found] at shut
      cases shut
    | handling =>
      rw [found] at fits
      exact ⟨fits.1, .inl rfl, fits.2.2⟩
    | tearingDown =>
      rw [found] at fits
      exact ⟨rfl, fits.2⟩
    | idle | dispatching | replying | leaving | closed => trivial
  · intro other _
    simp [closedDoor, sound.notOpening free other]

variable {uid : UInt32} {req : Request}

theorem Sound.dispatch (sound : Sound service)
    (found : service.phase conn = .dispatching uid req)
    (free : service.helper.mutex.isNone) (alone : OpensAlone service conn req) :
    Sound (service.update conn (dispatch conn uid req service.helper)) := by
  have live : conn < service.conns.length := Service.live_of_phase found (by simp)
  have still : ∀ phase : Phase, phase.Fits service.helper conn → phase.isOpening = false →
      Sound (service.update conn (service.helper, phase)) := by
    intro phase fits closedDoor
    refine Sound.update live fits (fun other _ => sound.fits other) sound.slot fun other _ => ?_
    simp [closedDoor, sound.notOpening free other]
  unfold Netd.dispatch
  split
  · rename_i next reply taken
    obtain rfl := turn_answer taken
    exact still _ trivial rfl
  · rename_i next taken
    obtain ⟨rfl, empty, verb⟩ := turn_openNew taken
    refine Sound.update live ⟨rfl, empty, tame_reapForOpen⟩ ?_ (by simp [empty]) ?_
    · intro other _
      have fits := sound.fits other
      have shut := sound.notOpening free other
      cases phase : service.phase other with
      | opening =>
        rw [phase] at shut
        cases shut
      | handling | tearingDown =>
        rw [phase] at fits
        exact fits
      | idle | dispatching | replying | leaving | closed => trivial
    · intro other different
      refine ⟨fun _ => ?_, by simp [sound.notOpening free other]⟩
      by_cases inside : other < service.conns.length
      · exact alone verb empty other inside different
      · have closed : service.phase other = .closed := by
          simp [Service.phase, getElem?_eq_none (Nat.le_of_not_lt inside)]
        rw [closed]
        rfl
  · rename_i next id work taken
    obtain ⟨slot, token, ⟨rfl, _⟩ | ⟨rfl, _⟩⟩ := turn_work taken
    · exact still _ ⟨token, .inr slot, sound.slot id slot, tame_on _ _⟩ rfl
    · exact sound.vacate live free ⟨token, .inl rfl, sound.slot id slot, tame_on _ _⟩ rfl

theorem Sound.install {task : Task Helper Answer Unit} (sound : Sound service)
    (found : service.phase conn = .opening uid task) (answer : Answer) :
    Sound (service.update conn ((install conn uid service.helper answer).1,
      .replying uid (install conn uid service.helper answer).2)) := by
  have live : conn < service.conns.length := Service.live_of_phase found (by simp)
  have self := sound.fits conn
  rw [found] at self
  obtain ⟨mutex, _, _⟩ := self
  -- Nobody else is opening, since the mutex is held here, and nobody is working.
  have others : ∀ (helper : Helper) (other : ConnId), other ≠ conn →
      (service.phase other).Fits helper other := by
    intro helper other different
    have fits := sound.fits other
    have calm := sound.alone conn other (by rw [found]; rfl)
    cases phase : service.phase other with
    | opening =>
      rw [phase] at fits
      exact absurd (some.inj (fits.1.symm.trans mutex)) different
    | handling | tearingDown =>
      rw [phase] at calm
      cases calm
    | idle | dispatching | replying | leaving | closed => trivial
  have settled : ∀ other, other ≠ conn → (service.phase other).isOpening = false := by
    intro other different
    have fits := others service.helper other different
    cases phase : service.phase other with
    | opening =>
      rw [phase] at fits
      exact absurd (some.inj (fits.1.symm.trans mutex)) different
    | _ => rfl
  unfold Netd.install
  split
  · exact Sound.update live trivial (others _) sound.slot fun other different =>
      ⟨nofun, by simp [settled other different]⟩
  · exact Sound.update live trivial (others _) (by simp) fun other different =>
      ⟨nofun, by simp [settled other different]⟩

theorem Service.phase_crash (service : Service) (conn : ConnId) :
    service.crash.phase conn = .closed := by
  simp only [Service.phase, Service.crash, getD_eq_getElem?_getD, getElem?_map]
  cases service.conns[conn]? <;> rfl

theorem Sound.crash (service : Service) : Sound service.crash where
  fits conn := by
    rw [service.phase_crash conn]
    trivial
  slot := nofun
  alone conn other isOpening := by
    rw [service.phase_crash conn] at isOpening
    cases isOpening

theorem Sound.act {next : Service} {answer : Answer} (sound : Sound service)
    (orderly : Orderly service (.act conn answer))
    (moves : act service conn answer = some next) : Sound next := by
  have fits := sound.fits conn
  have still := Framed.refl service.helper
  have live : service.phase conn ≠ .closed → conn < service.conns.length :=
    Service.live_of_phase rfl
  unfold Netd.act at moves
  simp only [Orderly] at orderly
  cases found : service.phase conn with
  | idle | closed =>
    rw [found] at moves
    cases moves
  | dispatching =>
    rw [found] at moves orderly
    simp only [ite_none_right_eq_some, some.injEq] at moves
    obtain ⟨free, rfl⟩ := moves
    exact sound.dispatch found free orderly
  | opening uid task =>
    rw [found] at moves fits
    cases task with
    | done =>
      cases moves
      exact sound.install found answer
    | act =>
      simp only [advance, ite_none_right_eq_some, some.injEq] at moves
      obtain ⟨enabled, rfl⟩ := moves
      obtain ⟨mutex, empty, tame⟩ := fits
      have framed := tame.1 _ answer enabled
      exact sound.frame (live (by simp [found])) framed
        ⟨framed.mutex.trans mutex, framed.sess.trans empty, tame.2 _ _⟩
        (by simp [found, Phase.isOpening]) nofun
  | handling uid req id task =>
    rw [found] at moves fits
    cases task with
    | done outcome =>
      cases outcome with
      | reply =>
        cases moves
        exact sound.frame (live (by simp [found])) still trivial nofun nofun
      | panic =>
        cases moves
        exact .crash service
    | act ready effect rest =>
      simp only [advance, ite_none_right_eq_some, some.injEq] at moves
      obtain ⟨enabled, rfl⟩ := moves
      obtain ⟨token, slot, bound, tame⟩ := fits
      have framed := tame.1 _ answer enabled
      have continued : (Phase.handling uid req id (rest service.helper answer)).Fits
          service.helper conn := ⟨token, slot, bound, tame.2 _ _⟩
      exact sound.frame (live (by simp [found])) framed (continued.framed framed) nofun
        (by simp [found, Phase.working])
  | replying =>
    rw [found] at moves
    cases moves
    split <;> exact sound.frame (live (by simp [found])) still trivial nofun nofun
  | leaving =>
    rw [found] at moves
    simp only [ite_none_right_eq_some, some.injEq] at moves
    obtain ⟨free, rfl⟩ := moves
    unfold clientGone
    split
    · exact sound.frame (live (by simp [found])) still trivial nofun nofun
    · exact sound.vacate (live (by simp [found])) free ⟨rfl, tame_on _ _⟩ rfl
  | tearingDown id task =>
    rw [found] at moves fits
    cases task with
    | done =>
      cases moves
      exact sound.frame (live (by simp [found])) still trivial nofun nofun
    | act =>
      simp only [advance, ite_none_right_eq_some, some.injEq] at moves
      obtain ⟨enabled, rfl⟩ := moves
      have framed := fits.2.1 _ answer enabled
      exact sound.frame (live (by simp [found])) framed ⟨framed.sess.trans fits.1,
        fits.2.2 _ _⟩ nofun
        (by simp [found, Phase.working])

/-- Reading, hanging up and accepting only move the connection concerned. -/
theorem Sound.step {allowNoLogin : Bool} {service next : Service} {label : Label}
    (sound : Sound service) (orderly : Orderly service label)
    (moves : (netd allowNoLogin).step service label = some next) : Sound next := by
  have still := Framed.refl service.helper
  cases label with
  | accept =>
    cases moves
    -- The new connection is idle or closed; the others keep their numbers.
    have phases : ∀ (phase : Phase) (conn : ConnId),
        Service.phase { service with conns := service.conns ++ [phase] } conn =
          if conn = service.conns.length then phase else service.phase conn := by
      intro phase conn
      simp only [Service.phase, getD_eq_getElem?_getD]
      rcases Nat.lt_trichotomy conn service.conns.length with inside | rfl | outside
      · rw [getElem?_append_left inside, if_neg (Nat.ne_of_lt inside)]
      · simp
      · rw [if_neg (Nat.ne_of_gt outside), getElem?_eq_none (by simp; omega),
          getElem?_eq_none (by omega)]
    have quiet : ∀ phase : Phase, phase.isOpening = false → phase.working = false →
        (∀ conn, phase.Fits service.helper conn) →
        Sound { service with conns := service.conns ++ [phase] } := by
      intro phase closedDoor rests fits
      refine ⟨fun conn => ?_, sound.slot, fun conn other isOpening => ?_⟩
      · rw [phases]
        split
        · exact fits conn
        · exact sound.fits conn
      · rw [phases] at isOpening ⊢
        split at isOpening
        · simp [closedDoor] at isOpening
        · split
          · exact rests
          · exact sound.alone conn other isOpening
    split <;> exact quiet _ rfl rfl fun _ => trivial
  | malformed =>
    simp only [netd] at moves
    split at moves
    · cases moves
      exact sound
    · cases moves
  | receive conn | hangup conn =>
    simp only [netd] at moves
    split at moves
    · rename_i uid found
      cases moves
      exact sound.frame (Service.live_of_phase found (by simp)) still trivial (by rintro ⟨⟩)
        (by rintro ⟨⟩)
    · cases moves
  | act => exact sound.act orderly moves

theorem sound_of_runs {allowNoLogin : Bool} {labels : List Label}
    (runs : (netd allowNoLogin).Runs Orderly labels service) : Sound service := by
  refine runs.invariant ?_ fun sound orderly moves => sound.step orderly moves
  rintro start ⟨conns, sessions, sess, mutex⟩
  have closed : ∀ conn, start.phase conn = .closed := by
    simp [Service.phase, conns]
  refine ⟨fun conn => ?_, fun id taken => ?_, fun conn other isOpening => ?_⟩
  · rw [closed]
    trivial
  · rw [sess] at taken
    cases taken
  · rw [closed] at isOpening
    cases isOpening

/-- The session with its token, and lockdown, routes, DNS capture and carve-out, are as they
were. -/
structure SameSession (id : SessionId) (before after : Helper) : Prop where
  sess : after.sess = before.sess
  record : after.sessions[id]? = before.sessions[id]?
  kernel : after.kernel = before.kernel

theorem SameSession.refl (id : SessionId) (helper : Helper) : SameSession id helper helper :=
  ⟨rfl, rfl, rfl⟩

/-- The connection is on a request that carries the session's token. -/
def ByToken (service : Service) (id : SessionId) (conn : ConnId) : Prop :=
  match service.phase conn with
  | .dispatching _ req | .handling _ req _ _ =>
    req.token = (service.helper.session id).token
  | _ => False

/-- The connection is at its end, and opened the session. -/
def ByOpenerEnd (service : Service) (id : SessionId) (conn : ConnId) : Prop :=
  match service.phase conn with
  | .leaving | .tearingDown .. => (service.helper.session id).openedBy = conn
  | _ => False

/-- The step belongs to the client of session `id`. -/
def ByItsClient (service : Service) (id : SessionId) (label : Label) : Prop :=
  ∃ conn answer, label = .act conn answer ∧ (ByToken service id conn ∨ ByOpenerEnd service id conn)

/-- The first mutex section leaves an open session alone, unless the request carries its token. -/
theorem dispatch_same_or_token {id : SessionId} (isOpen : helper.sess = some id) :
    SameSession id helper (dispatch conn uid req helper).1 ∨
      req.token = (helper.session id).token := by
  unfold dispatch
  split
  · rename_i next reply taken
    obtain rfl := turn_answer taken
    exact .inl (.refl id _)
  · rename_i next taken
    obtain ⟨_, empty, _⟩ := turn_openNew taken
    rw [isOpen] at empty
    cases empty
  · rename_i next worked work taken
    obtain ⟨slot, token, _⟩ := turn_work taken
    obtain rfl : id = worked := some.inj (isOpen.symm.trans slot)
    exact .inr token

/-- In every run in which no connection ends while another's session is open and no session is
opened while work for an earlier one is running, a step that ends or changes the open session is a
request with its token, or the end of the connection that opened it. -/
theorem session_changed_only_by_its_client {allowNoLogin : Bool} {labels : List Label}
    {before after : Service} {label : Label} {id : SessionId}
    (runs : (netd allowNoLogin).Runs Orderly labels before) (orderly : Orderly before label)
    (transition : (netd allowNoLogin).step before label = some after)
    (isOpen : before.helper.sess = some id)
    (changed : ¬ SameSession id before.helper after.helper) : ByItsClient before id label := by
  have sound := sound_of_runs runs
  cases label with
  | accept =>
    cases transition
    exact absurd (.refl id _) changed
  | receive | malformed | hangup =>
    simp only [netd] at transition
    split at transition <;> cases transition
    exact absurd (.refl id _) changed
  | act conn answer =>
    refine ⟨conn, answer, rfl, ?_⟩
    have fits := sound.fits conn
    simp only [netd, act] at transition
    simp only [Orderly] at orderly
    unfold ByToken ByOpenerEnd
    cases found : before.phase conn <;> rw [found] at transition
    case idle | closed => cases transition
    case dispatching uid req =>
      simp only [ite_none_right_eq_some, some.injEq] at transition
      obtain ⟨_, rfl⟩ := transition
      exact .inl ((dispatch_same_or_token isOpen).resolve_left changed)
    case opening uid task =>
      -- The slot is empty while a session is being opened.
      rw [found] at fits
      rw [fits.2.1] at isOpen
      cases isOpen
    case handling uid req worked task =>
      rw [found] at fits
      obtain ⟨token, slot, _⟩ := fits
      rw [isOpen] at slot
      obtain same : id = worked := by simpa using slot
      subst same
      exact .inl token
    case replying uid reply =>
      cases transition
      exact absurd (.refl id _) changed
    case leaving =>
      rw [found] at orderly
      exact .inr (orderly id isOpen)
    case tearingDown worked task =>
      rw [found] at fits
      rw [fits.1] at isOpen
      cases isOpen

/-- The helper before any connection, on a machine without a lockdown. -/
def Service.fresh : Service := ⟨{}, []⟩

/-- A connection runs its next actions, all of which succeed. -/
def acts (conn : ConnId) (count : Nat) : List Label := List.replicate count (.act conn {})

/-- A well-formed request with a token. -/
def verbWith (verb : Verb) (token : String) : Request where
  version := protocolVersion
  verb := verb.name
  token := token

/-- A connection is accepted, opens a session and gets the token. -/
def openingLabels (conn : ConnId) (token : String) : List Label :=
  [.accept 1000 (.ok true), .receive conn (verbWith .open "")] ++ acts conn 8 ++
    [.act conn { token }] ++ acts conn 1

/-- The session of connection 0 creates its device and arms. -/
def armingLabels (token : String) : List Label :=
  [.receive 0 (verbWith .createTUN token), .act 0 {}, .act 0 { index := 7 }] ++ acts 0 3 ++
    [.receive 0 (verbWith .enableKillSwitch token)] ++ acts 0 10

/-- The owner arms; a second connection sends nothing and hangs up. -/
def strangerRun : List Label :=
  openingLabels 0 "t" ++ armingLabels "t" ++ [.accept 1001 (.ok true), .hangup 1]

def Service.withStranger : Service := ((netd false).follow .fresh strangerRun).get rfl

theorem runs_withStranger : (netd false).Runs Machine.free strangerRun .withStranger :=
  have valid : (netd false).initial .fresh := ⟨rfl, rfl, rfl, rfl⟩
  .ofFollow valid rfl (Machine.meets_free _ _)

/-- A connection that never sent a byte hangs up: the armed session of another ends, and the next
`open` lifts its kill-switch. -/
theorem stranger_ends_armed_session :
    ∃ labels before label after lifted,
      (netd false).Runs Machine.free labels before ∧ (netd false).step before label = some after ∧
        before.helper.sess = some 0 ∧ before.helper.kernel.table.isSome = true ∧
        ¬ SameSession 0 before.helper after.helper ∧ ¬ ByItsClient before 0 label ∧
        (netd false).follow after
          (acts 1 4 ++ [.accept 1002 (.ok true), .receive 2 (verbWith .open "")] ++ acts 2 4) =
            some lifted ∧ lifted.helper.kernel.table.isSome = false := by
  refine ⟨_, .withStranger, .act 1 {}, _, _, runs_withStranger, rfl, rfl, rfl, ?_, ?_, rfl, rfl⟩
  · rintro ⟨sess, _, _⟩
    cases sess
  · rintro ⟨conn, answer, same, mine⟩
    cases same
    rcases mine with byToken | byEnd
    · exact byToken
    · cases byEnd

/-- The owner arms and asks to close. -/
def closingRun : List Label :=
  openingLabels 0 "t" ++ armingLabels "t" ++ [.receive 0 (verbWith .close "t")]

def Service.closing : Service := ((netd false).follow .fresh closingRun).get rfl

/-- The owner's own `close` ends its session in an orderly run. -/
theorem own_close_ends_session :
    ∃ after, (netd false).Runs Orderly closingRun .closing ∧ Orderly .closing (.act 0 {}) ∧
      (netd false).step .closing (.act 0 {}) = some after ∧ Service.closing.helper.sess = some 0 ∧
      ¬ SameSession 0 Service.closing.helper after.helper ∧ ByItsClient .closing 0 (.act 0 {}) := by
  have valid : (netd false).initial .fresh := ⟨rfl, rfl, rfl, rfl⟩
  have met : (netd false).Meets Orderly .fresh closingRun := by decide
  have runs : (netd false).Runs Orderly closingRun .closing := .ofFollow valid rfl met
  have orderly : Orderly .closing (.act 0 {}) := by decide
  have changed : ¬ SameSession 0 Service.closing.helper
      (dispatch 0 1000 (verbWith .close "t") Service.closing.helper).1 := by
    rintro ⟨sess, _, _⟩
    cases sess
  exact ⟨_, runs, orderly, rfl, rfl, changed,
    session_changed_only_by_its_client runs orderly rfl rfl changed⟩

end Bacchus.Netd
