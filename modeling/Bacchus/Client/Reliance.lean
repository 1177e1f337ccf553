import Bacchus.Client.Carving

/-!
# What a caller may rely on

A call that returns has recorded its addresses, or found them recorded by another call that may
still have to ask for them. The allowlist is another matter: once the arming is over and the
calls have returned, every address is in it.
-/

namespace Bacchus.Tunnel

open Client (Address Excluder Reserve)
open List Machine

variable {cfg : Config} {state next : State}

/-- The addresses its next action records or finds recorded. -/
def Call.records : Call → List Address
  | .reserve _ (.entered resolved) => resolved
  | .observe _ rest .between => rest.take 1
  | _ => []

/-- What it has still to ask for. -/
def Call.pending (call : Call) : List Address := call.installing ++ call.permitting

/-- Where addresses of its kind are recorded. -/
def State.listed (state : State) (call : Call) : List Address :=
  match call.reserves with
  | true => state.excluder.seen
  | false => state.policy.dynamic

/-- The call is about its own addresses only. -/
structure Call.Proper (call : Call) : Prop where
  entered : ∀ ips resolved, call = .reserve ips (.entered resolved) → resolved = ips
  pending : ∀ ip ∈ call.pending, ip ∈ call.recorded

/-- It is a reservation that has not taken its section yet. -/
def Call.entering : Call → Bool
  | .reserve _ (.entered _) => true
  | _ => false

variable {call : Call}

theorem proper_entered (entered : call.entering = false) :
    ∀ ips resolved, call = .reserve ips (.entered resolved) → resolved = ips := by
  rintro ips resolved rfl
  cases entered

theorem proper_reserve (ips : List Address) : (Call.reserve ips (.entered ips)).Proper := by
  refine ⟨?_, fun _ member => absurd member not_mem_nil⟩
  rintro others resolved same
  cases same
  rfl

theorem proper_observe (ips : List Address) : (Call.observe [] ips .between).Proper :=
  ⟨proper_entered rfl, fun _ member => absurd member not_mem_nil⟩

theorem pending_continue (ips rest : List Address) (armed : Bool) :
    ∀ ip ∈ (Call.reserve ips (.continue armed rest)).pending, ip ∈ rest := by
  intro ip member
  rw [Call.pending, installing_continue, permitting_continue] at member
  rcases mem_append.mp member with installing | permitting
  · exact installing
  · cases armed with
    | true => exact permitting
    | false => cases permitting

theorem recorded_subset_ips (call : Call) : ∀ ip ∈ call.recorded, ip ∈ call.ips := by
  cases call with
  | reserve ips progress =>
    cases progress with
    | entered => nofun
    | _ => exact fun ip => id
  | observe handled rest => exact fun ip => mem_append_left rest

/-- A call that has returned has recorded everything it is about. -/
theorem recorded_of_returned (returned : call.returned) :
    call.recorded = call.ips ∧ call.pending = [] := by
  cases call with
  | reserve ips progress =>
    cases progress with
    | returned => exact ⟨rfl, rfl⟩
    | _ => cases returned
  | observe handled rest progress =>
    cases rest with
    | nil =>
      cases progress with
      | between => exact ⟨(append_nil handled).symm, rfl⟩
      | _ => cases returned
    | cons => cases progress <;> cases returned

/-- What an action of a call does to its addresses and to the lists. -/
structure Advanced (state next : State) (call after : Call) : Prop where
  proper : after.Proper
  recorded : ∀ ip, ip ∈ after.recorded ↔ ip ∈ call.recorded ∨ ip ∈ call.records
  /-- What is new to the list is the call's to ask for. -/
  pending : ∀ ip ∈ after.pending, ip ∈ call.pending ∨ ip ∈ call.records ∧ ip ∉ state.listed call
  listed : ∀ ip ∈ call.records, ip ∈ next.listed call
  grows : ∀ other, ∀ ip ∈ state.listed other, ip ∈ next.listed other

/-- An action that records nothing and gives the call nothing to ask for. -/
theorem Advanced.goes {after : Call} (proper : call.Proper) (entered : after.entering = false)
    (recorded : after.recorded = call.recorded) (records : call.records = [])
    (pending : ∀ ip ∈ after.pending, ip ∈ call.pending)
    (listed : ∀ other, next.listed other = state.listed other) :
    Advanced state next call after := by
  refine ⟨⟨proper_entered entered, fun ip member => ?_⟩, fun ip => ?_,
    fun ip member => .inl (pending ip member), ?_, fun other ip member => ?_⟩
  · rw [recorded]
    exact proper.pending ip (pending ip member)
  · rw [recorded, records]
    exact (or_iff_left not_mem_nil).symm
  · rw [records]
    nofun
  · rw [listed]
    exact member

theorem entering_continue (ips rest : List Address) (armed : Bool) :
    (Call.reserve ips (.continue armed rest)).entering = false := by
  cases rest <;> rfl

theorem advanced_reserve {ips : List Address} {progress : Reserve}
    (proper : (Call.reserve ips progress).Proper) :
    Advanced state (state.reserve progress).1 (.reserve ips progress)
      (.reserve ips (state.reserve progress).2) := by
  cases progress with
  | entered resolved =>
    obtain rfl := proper.entered ips resolved rfl
    have pending : ∀ ip ∈ (Call.reserve resolved (state.reserve (.entered resolved)).2).pending,
        ip ∈ state.excluder.fresh resolved := by
      simp only [State.reserve]
      split_ifs
      · exact pending_continue _ _ _
      · exact fun ip member => absurd member not_mem_nil
    have recorded :
        (Call.reserve resolved (state.reserve (.entered resolved)).2).recorded = resolved := by
      simp only [State.reserve]
      split_ifs
      · exact recorded_continue _ _ _
      · rfl
    have fresh : ∀ ip, ip ∈ state.excluder.fresh resolved ↔
        ip ∈ resolved ∧ ip ∉ state.excluder.seen := by
      simp [Excluder.fresh]
    refine ⟨⟨?_, fun ip member => ?_⟩, fun ip => ?_, fun ip member => ?_, fun ip member => ?_,
      fun other ip member => ?_⟩
    · refine proper_entered ?_
      simp only [State.reserve]
      split_ifs
      · exact entering_continue _ _ _
      · rfl
    · rw [recorded]
      exact ((fresh ip).mp (pending ip member)).1
    · rw [recorded]
      exact (or_iff_right not_mem_nil).symm
    · exact .inr ((fresh ip).mp (pending ip member))
    · by_cases known : ip ∈ state.excluder.seen
      · exact mem_append_left _ known
      · exact mem_append_right _ ((fresh ip).mpr ⟨member, known⟩)
    · cases other with
      | reserve => exact mem_append_left _ member
      | observe => exact member
  | excluding ip =>
    refine .goes proper rfl rfl rfl (fun other member => ?_) fun other => by cases other <;> rfl
    exact mem_append.mpr ((mem_append.mp member).imp_left (mem_cons_of_mem ip))
  | judging ip rest armed =>
    simp only [State.reserve]
    split_ifs with closed switched
    · refine .goes proper rfl rfl rfl (fun other member => ?_) fun other => rfl
      refine mem_append.mpr ((mem_append.mp member).imp_right fun permitting => ?_)
      cases armed with
      | true => exact mem_cons_of_mem ip permitting
      | false => exact permitting
    · subst switched
      exact .goes proper rfl rfl rfl (fun other => id) fun other => rfl
    · exact .goes proper (entering_continue _ _ _) (recorded_continue _ _ _) rfl
        (fun other member => mem_append_left _ (pending_continue _ _ _ other member))
        fun other => rfl
  | reaping ip rest armed | allowing ip rest armed =>
    exact .goes proper (entering_continue _ _ _) (recorded_continue _ _ _) rfl
      (fun other member => mem_append_left _ (pending_continue _ _ _ other member))
      fun other => by cases other <;> rfl
  | returned => exact .goes proper rfl rfl rfl (fun ip => id) fun other => rfl

theorem advanced_observe {handled rest : List Address} {progress : Observe}
    (proper : (Call.observe handled rest progress).Proper) :
    Advanced state (state.observe cfg handled rest progress).1 (.observe handled rest progress)
      (state.observe cfg handled rest progress).2 := by
  cases progress with
  | between =>
    cases rest with
    | nil => exact .goes proper rfl rfl rfl (fun ip => id) fun other => rfl
    | cons ip rest =>
      simp only [State.observe]
      split_ifs with known
      · have idle : ∀ other ∈ (Call.observe (handled ++ [ip]) rest .between).pending,
            False := fun other => not_mem_nil
        refine ⟨⟨proper_entered rfl, fun other member => (idle other member).elim⟩,
          fun other => mem_append, fun other member => (idle other member).elim,
          fun other member => ?_, fun _ other => id⟩
        rw [mem_singleton.mp member]
        exact known
      · have pending : ∀ other, other ∈ (Call.observe (handled ++ [ip]) rest
            (.carving ip state.policy.armed)).pending → other = ip := by
          cases armed : state.policy.armed <;> simp_all [Call.pending, Call.installing,
            Call.permitting]
        refine ⟨⟨proper_entered rfl, fun other member => ?_⟩, fun other => mem_append,
          fun other member => .inr ?_, fun other => mem_append_right _,
          fun call other member => ?_⟩
        · rw [pending other member]
          exact mem_append_right _ (mem_singleton_self ip)
        · rw [pending other member]
          exact ⟨mem_singleton_self ip, known⟩
        · cases call with
          | reserve => exact member
          | observe => exact mem_append_left _ member
  | carving ip =>
    have listed : ∀ other, (state.carve cfg ip).listed other = state.listed other := by
      intro other
      cases other <;> simp only [State.carve] <;> split <;> rfl
    simp only [State.observe]
    split_ifs with switched
    · refine .goes proper rfl rfl rfl (fun other member => ?_) listed
      exact mem_append_left _ member
    · exact .goes proper rfl rfl rfl (fun other member => absurd member not_mem_nil) listed
  | allowing =>
    exact .goes proper rfl rfl rfl (fun other member => absurd member not_mem_nil)
      fun other => by cases other <;> rfl

/-- What one action of a call does. -/
theorem advanced (cfg : Config) (state : State) (proper : call.Proper) :
    Advanced state (state.advance cfg call).1 call (state.advance cfg call).2 := by
  cases call with
  | reserve => exact advanced_reserve proper
  | observe => exact advanced_observe proper

/-- Every call is about its own addresses, and what it has recorded is listed. -/
structure Kept (state : State) : Prop where
  proper : ∀ call ∈ state.calls, call.Proper
  listed : ∀ call ∈ state.calls, ∀ ip ∈ call.recorded, ip ∈ state.listed call

/-- The session's goroutine leaves the calls alone, and only adds to the lists. -/
structure Beside (state next : State) : Prop where
  calls : next.calls = state.calls
  seen : next.excluder.seen = state.excluder.seen
  dynamic : ∀ ip ∈ state.policy.dynamic, ip ∈ next.policy.dynamic

theorem Beside.attempt (state : State) (call : OsCall) (outcome : Outcome) (main : Main)
    (deferred : List Undo) : Beside state (state.attempt call outcome main deferred) := by
  cases outcome <;> exact ⟨rfl, rfl, fun ip => id⟩

/-- A step of the bring-up leaves the calls alone. -/
theorem Beside.bringUp (deferred : List Undo) (outcome : Outcome) (pc : BringUp) :
    Beside state (state.bringUp cfg deferred outcome pc) := by
  cases pc with
  | gateway | createTUN | configure | captureDNS => exact .attempt state _ outcome _ deferred
  | startNetstack => cases outcome <;> exact ⟨rfl, rfl, fun ip => id⟩
  | excludeControl | goLive | disableIPv6 => exact ⟨rfl, rfl, fun ip => id⟩
  | excludeBypass =>
    have seeded : ∀ ip ∈ state.policy.dynamic,
        ip ∈ (state.policy.dynamic ++ cfg.resolved).dedup :=
      fun ip known => mem_dedup.mpr (mem_append_left _ known)
    simp only [State.bringUp]
    split <;> exact ⟨rfl, rfl, seeded⟩
  | capture =>
    simp only [State.bringUp]
    split
    · exact ⟨rfl, rfl, fun ip => id⟩
    · exact .attempt state _ outcome _ deferred
  | serve =>
    simp only [State.bringUp]
    split_ifs
    · exact .attempt state _ outcome _ deferred
    · exact ⟨rfl, rfl, fun ip => id⟩
  | arm =>
    simp only [State.bringUp]
    split_ifs
    · exact ⟨rfl, rfl, fun ip => id⟩
    · cases outcome <;> exact ⟨rfl, rfl, fun ip => id⟩

/-- A step of the session leaves the calls alone. -/
theorem Beside.proceed {outcome : Outcome} (moves : state.proceed cfg outcome = some next) :
    Beside state next := by
  unfold State.proceed at moves
  split at moves
  · cases moves
    exact .bringUp _ outcome _
  · cases moves
    exact ⟨rfl, rfl, fun ip => id⟩
  · rename_i first rest _
    cases moves
    cases first <;> exact ⟨rfl, rfl, fun ip => id⟩
  · rename_i pc _
    cases moves
    cases pc with
    | revoke | disarm =>
      simp only [State.close]
      split_ifs <;> exact ⟨rfl, rfl, fun ip => id⟩
    | _ => exact ⟨rfl, rfl, fun ip => id⟩
  · cases moves
  · cases moves
  · cases moves

theorem Beside.listed (beside : Beside state next) (call : Call) :
    ∀ ip ∈ state.listed call, ip ∈ next.listed call := by
  unfold State.listed
  cases call.reserves with
  | true =>
    rw [beside.seen]
    exact fun ip => id
  | false => exact beside.dynamic

/-- A step is the goroutine's, a call's that enters, or one's in flight. -/
theorem step_cases {label : Label} (moves : (tunnel cfg).step state label = some next) :
    Beside state next ∨
      (∃ call, next = { state with calls := state.calls ++ [call] } ∧ call.Proper ∧
        call.recorded = [] ∧ call.pending = []) ∨
      ∃ index call, label = .resume index ∧ state.calls[index]? = some call ∧
        next = { (state.advance cfg call).1 with
          calls := state.calls.set index (state.advance cfg call).2 } := by
  cases label with
  | proceed => exact .inl (.proceed moves)
  | close =>
    simp only [tunnel] at moves
    split_ifs at moves
    cases moves
    exact .inl ⟨rfl, rfl, fun ip => id⟩
  | reserve ips =>
    cases moves
    exact .inr (.inl ⟨_, rfl, proper_reserve ips, rfl, rfl⟩)
  | observe ips =>
    simp only [tunnel] at moves
    split_ifs at moves
    cases moves
    exact .inr (.inl ⟨_, rfl, proper_observe ips, rfl, rfl⟩)
  | resume index =>
    obtain ⟨call, found, same⟩ := step_resume moves
    exact .inr (.inr ⟨index, call, rfl, found, same⟩)

/-- Every step keeps what the callers rely on. -/
theorem Kept.step {label : Label} (kept : Kept state)
    (moves : (tunnel cfg).step state label = some next) : Kept next := by
  rcases step_cases moves with beside | ⟨call, rfl, proper, recorded, _⟩ |
    ⟨index, call, _, found, rfl⟩
  · refine ⟨?_, ?_⟩
    · rw [beside.calls]
      exact kept.proper
    · rw [beside.calls]
      exact fun call member ip known => beside.listed call ip (kept.listed call member ip known)
  · refine ⟨fun other member => ?_, fun other member ip known => ?_⟩
    · rcases mem_append.mp member with earlier | last
      · exact kept.proper other earlier
      · rw [mem_singleton.mp last]
        exact proper
    · rcases mem_append.mp member with earlier | last
      · exact kept.listed other earlier ip known
      · rw [mem_singleton.mp last, recorded] at known
        cases known
  · have member := mem_of_getElem? found
    have advanced := advanced cfg state (kept.proper call member)
    refine ⟨Threads.forall_set kept.proper advanced.proper, Threads.forall_set
      (fun other member ip known => advanced.grows other ip (kept.listed other member ip known))
      fun ip known => ?_⟩
    have same : (state.advance cfg call).1.listed (state.advance cfg call).2 =
        (state.advance cfg call).1.listed call := by
      unfold State.listed
      rw [(frame_advance cfg state call).2.2.2]
    change ip ∈ (state.advance cfg call).1.listed (state.advance cfg call).2
    rw [same]
    rcases (advanced.recorded ip).mp known with before | now
    · exact advanced.grows call ip (kept.listed call member ip before)
    · exact advanced.listed ip now

/-- No call has found an address that another of its kind has still to ask for. -/
def Apart (state : State) : Prop :=
  ∀ (pos place : Nat) (asking found : Call), state.calls[pos]? = some asking →
    state.calls[place]? = some found → pos ≠ place → asking.reserves = found.reserves →
    ∀ ip ∈ asking.pending, ip ∉ found.recorded

/-- Whoever is about to record an address finds no other call with it. -/
def undisturbed (state : State) : Label → Bool
  | .resume index =>
    state.calls[index]?.all fun call =>
      state.calls.all fun other => other.reserves != call.reserves ||
        call.records.all fun ip => ip ∉ other.pending
  | _ => true

theorem undisturbed_resume {index : Nat} {other : Call} {ip : Address}
    (met : undisturbed state (.resume index)) (found : state.calls[index]? = some call)
    (member : other ∈ state.calls) (kind : other.reserves = call.reserves)
    (records : ip ∈ call.records) : ip ∉ other.pending := by
  simp only [undisturbed, found, Option.all_some, all_eq_true] at met
  have clear := met other member
  rw [kind, bne_self_eq_false, Bool.false_or, all_eq_true] at clear
  exact of_decide_eq_true (clear ip records)

theorem Apart.enters (apart : Apart state) (recorded : call.recorded = [])
    (pending : call.pending = []) : Apart { state with calls := state.calls ++ [call] } := by
  have earlier : ∀ {pos : Nat} {asking : Call},
      (state.calls ++ [call])[pos]? = some asking →
      state.calls[pos]? = some asking ∨ asking = call := by
    intro pos asking known
    by_cases inside : pos < state.calls.length
    · rw [getElem?_append_left inside] at known
      exact .inl known
    · rw [getElem?_append_right (Nat.le_of_not_lt inside)] at known
      exact .inr (mem_singleton.mp (mem_of_getElem? known))
  intro pos place asking found atPosition atPlace distinct kind ip asks finds
  rcases earlier atPosition with asking | rfl
  · rcases earlier atPlace with found | rfl
    · exact apart pos place _ _ asking found distinct kind ip asks finds
    · rw [recorded] at finds
      cases finds
  · rw [pending] at asks
    cases asks

theorem Apart.resumes {index : Nat} (apart : Apart state) (kept : Kept state)
    (met : undisturbed state (.resume index)) (found : state.calls[index]? = some call) :
    Apart { (state.advance cfg call).1 with
      calls := state.calls.set index (state.advance cfg call).2 } := by
  have advanced := advanced cfg state (kept.proper call (mem_of_getElem? found))
  have inside : index < state.calls.length := (List.getElem?_eq_some_iff.mp found).1
  have same := (frame_advance cfg state call).2.2.2
  intro pos place asking finding atPosition atPlace distinct kind ip asks finds
  by_cases here : index = pos
  · subst here
    rw [getElem?_set_self inside] at atPosition
    cases atPosition
    rw [getElem?_set_ne distinct] at atPlace
    rw [same] at kind
    rcases advanced.pending ip asks with before | ⟨_, unlisted⟩
    · exact apart index place _ _ found atPlace distinct kind ip before finds
    · refine unlisted ?_
      have listed := kept.listed finding (mem_of_getElem? atPlace) ip finds
      unfold State.listed at listed ⊢
      rwa [kind]
  · rw [getElem?_set_ne here] at atPosition
    by_cases there : index = place
    · subst there
      rw [getElem?_set_self inside] at atPlace
      cases atPlace
      rw [same] at kind
      rcases (advanced.recorded ip).mp finds with before | now
      · exact apart pos index _ _ atPosition found distinct kind ip asks before
      · exact undisturbed_resume met found (mem_of_getElem? atPosition) kind now asks
    · rw [getElem?_set_ne there] at atPlace
      exact apart pos place _ _ atPosition atPlace distinct kind ip asks finds

theorem Apart.step {label : Label} (apart : Apart state) (kept : Kept state)
    (met : undisturbed state label)
    (moves : (tunnel cfg).step state label = some next) : Apart next := by
  rcases step_cases moves with beside | ⟨call, rfl, _, recorded, pending⟩ |
    ⟨index, call, rfl, found, rfl⟩
  · unfold Apart
    rw [beside.calls]
    exact apart
  · exact apart.enters recorded pending
  · exact apart.resumes kept met found

variable {labels : List Label}

theorem kept_of_runs {guard : State → Label → Prop} (runs : (tunnel cfg).Runs guard labels state) :
    Kept state := by
  refine runs.invariant (fun start => ?_) fun kept _ moves => kept.step moves
  obtain ⟨_, rfl⟩ := start
  exact ⟨nofun, nofun⟩

/-- What holds while nobody finds what another call has still to ask for. -/
structure KeptApart (state : State) : Prop where
  kept : Kept state
  apart : Apart state

theorem apart_of_runs
    (runs : (tunnel cfg).Runs (fun state label => undisturbed state label) labels state) :
    KeptApart state := by
  refine runs.invariant (fun start => ?_) fun both met moves =>
    ⟨both.kept.step moves, both.apart.step both.kept met moves⟩
  obtain ⟨_, rfl⟩ := start
  exact ⟨⟨nofun, nofun⟩, fun pos place asking found atPosition => by cases atPosition⟩

/-- Nobody has anything pending about the addresses of a call that has returned. -/
theorem KeptApart.settled (both : KeptApart state) (member : call ∈ state.calls)
    (returned : call.returned) {ip : Address} (about : ip ∈ call.ips) :
    ∀ other ∈ state.calls, other.reserves = call.reserves → ip ∉ other.pending := by
  obtain ⟨recorded, idle⟩ := recorded_of_returned returned
  intro other present kind pending
  obtain ⟨place, atPlace⟩ := mem_iff_getElem?.mp member
  obtain ⟨pos, atPosition⟩ := mem_iff_getElem?.mp present
  by_cases same : pos = place
  · subst same
    obtain rfl : other = call := Option.some.inj (atPosition.symm.trans atPlace)
    rw [idle] at pending
    cases pending
  · refine both.apart pos place other call atPosition atPlace same kind ip pending ?_
    rw [recorded]
    exact about

/-- If nobody finds what another call has still to ask for, then whenever a call has returned, the
routes of its addresses have been asked for, and they are in the allowlist. -/
theorem returned_relies {labels : List Label} {call : Call}
    (runs : (tunnel cfg).Runs (fun state label => undisturbed state label = true) labels state)
    (member : call ∈ state.calls) (returned : call.returned = true)
    (live : call.reserves = true →
      state.excluder.closed = false ∧ state.excluder.routesLive = true) :
    ∀ ip ∈ call.ips, ip ∈ state.os.requested (call.mode cfg) ∧
      ∀ lockdown ∈ state.os.lockdown, ip ∈ lockdown.allow := by
  have sound := sound_of_runs runs
  have both := apart_of_runs runs
  intro ip about
  have settled := both.settled member returned about
  have listed := both.kept.listed call member ip ((recorded_of_returned returned).1 ▸ about)
  -- What nobody has pending has been asked for.
  have asked : ∀ {Done : Prop} {part : Call → List Address},
      (∀ other, ∀ ip ∈ part other, ip ∈ other.pending) →
      (Done ∨ ∃ other ∈ state.calls, other.reserves = call.reserves ∧ ip ∈ part other) → Done := by
    rintro Done part pending (done | ⟨other, present, kind, inside⟩)
    · exact done
    · exact absurd (pending other ip inside) (settled other present kind)
  have installed : ∀ other : Call, ∀ ip ∈ other.installing, ip ∈ other.pending :=
    fun _ _ => mem_append_left _
  have permitted : ∀ other : Call, ∀ ip ∈ other.permitting, ip ∈ other.pending :=
    fun _ _ => mem_append_right _
  cases call with
  | reserve =>
    obtain ⟨unclosed, isLive⟩ := live rfl
    exact ⟨asked installed (sound.reserved unclosed isLive ip listed),
      fun lockdown armed => asked permitted (sound.reservedAllowed lockdown armed ip listed)⟩
  | observe =>
    have answers : state.answering := by
      by_contra silent
      cases sound.quiet (Bool.eq_false_iff.mpr silent) _ member
    exact ⟨asked installed (sound.learned (.inl answers) ip listed),
      fun lockdown armed => asked permitted (sound.learnedAllowed lockdown armed ip listed)⟩

/-- A session with a kill-switch is brought up; one address is reserved and then another learned. -/
def inTurn : List Label :=
  replicate 12 (.proceed .done) ++
    [.reserve ["203.0.113.7"], .resume 0, .resume 0, .resume 0, .resume 0,
      .reserve ["203.0.113.7"], .resume 1,
      .observe ["203.0.113.8"], .resume 2, .resume 2, .resume 2]

/-- A reservation made once the tunnel is armed. -/
theorem inTurn_relies : ∃ state,
    (tunnel servingConfig).Runs (fun state label => undisturbed state label = true) inTurn state ∧
      Call.reserve ["203.0.113.7"] .returned ∈ state.calls ∧
      state.excluder.closed = false ∧ state.excluder.routesLive = true ∧
      state.os.lockdown.isSome = true ∧
      "203.0.113.7" ∈ state.os.requested .excluding ∧
      ∀ lockdown ∈ state.os.lockdown, "203.0.113.7" ∈ lockdown.allow := by
  obtain ⟨state, runs, member, unclosed, live, armed⟩ : ∃ state, (tunnel servingConfig).Runs
      (fun state label => undisturbed state label) inTurn state ∧
      Call.reserve ["203.0.113.7"] .returned ∈ state.calls ∧ state.excluder.closed = false ∧
      state.excluder.routesLive ∧ state.os.lockdown.isSome := by
    refine exists_runs ⟨[], rfl⟩ ?_ ?_ <;> decide
  obtain ⟨requested, allowed⟩ := returned_relies runs member rfl (fun _ => ⟨unclosed, live⟩)
    "203.0.113.7" mem_cons_self
  exact ⟨state, runs, member, unclosed, live, armed, requested, allowed⟩

/-- Two dials of one address, and two answers: the first has recorded it and asked for nothing yet
when the second returns. -/
def overtaking : List Label :=
  replicate 12 (.proceed .done) ++
    [.reserve ["203.0.113.7"], .resume 0, .reserve ["203.0.113.7"], .resume 1,
      .observe ["203.0.113.8"], .resume 2, .observe ["203.0.113.8"], .resume 3]

/-- A second reservation returns before the first has asked for the route. -/
theorem overtaking_returns_early : ∃ state lockdown,
    (tunnel servingConfig).Runs Machine.free overtaking state ∧ state.main = .up ∧
      state.excluder.closed = false ∧ state.excluder.routesLive = true ∧
      state.os.lockdown = some lockdown ∧
      state.calls[1]? = some (.reserve ["203.0.113.7"] .returned) ∧
      "203.0.113.7" ∉ state.os.requested .excluding ∧ "203.0.113.7" ∉ lockdown.allow ∧
      state.calls[3]? = some (.observe ["203.0.113.8"] [] .between) ∧
      "203.0.113.8" ∉ state.os.requested .excluding ∧ "203.0.113.8" ∉ lockdown.allow := by
  refine ⟨_, _, .ofFollow ⟨[], rfl⟩ rfl (meets_free _ _), rfl, rfl, rfl, rfl, rfl, ?_, ?_,
    rfl, ?_, ?_⟩ <;> decide

/-- Once the arming is over, an address that was reserved or learned is in the first allowlist or
was added, unless a call about it is in flight. -/
theorem armed_covers {labels : List Label} (runs : (tunnel cfg).Runs Machine.free labels state)
    (up : state.main = .up) (switched : cfg.killSwitch = true) :
    ∃ lockdown, state.os.lockdown = some lockdown ∧
      ∀ ip ∈ state.excluder.seen ++ state.policy.dynamic,
        (∀ call ∈ state.calls, ip ∈ call.ips → call.returned = true) →
        ip ∈ lockdown.initial ∨ ip ∈ lockdown.refreshed := by
  have sound := sound_of_runs runs
  have kept := kept_of_runs runs
  obtain ⟨lockdown, armed⟩ := Option.isSome_iff_exists.mp (sound.staged.arming up switched)
  refine ⟨lockdown, armed, fun ip known returned => ?_⟩
  have idle : ∀ call ∈ state.calls, ip ∉ call.permitting := by
    intro call member permitting
    have pending : ip ∈ call.pending := mem_append_right _ permitting
    have about := recorded_subset_ips call ip ((kept.proper call member).pending ip pending)
    rw [(recorded_of_returned (returned call member about)).2] at pending
    cases pending
  have allowed : ip ∈ lockdown.allow := by
    rcases mem_append.mp known with reserved | learned
    · rcases sound.reservedAllowed lockdown armed ip reserved with allowed | ⟨call, member, _, left⟩
      · exact allowed
      · exact absurd left (idle call member)
    · rcases sound.learnedAllowed lockdown armed ip learned with allowed | ⟨call, member, _, left⟩
      · exact allowed
      · exact absurd left (idle call member)
  exact (mem_append.mp allowed).symm

/-- One address is reserved around the arming, and one afterwards. -/
def aroundArming : List Label :=
  replicate 11 (.proceed .done) ++
    [.reserve ["203.0.113.7"], .resume 0, .proceed .done, .reserve ["203.0.113.6"], .resume 1,
      .resume 0, .resume 1, .resume 0, .resume 1, .resume 1]

/-- One reservation before the arming and one after it. -/
theorem aroundArming_covers : ∃ state lockdown,
    (tunnel servingConfig).Runs Machine.free aroundArming state ∧ state.main = .up ∧
      state.os.lockdown = some lockdown ∧
      "203.0.113.7" ∈ state.excluder.seen ∧ "203.0.113.6" ∈ state.excluder.seen ∧
      ("203.0.113.7" ∈ lockdown.initial ∨ "203.0.113.7" ∈ lockdown.refreshed) ∧
      ("203.0.113.6" ∈ lockdown.initial ∨ "203.0.113.6" ∈ lockdown.refreshed) ∧
      "203.0.113.6" ∉ lockdown.initial := by
  obtain ⟨state, runs, up, first, second, returned, late⟩ : ∃ state,
      (tunnel servingConfig).Runs free aroundArming state ∧ state.main = .up ∧
      "203.0.113.7" ∈ state.excluder.seen ∧ "203.0.113.6" ∈ state.excluder.seen ∧
      (∀ call ∈ state.calls, call.returned) ∧
      ∀ lockdown ∈ state.os.lockdown, "203.0.113.6" ∉ lockdown.initial :=
    exists_runs ⟨[], rfl⟩ (meets_free _ _) (by decide)
  obtain ⟨lockdown, armed, covers⟩ := armed_covers runs up rfl
  exact ⟨state, lockdown, runs, up, armed, first, second,
    covers _ (mem_append_left _ first) fun call member _ => returned call member,
    covers _ (mem_append_left _ second) fun call member _ => returned call member,
    late lockdown armed⟩

end Bacchus.Tunnel
