import Bacchus.Client.Reliance

/-!
# Closing a session under calls in flight

`Close` lifts the kill-switch, takes the device down and removes the routes, each list as it is
then. A late reservation takes its own route back, because `Close` has marked the excluder;
nothing marks the policy, so an address learned late keeps its route.
-/

namespace Bacchus.Tunnel

open Client (Address Excluder Reserve)
open List

variable {cfg : Config} {state next : State}

/-- The call its next action makes. -/
def Call.requests (cfg : Config) : Call → List OsCall
  | .reserve _ (.excluding ip _ _) => [.addExclusionRoutes [ip]]
  | .reserve _ (.reaping ip _ _) => [.removeRoutes [ip]]
  | .reserve _ (.allowing ip _ _) | .observe _ _ (.allowing ip) => [.refreshKillSwitchAllowIP ip]
  | .observe _ _ (.carving ip _) =>
    match cfg.mode with
    | .excluding => [.addExclusionRoutes [ip]]
    | .including => [.addInclusionRoutes [ip]]
  | _ => []

theorem os_advance (cfg : Config) (state : State) (call : Call) :
    (state.advance cfg call).1.os = (call.requests cfg).foldl Os.call state.os := by
  cases call with
  | reserve ips progress => cases progress <;> rfl
  | observe handled rest progress =>
    cases progress with
    | between =>
      cases rest with
      | nil => rfl
      | cons =>
        simp only [State.advance, State.observe]
        split_ifs <;> rfl
    | carving =>
      simp only [State.advance, State.observe, State.carve, Call.requests]
      cases cfg.mode <;> rfl
    | allowing => rfl

theorem calls_foldl (requests : List OsCall) (os : Os) :
    (requests.foldl Os.call os).calls = os.calls ++ requests := by
  induction requests generalizing os with
  | nil => simp
  | cons first rest ih =>
    rw [foldl_cons, ih]
    simp [Os.call]

variable {call : Call} {ip : Address}

/-- A call has an entry to add that it had before, or that it has just recorded armed. -/
theorem mem_permitting_advance (permitting : ip ∈ (state.advance cfg call).2.permitting) :
    ip ∈ call.permitting ∨ ip ∈ call.records ∧ ip ∉ state.listed call ∧
      (call.reserves → state.excluder.armed ∧ state.excluder.closed = false) ∧
      (call.reserves = false → state.policy.armed) := by
  cases call with
  | reserve ips progress =>
    cases progress with
    | entered =>
      simp only [State.advance, State.reserve] at permitting
      split_ifs at permitting with goes
      · rw [permitting_continue] at permitting
        split_ifs at permitting with armed
        · simp only [Excluder.fresh, mem_dedup, mem_filter, decide_eq_true_eq]
            at permitting
          simp only [Bool.and_eq_true, Bool.not_eq_true'] at goes
          exact .inr ⟨permitting.1, permitting.2, fun _ => ⟨armed, goes.2⟩,
            by rintro ⟨⟩⟩
        · cases permitting
      · cases permitting
    | excluding => exact .inl permitting
    | judging other rest armed =>
      simp only [State.advance, State.reserve] at permitting
      refine .inl ?_
      cases armed with
      | true =>
        split_ifs at permitting with closed armed
        · exact mem_cons_of_mem _ permitting
        · exact permitting
        · exact absurd rfl armed
      | false =>
        split_ifs at permitting with closed armed
        · cases permitting
        · cases armed
        · rw [permitting_continue] at permitting
          cases permitting
    | reaping =>
      refine .inl ?_
      simp only [State.advance, State.reserve, permitting_continue] at permitting
      exact permitting
    | allowing =>
      refine .inl (mem_cons_of_mem _ ?_)
      simp only [State.advance, State.reserve, permitting_continue] at permitting
      exact permitting
    | returned => cases permitting
  | observe handled rest progress =>
    cases progress with
    | between =>
      cases rest with
      | nil => cases permitting
      | cons =>
        simp only [State.advance, State.observe] at permitting
        split_ifs at permitting with known
        · cases permitting
        · simp only [Call.permitting] at permitting
          split_ifs at permitting with armed
          · rw [mem_singleton.mp permitting]
            exact .inr ⟨mem_singleton_self _, known, (by rintro ⟨⟩),
              fun _ => armed⟩
          · cases permitting
    | carving =>
      refine .inl ?_
      simp only [State.advance, State.observe] at permitting
      split_ifs at permitting with switched
      · simp only [Bool.and_eq_true] at switched
        rw [Call.permitting, if_pos switched.2]
        exact permitting
      · cases permitting
    | allowing => cases permitting

/-- `Close` is past the kill-switch. -/
def Main.unlocked : Main → Bool
  | .closing .revoke | .closing .disarm => false
  | .closing _ | .closed => true
  | _ => false

/-- `Close` has read the addresses learned so far. -/
def Main.snapped : Main → Bool
  | .closing (.dropLearned _) | .closed => true
  | _ => false

/-- When the kill-switch is lifted no call has an entry to add to the allowlist. From then on no
address is recorded by an armed reservation that finds the excluder in force, nor by an armed
answer. In exclude mode nothing is learned once `Close` has read what is, and everything learned is
routed when it removes those routes. -/
def orderly (cfg : Config) (state : State) : Label → Bool
  | .proceed _ =>
    match state.main with
    | .closing .disarm => state.calls.all fun call => call.permitting.isEmpty
    | .closing (.dropLearned _) =>
      cfg.mode == .including ||
        state.calls.all fun call => call.reserves || call.installing.isEmpty
    | _ => true
  | .resume index =>
    state.calls[index]?.all fun call => call.records.all fun ip =>
      decide (ip ∈ state.listed call) ||
        if call.reserves then
          !state.main.unlocked || state.excluder.closed || !state.excluder.armed
        else
          (!state.main.unlocked || !state.policy.armed) &&
            (!state.main.snapped || cfg.mode == .including)
  | _ => true

/-- No refresh follows the lifting. -/
def Quieted (calls : List OsCall) : Prop :=
  calls.Pairwise fun earlier later =>
    earlier = .disableKillSwitch → ∀ ip, later ≠ .refreshKillSwitchAllowIP ip

theorem Quieted.append {calls more : List OsCall} (quieted : Quieted calls)
    (later : .disableKillSwitch ∈ calls → ∀ ip, .refreshKillSwitchAllowIP ip ∉ more)
    (among : .disableKillSwitch ∉ more ∨ ∀ ip, .refreshKillSwitchAllowIP ip ∉ more) :
    Quieted (calls ++ more) := by
  refine pairwise_append.mpr ⟨quieted, ?_, ?_⟩
  · refine pairwise_of_forall_mem_list ?_
    rintro earlier first after second rfl ip rfl
    exact among.elim (fun none => none first) fun none => none ip second
  · rintro earlier first after second rfl ip rfl
    exact later first ip second

/-- The kill-switch is lifted by `Close` only, and then nobody has an entry to add. -/
structure Hushed (state : State) : Prop where
  quieted : Quieted state.os.calls
  lifted : .disableKillSwitch ∈ state.os.calls →
    state.main.unlocked ∧ ∀ call ∈ state.calls, call.permitting = []

/-- What the session's goroutine asks for in a step. -/
structure Asks (state next : State) (more : List OsCall) : Prop where
  calls : next.os.calls = state.os.calls ++ more
  refreshes : ∀ ip, .refreshKillSwitchAllowIP ip ∉ more
  lifts : .disableKillSwitch ∈ more →
    state.main = .closing .disarm ∧ next.main = .closing .releaseDNS
  unlocked : state.main.unlocked → next.main.unlocked

/-- A call that neither lifts the kill-switch nor adds to it. -/
def OsCall.plain : OsCall → Bool
  | .disableKillSwitch | .refreshKillSwitchAllowIP _ => false
  | _ => true

/-- A call that refreshes had an entry to add, and none lifts the kill-switch. -/
theorem plain_or_refreshes {req : OsCall} (member : req ∈ call.requests cfg) :
    req.plain ∨ ∃ ip ∈ call.permitting, req = .refreshKillSwitchAllowIP ip := by
  cases call with
  | reserve ips progress =>
    cases progress with
    | allowing => exact .inr ⟨_, mem_cons_self, mem_singleton.mp member⟩
    | excluding | reaping =>
      rw [mem_singleton.mp member]
      exact .inl rfl
    | _ => cases member
  | observe handled rest progress =>
    cases progress with
    | between => cases member
    | carving =>
      simp only [Call.requests] at member
      split at member <;>
      · rw [mem_singleton.mp member]
        exact .inl rfl
    | allowing => exact .inr ⟨_, mem_cons_self, mem_singleton.mp member⟩

theorem requests_plain (pc : BringUp) (call : OsCall) (member : call ∈ pc.requests cfg state) :
    call.plain := by
  cases pc with
  | goLive =>
    obtain ⟨_, _, rfl⟩ := mem_map.mp member
    rfl
  | excludeBypass | capture | serve | arm =>
    simp only [BringUp.requests] at member
    split_ifs at member
    all_goals first
      | rw [mem_singleton.mp member]; rfl
      | cases member
  | _ =>
    rw [mem_singleton.mp member]
    rfl

variable {main : Main}

theorem Asks.one {call : OsCall} (plain : call.plain)
    (unlocked : state.main.unlocked → main.unlocked) :
    Asks state { state.call call with main } [call] := by
  refine ⟨rfl, fun ip member => ?_, fun member => ?_, unlocked⟩
  all_goals
    rw [← mem_singleton.mp member] at plain
    cases plain

theorem Asks.none {excluder : Excluder}
    (unlocked : state.main.unlocked → main.unlocked) :
    Asks state { state with main, excluder } [] :=
  ⟨(append_nil _).symm, nofun, nofun, unlocked⟩

theorem asks_close {pc : Closing} (reached : state.main = .closing pc) :
    ∃ more, Asks state (state.close cfg pc) more := by
  have unlocked : state.main.unlocked = (Main.closing pc).unlocked := congrArg _ reached
  cases pc with
  | revoke =>
    simp only [State.close]
    split_ifs
    · exact ⟨_, .one rfl fun early => unlocked ▸ early⟩
    · exact ⟨_, .none fun early => unlocked ▸ early⟩
  | disarm =>
    simp only [State.close]
    split_ifs
    · refine ⟨_, rfl, fun ip member => ?_, fun _ => ⟨reached, rfl⟩, fun _ => rfl⟩
      cases mem_singleton.mp member
    · exact ⟨_, .none fun _ => rfl⟩
  | disable | readReserved | readLearned => exact ⟨_, .none fun _ => rfl⟩
  | _ => exact ⟨_, .one rfl fun _ => rfl⟩

variable {outcome : Outcome}

theorem asks_proceed (moves : state.proceed cfg outcome = some next) :
    ∃ more, Asks state next more := by
  unfold State.proceed at moves
  split at moves
  · rename_i pc deferred reached
    cases moves
    refine ⟨_, calls_bringUp cfg state deferred outcome pc, fun ip member => ?_,
      fun member => ?_, fun unlocked => ?_⟩
    · cases requests_plain pc _ member
    · cases requests_plain pc _ member
    · rw [reached] at unlocked
      cases unlocked
  · rename_i reached
    cases moves
    refine ⟨_, .none fun unlocked => ?_⟩
    rw [reached] at unlocked
    cases unlocked
  · rename_i first rest reached
    cases moves
    have locked : state.main.unlocked → (Main.unwinding rest).unlocked := by
      rw [reached]
      exact id
    cases first with
    | disable => exact ⟨_, .none locked⟩
    | _ => exact ⟨_, .one rfl locked⟩
  · rename_i pc reached
    cases moves
    exact asks_close reached
  · cases moves
  · cases moves
  · cases moves

theorem Hushed.proceeds (hushed : Hushed state)
    (met : orderly cfg state (.proceed outcome))
    (moves : state.proceed cfg outcome = some next) : Hushed next := by
  have beside := Beside.proceed moves
  obtain ⟨_, asks⟩ := asks_proceed moves
  refine ⟨?_, fun lifted => ?_⟩
  · rw [asks.calls]
    exact hushed.quieted.append (fun _ => asks.refreshes) (.inr asks.refreshes)
  · rw [asks.calls] at lifted
    rw [beside.calls]
    rcases mem_append.mp lifted with before | now
    · obtain ⟨unlocked, idle⟩ := hushed.lifted before
      exact ⟨asks.unlocked unlocked, idle⟩
    · obtain ⟨reached, left⟩ := asks.lifts now
      simp only [orderly, reached, all_eq_true, List.isEmpty_iff] at met
      rw [left]
      exact ⟨rfl, met⟩

variable {index : Nat}

theorem orderly_resume (met : orderly cfg state (.resume index))
    (found : state.calls[index]? = some call) (records : ip ∈ call.records)
    (fresh : ip ∉ state.listed call) :
    (call.reserves → state.main.unlocked → state.excluder.armed →
      state.excluder.closed) ∧
    (call.reserves = false → state.main.unlocked → state.policy.armed = false) ∧
    (call.reserves = false → state.main.snapped → cfg.mode = .including) := by
  simp only [orderly, found, Option.all_some, all_eq_true] at met
  have clear := met ip records
  refine ⟨fun kind unlocked armed => ?_, fun kind unlocked => ?_, fun kind snapped => ?_⟩ <;>
    simp_all

theorem Hushed.resumes (hushed : Hushed state) (met : orderly cfg state (.resume index))
    (found : state.calls[index]? = some call) :
    Hushed { (state.advance cfg call).1 with
      calls := state.calls.set index (state.advance cfg call).2 } := by
  have calls : (state.advance cfg call).1.os.calls =
      state.os.calls ++ call.requests cfg := by
    rw [os_advance, calls_foldl]
  have main := (frame_advance cfg state call).2.1
  have idle : .disableKillSwitch ∈ state.os.calls → call.permitting = [] := fun lifted =>
    (hushed.lifted lifted).2 call (mem_of_getElem? found)
  have unlifted : .disableKillSwitch ∉ call.requests cfg := fun lifts => by
    rcases plain_or_refreshes lifts with plain | ⟨_, _, same⟩
    · cases plain
    · cases same
  refine ⟨?_, fun lifted => ?_⟩
  · rw [show _ = _ from calls]
    refine hushed.quieted.append (fun lifted ip refreshes => ?_) (.inl unlifted)
    rcases plain_or_refreshes refreshes with plain | ⟨_, permitting, _⟩
    · cases plain
    · rw [idle lifted] at permitting
      cases permitting
  · rw [show _ = _ from calls] at lifted
    have lifted := (mem_append.mp lifted).resolve_right unlifted
    obtain ⟨unlocked, others⟩ := hushed.lifted lifted
    refine ⟨main ▸ unlocked, Threads.forall_set others ?_⟩
    rw [eq_nil_iff_forall_not_mem]
    intro ip permitting
    rcases mem_permitting_advance permitting with before | ⟨records, fresh, reserve, observe⟩
    · rw [idle lifted] at before
      cases before
    · obtain ⟨closes, disarms, _⟩ := orderly_resume met found records fresh
      cases kind : call.reserves with
      | true =>
        obtain ⟨armed, unclosed⟩ := reserve kind
        cases (closes kind unlocked armed).symm.trans unclosed
      | false => cases (disarms kind unlocked).symm.trans (observe kind)

theorem Hushed.enters (hushed : Hushed state) (permits : call.permitting = []) :
    Hushed { state with calls := state.calls ++ [call] } := by
  refine ⟨hushed.quieted, fun lifted => ?_⟩
  obtain ⟨unlocked, idle⟩ := hushed.lifted lifted
  refine ⟨unlocked, fun other member => ?_⟩
  rcases mem_append.mp member with earlier | last
  · exact idle other earlier
  · rw [mem_singleton.mp last]
    exact permits

theorem Hushed.step {label : Label} (hushed : Hushed state)
    (met : orderly cfg state label)
    (moves : (tunnel cfg).step state label = some next) : Hushed next := by
  cases label with
  | proceed => exact hushed.proceeds met moves
  | close =>
    simp only [tunnel] at moves
    split_ifs at moves with up
    cases moves
    refine ⟨hushed.quieted, fun lifted => ?_⟩
    have unlocked := (hushed.lifted lifted).1
    rw [up] at unlocked
    cases unlocked
  | reserve =>
    cases moves
    exact hushed.enters rfl
  | observe =>
    simp only [tunnel] at moves
    split_ifs at moves
    cases moves
    exact hushed.enters rfl
  | resume =>
    obtain ⟨_, found, rfl⟩ := step_resume moves
    exact hushed.resumes met found

/-- The address whose route it takes back if the excluder is closed. -/
def Call.reaping : Call → List Address
  | .reserve _ (.judging ip _ _) | .reserve _ (.reaping ip _ _) => [ip]
  | _ => []

/-- What `Close` has still to remove. -/
def Main.left (cfg : Config) (seen dynamic : List Address) : Main → List Address
  | .closing .disable | .closing .readReserved => seen ++ (cfg.statics ++ dynamic)
  | .closing (.dropReserved ips) => ips ++ (cfg.statics ++ dynamic)
  | .closing .dropStatics => cfg.statics ++ dynamic
  | .closing .readLearned => dynamic
  | .closing (.dropLearned ips) => ips
  | .closed => []
  | _ => cfg.control ++ (seen ++ (cfg.statics ++ dynamic))

/-- What it has still to remove of the learned addresses. -/
def Main.leftLearned (dynamic : List Address) : Main → List Address
  | .closing (.dropLearned ips) => ips
  | .closed => []
  | _ => dynamic

/-- `Close` has marked the excluder. -/
def Main.disabled : Main → Bool
  | .closing .readReserved | .closing (.dropReserved _) | .closing .dropStatics
  | .closing .readLearned | .closing (.dropLearned _) | .closed => true
  | _ => false

/-- Every route is one that `Close` or its own call will remove. -/
structure Owed (cfg : Config) (state : State) : Prop where
  shut : state.main.disabled → state.excluder.closed
  routes : ∀ ip ∈ state.os.routes,
    ip ∈ state.main.left cfg state.excluder.seen state.policy.dynamic ∨
      state.excluder.closed ∧ ∃ call ∈ state.calls, ip ∈ call.reaping
  learned : cfg.mode = .excluding → ∀ call ∈ state.calls, call.reserves = false →
    ∀ ip ∈ call.installing, ip ∈ state.main.leftLearned state.policy.dynamic

variable {seen dynamic later : List Address}

theorem left_mono {more : List Address} (main : Main) (seenGrows : ∀ ip ∈ seen, ip ∈ more)
    (grows : ∀ ip ∈ dynamic, ip ∈ later) :
    ∀ ip ∈ main.left cfg seen dynamic, ip ∈ main.left cfg more later := by
  have both : ∀ ip ∈ cfg.statics ++ dynamic, ip ∈ cfg.statics ++ later := fun ip member =>
    mem_append.mpr ((mem_append.mp member).imp_right (grows ip))
  have all : ∀ ip ∈ seen ++ (cfg.statics ++ dynamic), ip ∈ more ++ (cfg.statics ++ later) :=
    fun ip member => mem_append.mpr ((mem_append.mp member).imp (seenGrows ip) (both ip))
  have whole : ∀ ip ∈ cfg.control ++ (seen ++ (cfg.statics ++ dynamic)),
      ip ∈ cfg.control ++ (more ++ (cfg.statics ++ later)) :=
    fun ip member => mem_append.mpr ((mem_append.mp member).imp_right (all ip))
  cases main with
  | closing pc =>
    cases pc with
    | disable | readReserved => exact all
    | dropReserved =>
      intro ip member
      exact mem_append.mpr ((mem_append.mp member).imp_right (both ip))
    | dropStatics => exact both
    | readLearned => exact grows
    | dropLearned => exact fun ip => id
    | _ => exact whole
  | closed => exact fun ip => id
  | _ => exact whole

theorem leftLearned_mono (main : Main) (grows : ∀ ip ∈ dynamic, ip ∈ later) :
    ∀ ip ∈ main.leftLearned dynamic, ip ∈ main.leftLearned later := by
  cases main with
  | closing pc =>
    cases pc with
    | dropLearned => exact fun ip => id
    | _ => exact grows
  | closed => exact fun ip => id
  | _ => exact grows

theorem left_of_leftLearned (main : Main) :
    ∀ ip ∈ main.leftLearned dynamic, ip ∈ main.left cfg seen dynamic := by
  have both : ∀ ip ∈ dynamic, ip ∈ cfg.statics ++ dynamic := fun ip => mem_append_right _
  have all : ∀ ip ∈ dynamic, ip ∈ seen ++ (cfg.statics ++ dynamic) := fun ip member =>
    mem_append_right _ (both ip member)
  cases main with
  | closing pc =>
    cases pc with
    | disable | readReserved => exact all
    | dropReserved => exact fun ip member => mem_append_right _ (both ip member)
    | dropStatics => exact both
    | readLearned | dropLearned ips => exact fun ip => id
    | _ => exact fun ip member => mem_append_right _ (all ip member)
  | closed => exact fun ip => id
  | _ => exact fun ip member => mem_append_right _ (all ip member)

theorem leftLearned_of_unsnapped (early : main.snapped = false) :
    main.leftLearned dynamic = dynamic := by
  cases main with
  | closing pc =>
    cases pc with
    | dropLearned => cases early
    | _ => rfl
  | closed => cases early
  | _ => rfl

/-- Until the excluder is marked, `Close` has still to remove what is reserved. -/
theorem left_of_seen (early : main.disabled = false) :
    ∀ ip ∈ seen, ip ∈ main.left cfg seen dynamic := by
  cases main with
  | closing pc =>
    cases pc with
    | disable => exact fun ip => mem_append_left _
    | readReserved | dropReserved ips | dropStatics | readLearned | dropLearned ips => cases early
    | _ => exact fun ip member => mem_append_right _ (mem_append_left _ member)
  | closed => cases early
  | _ => exact fun ip member => mem_append_right _ (mem_append_left _ member)

theorem Owed.goes (owed : Owed cfg state) (beside : Beside state next)
    (shut : next.main.disabled → next.excluder.closed)
    (closes : state.excluder.closed → next.excluder.closed)
    (routes : ∀ ip ∈ next.os.routes,
      ip ∈ next.main.left cfg next.excluder.seen next.policy.dynamic ∨
        ip ∈ state.os.routes ∧
          (ip ∈ state.main.left cfg state.excluder.seen state.policy.dynamic →
            ip ∈ next.main.left cfg next.excluder.seen next.policy.dynamic))
    (learned : cfg.mode = .excluding → ∀ call ∈ state.calls, call.reserves = false →
      ∀ ip ∈ call.installing, ip ∈ state.main.leftLearned state.policy.dynamic →
        ip ∈ next.main.leftLearned next.policy.dynamic) : Owed cfg next := by
  refine ⟨shut, fun ip route => ?_, fun mode => ?_⟩
  · rcases routes ip route with left | ⟨before, moves⟩
    · exact .inl left
    · refine (owed.routes ip before).imp moves ?_
      rw [beside.calls]
      exact fun ⟨closed, reaps⟩ => ⟨closes closed, reaps⟩
  · rw [beside.calls]
    exact fun call member kind ip installing =>
      learned mode call member kind ip installing (owed.learned mode call member kind ip installing)

variable {deferred : List Undo}

theorem mem_routes_bringUp {pc : BringUp}
    (route : ip ∈ (state.bringUp cfg deferred outcome pc).os.routes) :
    ip ∈ state.os.routes ∨ ip ∈ cfg.control ++ (state.excluder.seen ++ (cfg.statics ++
      (state.bringUp cfg deferred outcome pc).policy.dynamic)) := by
  have attempts : ∀ (call : OsCall) (main : Main), call.adds = [] →
      ip ∈ (state.attempt call outcome main deferred).os.routes → ip ∈ state.os.routes := by
    intro call main none route
    unfold State.attempt at route
    split_ifs at route
    · refine (Os.mem_routes_call route).resolve_right ?_
      rw [none]
      exact not_mem_nil
    · exact route
  cases pc with
  | gateway | createTUN | configure | captureDNS => exact .inl (attempts _ _ rfl route)
  | startNetstack =>
    refine .inl (attempts .startNetstack .up rfl ?_)
    cases outcome <;> exact route
  | excludeControl =>
    exact (Os.mem_routes_call route).imp_right fun added => mem_append_left _ added
  | goLive =>
    refine ((excludeEach_spec state.excluder.seen state.os).1 ip route).imp_right fun added => ?_
    exact mem_append_right _ (mem_append_left _ added)
  | excludeBypass =>
    simp only [State.bringUp] at route ⊢
    split at route
    · refine (Os.mem_routes_call route).imp_right fun added => ?_
      exact mem_append_right _ (mem_append_right _ added)
    · exact .inl route
  | capture =>
    simp only [State.bringUp] at route
    split at route
    · exact .inl ((Os.mem_routes_call route).resolve_right not_mem_nil)
    · exact .inl (attempts _ _ rfl route)
  | disableIPv6 => exact .inl route
  | serve =>
    simp only [State.bringUp] at route
    split_ifs at route
    · exact .inl (attempts _ _ rfl route)
    · exact .inl route
  | arm =>
    simp only [State.bringUp] at route
    split_ifs at route
    · exact .inl route
    · exact .inl (attempts _ _ rfl route)

theorem Owed.bringUp {pc : BringUp} (owed : Owed cfg state) (sound : Sound cfg state)
    (reached : state.main = .bringUp pc deferred) (outcome : Outcome) :
    Owed cfg (state.bringUp cfg deferred outcome pc) := by
  have beside : Beside state (state.bringUp cfg deferred outcome pc) :=
    .bringUp deferred outcome pc
  have unclosed : state.excluder.closed = false := by
    refine sound.staged.unclosed ?_
    rw [reached]
    cases pc <;> simp [Main.rank, BringUp.rank]
  -- Wherever the step leads, `Close` has still everything to remove.
  have whole : (state.bringUp cfg deferred outcome pc).main.disabled = false ∧
      (∀ seen dynamic, (state.bringUp cfg deferred outcome pc).main.left cfg seen dynamic =
        cfg.control ++ (seen ++ (cfg.statics ++ dynamic))) ∧
      ∀ dynamic, (state.bringUp cfg deferred outcome pc).main.leftLearned dynamic =
        dynamic := by
    rcases main_bringUp cfg state deferred outcome pc with next | ⟨_, _, _, next⟩ | ⟨_, next⟩ <;>
    · rw [next]
      exact ⟨rfl, fun _ _ => rfl, fun _ => rfl⟩
  obtain ⟨enabled, left, leftLearned⟩ := whole
  refine owed.goes beside (fun disabled => ?_) (fun closed => ?_) (fun ip route => ?_)
    fun _ _ _ _ ip _ known => ?_
  · cases enabled.symm.trans disabled
  · cases unclosed.symm.trans closed
  · rw [left, beside.seen]
    rcases mem_routes_bringUp route with before | added
    · refine .inr ⟨before, fun known => ?_⟩
      rw [reached] at known
      exact left_mono (.bringUp pc deferred) (fun ip => id) beside.dynamic ip known
    · exact .inl added
  · rw [leftLearned]
    rw [reached] at known
    exact beside.dynamic ip known

variable {before : Main} (owed : Owed cfg state)
include owed

theorem Owed.drops (reached : state.main = before) (ips : List Address)
    (shut : main.disabled → state.excluder.closed)
    (left : ∀ ip ∈ before.left cfg state.excluder.seen state.policy.dynamic, ip ∉ ips →
      ip ∈ main.left cfg state.excluder.seen state.policy.dynamic)
    (learned : cfg.mode = .excluding → ∀ call ∈ state.calls, call.reserves = false →
      ∀ ip ∈ call.installing, ip ∈ before.leftLearned state.policy.dynamic →
        ip ∈ main.leftLearned state.policy.dynamic) :
    Owed cfg { state.call (.removeRoutes ips) with main } := by
  subst reached
  refine owed.goes ⟨rfl, rfl, fun ip => id⟩ shut id (fun ip route => .inr ?_) learned
  obtain ⟨before, kept⟩ := mem_filter.mp route
  exact ⟨before, fun known => left ip known (of_decide_eq_true kept)⟩

theorem Owed.keeps {os : Os} (reached : state.main = before)
    (shut : main.disabled → state.excluder.closed)
    (routes : os.routes = state.os.routes)
    (left : main.left cfg state.excluder.seen state.policy.dynamic =
      before.left cfg state.excluder.seen state.policy.dynamic)
    (learned : main.leftLearned state.policy.dynamic = before.leftLearned state.policy.dynamic) :
    Owed cfg { state with os, main } := by
  subst reached
  refine owed.goes ⟨rfl, rfl, fun ip => id⟩ shut id (fun ip route => .inr ⟨routes ▸ route, ?_⟩)
    fun _ _ _ _ ip _ known => ?_
  · rw [left]
    exact id
  · rw [learned]
    exact known

theorem Owed.close {pc : Closing}
    (met : orderly cfg state (.proceed outcome)) (reached : state.main = .closing pc) :
    Owed cfg (state.close cfg pc) := by
  have shut : (Main.closing pc).disabled → state.excluder.closed :=
    reached ▸ owed.shut
  cases pc with
  | revoke | disarm =>
    simp only [State.close]
    split_ifs <;> exact owed.keeps reached (by rintro ⟨⟩) rfl rfl rfl
  | releaseDNS | closeNetstack | closeTUN | enableIPv6 =>
    exact owed.keeps reached (by rintro ⟨⟩) rfl rfl rfl
  | dropControl =>
    refine owed.drops reached _ (by rintro ⟨⟩) (fun ip known kept => ?_) fun _ _ _ _ ip _ => id
    exact (mem_append.mp known).resolve_left kept
  | disable =>
    refine owed.goes ⟨rfl, rfl, fun ip => id⟩ (fun _ => rfl) (fun _ => rfl)
      (fun ip route => .inr ⟨route, ?_⟩) fun _ _ _ _ ip _ => ?_
    · rw [reached]
      exact id
    · rw [reached]
      exact id
  | dropReserved | dropStatics =>
    refine owed.drops reached _ (fun _ => shut rfl) (fun ip known kept => ?_)
      fun _ _ _ _ ip _ => id
    exact (mem_append.mp known).resolve_left kept
  | readReserved | readLearned => exact owed.keeps reached (fun _ => shut rfl) rfl rfl rfl
  | dropLearned ips =>
    refine owed.drops reached ips (fun _ => shut rfl) (fun ip known kept => ?_)
      fun mode call member kind ip installing => ?_
    · exact absurd known kept
    · simp only [orderly, reached, mode] at met
      have idle := all_eq_true.mp met call member
      rw [kind, Bool.false_or, List.isEmpty_iff] at idle
      rw [idle] at installing
      cases installing

theorem Owed.proceeds (sound : Sound cfg state)
    (met : orderly cfg state (.proceed outcome))
    (moves : state.proceed cfg outcome = some next) : Owed cfg next := by
  unfold State.proceed at moves
  split at moves
  · rename_i pc deferred reached
    cases moves
    exact owed.bringUp sound reached outcome
  · rename_i reached
    cases moves
    exact owed.keeps reached (by rintro ⟨⟩) rfl rfl rfl
  · rename_i first rest reached
    cases moves
    have beside : Beside state { state.undo cfg first with main := .unwinding rest } := by
      cases first <;> exact ⟨rfl, rfl, fun ip => id⟩
    refine owed.goes beside (by rintro ⟨⟩) (fun closed => ?_) (fun ip route => .inr ?_)
      fun _ _ _ _ ip _ known => ?_
    · cases first <;> first | exact closed | rfl
    · refine ⟨(mem_routes_undo route).1, fun known => ?_⟩
      rw [reached] at known
      exact left_mono (.unwinding rest) (fun ip => beside.seen ▸ id) beside.dynamic ip known
    · rw [reached] at known
      exact beside.dynamic ip known
  · rename_i pc reached
    cases moves
    exact owed.close met reached
  · cases moves
  · cases moves
  · cases moves

omit owed

/-- A learned address that is to be routed has just been recorded. -/
theorem mem_installing_observe {handled rest : List Address} {progress : Observe}
    (installing : ip ∈ (state.observe cfg handled rest progress).2.installing) :
    ip ∈ (Call.observe handled rest progress).records ∧ ip ∉ state.policy.dynamic := by
  cases progress with
  | between =>
    cases rest with
    | nil => cases installing
    | cons =>
      simp only [State.observe] at installing
      split_ifs at installing with known
      · cases installing
      · rw [mem_singleton.mp installing]
        exact ⟨mem_singleton_self _, known⟩
  | carving =>
    simp only [State.observe] at installing
    split_ifs at installing <;> cases installing
  | allowing => cases installing

/-- What a call adds to the routes, and what it takes back. -/
theorem mem_routes_advance (route : ip ∈ (state.advance cfg call).1.os.routes) :
    (ip ∈ state.os.routes ∧ (state.excluder.closed → ip ∈ call.reaping →
      ip ∈ (state.advance cfg call).2.reaping)) ∨
    (call.reserves ∧ ip ∈ call.installing ∧ ip ∈ (state.advance cfg call).2.reaping) ∨
    (call.reserves = false ∧ cfg.mode = .excluding ∧ ip ∈ call.installing) := by
  cases call with
  | reserve ips progress =>
    cases progress with
    | excluding =>
      rcases mem_cons.mp route with rfl | before
      · exact .inr (.inl ⟨rfl, mem_cons_self, mem_singleton_self _⟩)
      · exact .inl ⟨before, fun _ => by rintro ⟨⟩⟩
    | judging =>
      refine .inl ⟨route, fun closed reaped => ?_⟩
      simp only [State.advance, State.reserve, if_pos closed]
      exact reaped
    | reaping =>
      obtain ⟨before, kept⟩ := mem_filter.mp route
      exact .inl ⟨before, fun _ reaped => absurd reaped (of_decide_eq_true kept)⟩
    | _ => exact .inl ⟨route, fun _ => by rintro ⟨⟩⟩
  | observe handled rest progress =>
    cases progress with
    | between =>
      cases rest with
      | nil => exact .inl ⟨route, fun _ => by rintro ⟨⟩⟩
      | cons =>
        refine .inl ⟨?_, fun _ => by rintro ⟨⟩⟩
        simp only [State.advance, State.observe] at route
        split_ifs at route <;> exact route
    | carving =>
      simp only [State.advance, State.observe, State.carve] at route
      cases mode : cfg.mode with
      | excluding =>
        rw [mode] at route
        rcases mem_cons.mp route with rfl | before
        · exact .inr (.inr ⟨rfl, rfl, mem_singleton_self _⟩)
        · exact .inl ⟨before, fun _ => by rintro ⟨⟩⟩
      | including =>
        rw [mode] at route
        exact .inl ⟨(Os.mem_routes_call route).resolve_right not_mem_nil, fun _ => by rintro ⟨⟩⟩
    | allowing => exact .inl ⟨route, fun _ => by rintro ⟨⟩⟩

theorem Owed.resumes (owed : Owed cfg state) (kept : Kept state)
    (met : orderly cfg state (.resume index)) (found : state.calls[index]? = some call) :
    Owed cfg { (state.advance cfg call).1 with
      calls := state.calls.set index (state.advance cfg call).2 } := by
  have member := mem_of_getElem? found
  have inside : index < state.calls.length := (List.getElem?_eq_some_iff.mp found).1
  have advanced := advanced cfg state (kept.proper call member)
  obtain ⟨_, main, closed, _⟩ := frame_advance cfg state call
  have seen : ∀ ip ∈ state.excluder.seen, ip ∈ (state.advance cfg call).1.excluder.seen :=
    advanced.grows (.reserve [] .returned)
  have dynamic : ∀ ip ∈ state.policy.dynamic, ip ∈ (state.advance cfg call).1.policy.dynamic :=
    advanced.grows (.observe [] [] .between)
  have listed : ∀ ip ∈ call.installing, ip ∈ state.listed call := fun ip installing =>
    kept.listed call member ip ((kept.proper call member).pending ip
      (mem_append_left _ installing))
  refine ⟨?_, fun ip route => ?_, fun mode => Threads.forall_set (fun other present kind ip
    installing => ?_) fun kind ip installing => ?_⟩
  · rw [show _ = _ from main, show _ = _ from closed]
    exact owed.shut
  · rw [show _ = _ from main, show _ = _ from closed]
    rcases mem_routes_advance route with ⟨before, reaps⟩ | ⟨kind, installing, reaps⟩ |
      ⟨kind, mode, installing⟩
    · rcases owed.routes ip before with left | ⟨isClosed, pending⟩
      · exact .inl (left_mono state.main seen dynamic ip left)
      · exact .inr ⟨isClosed, Threads.exists_set found (reaps isClosed) pending⟩
    · by_cases isClosed : state.excluder.closed
      · exact .inr ⟨isClosed, _, mem_set inside _, reaps⟩
      · have early : state.main.disabled = false :=
          Bool.eq_false_iff.mpr fun disabled => isClosed (owed.shut disabled)
        have reserved := listed ip installing
        rw [State.listed, kind] at reserved
        exact .inl (left_of_seen early ip (seen ip reserved))
    · have left := owed.learned mode call member kind ip installing
      exact .inl (left_of_leftLearned state.main ip
        (leftLearned_mono state.main dynamic ip left))
  · rw [show _ = _ from main]
    exact leftLearned_mono state.main dynamic ip
      (owed.learned mode other present kind ip installing)
  · rw [show _ = _ from main]
    cases call with
    | reserve => cases kind
    | observe =>
      obtain ⟨records, fresh⟩ := mem_installing_observe installing
      have unsnapped : state.main.snapped = false := by
        rw [Bool.eq_false_iff]
        intro snapped
        cases mode.symm.trans ((orderly_resume met found records fresh).2.2 rfl snapped)
      rw [leftLearned_of_unsnapped unsnapped]
      exact advanced.listed ip records

theorem Owed.enters (owed : Owed cfg state) (installing : call.installing = []) :
    Owed cfg { state with calls := state.calls ++ [call] } := by
  refine ⟨owed.shut, fun ip route => ?_, fun mode other member kind ip pending => ?_⟩
  · refine (owed.routes ip route).imp_right ?_
    rintro ⟨closed, reaper, present, reaps⟩
    exact ⟨closed, reaper, mem_append_left _ present, reaps⟩
  · rcases mem_append.mp member with earlier | last
    · exact owed.learned mode other earlier kind ip pending
    · rw [mem_singleton.mp last, installing] at pending
      cases pending

/-- What holds along the runs that meet the condition. -/
structure Orderly (cfg : Config) (state : State) : Prop where
  sound : Sound cfg state
  kept : Kept state
  hushed : Hushed state
  owed : Owed cfg state

/-- Every orderly step keeps what is owed. -/
theorem Orderly.step {label : Label} (all : Orderly cfg state)
    (met : orderly cfg state label)
    (moves : (tunnel cfg).step state label = some next) : Orderly cfg next := by
  refine ⟨all.sound.step moves, all.kept.step moves, all.hushed.step met moves, ?_⟩
  cases label with
  | proceed => exact all.owed.proceeds all.sound met moves
  | close =>
    simp only [tunnel] at moves
    split_ifs at moves with up
    cases moves
    exact all.owed.keeps up (by rintro ⟨⟩) rfl rfl rfl
  | reserve =>
    cases moves
    exact all.owed.enters rfl
  | observe =>
    simp only [tunnel] at moves
    split_ifs at moves
    cases moves
    exact all.owed.enters rfl
  | resume =>
    obtain ⟨_, found, rfl⟩ := step_resume moves
    exact all.owed.resumes all.kept met found

theorem orderly_of_runs {labels : List Label}
    (runs : (tunnel cfg).Runs (fun state label => orderly cfg state label) labels
      state) : Orderly cfg state := by
  refine runs.invariant (fun start => ?_) fun all met moves => all.step met moves
  have sound := sound_initial start
  obtain ⟨_, rfl⟩ := start
  exact ⟨sound, ⟨nofun, nofun⟩, ⟨.nil, nofun⟩, ⟨nofun, nofun, fun _ => nofun⟩⟩

theorem reaping_of_returned (returned : call.returned) : call.reaping = [] := by
  cases call with
  | reserve ips progress =>
    cases progress with
    | returned => rfl
    | _ => cases returned
  | observe => rfl

/-- In such a run no refresh follows the lifting of the kill-switch, and when `Close` and all calls
have returned no exclusion route is left. -/
theorem close_leaves_nothing {labels : List Label}
    (runs : (tunnel cfg).Runs (fun state label => orderly cfg state label = true) labels
      state) :
    Quieted state.os.calls ∧
      (state.main = .closed → (∀ call ∈ state.calls, call.returned = true) →
        state.os.routes = []) := by
  have all := orderly_of_runs runs
  refine ⟨all.hushed.quieted, fun closed returned => ?_⟩
  rw [eq_nil_iff_forall_not_mem]
  intro ip route
  rcases all.owed.routes ip route with left | ⟨_, call, member, reaps⟩
  · rw [closed] at left
    cases left
  · rw [reaping_of_returned (returned call member)] at reaps
    cases reaps

/-- A session is brought up, an address reserved and one learned; it is closed, and one more dial
comes too late. -/
def calmClose : List Label :=
  replicate 12 (.proceed .done) ++
    [.reserve ["203.0.113.7"], .resume 0, .resume 0, .resume 0, .resume 0,
      .observe ["203.0.113.8"], .resume 1, .resume 1, .resume 1, .close] ++
    replicate 8 (.proceed .done) ++ [.reserve ["203.0.113.6"], .resume 2] ++
    replicate 5 (.proceed .done)

/-- A close with no call in flight. -/
theorem calmClose_leaves_nothing : ∃ state,
    (tunnel servingConfig).Runs (fun state label => orderly servingConfig state label = true)
        calmClose state ∧
      state.main = .closed ∧ (∀ call ∈ state.calls, call.returned = true) ∧
      .refreshKillSwitchAllowIP "203.0.113.7" ∈ state.os.calls ∧
      .disableKillSwitch ∈ state.os.calls ∧ Quieted state.os.calls ∧ state.os.routes = [] := by
  obtain ⟨state, runs, closed, returned, refreshed, lifted⟩ : ∃ state, (tunnel servingConfig).Runs
      (fun state label => orderly servingConfig state label) calmClose state ∧
      state.main = .closed ∧ (∀ call ∈ state.calls, call.returned) ∧
      .refreshKillSwitchAllowIP "203.0.113.7" ∈ state.os.calls ∧
      .disableKillSwitch ∈ state.os.calls := by
    refine Machine.exists_runs ⟨[], rfl⟩ ?_ ?_ <;> decide
  obtain ⟨quieted, removed⟩ := close_leaves_nothing runs
  exact ⟨state, runs, closed, returned, refreshed, lifted, quieted, removed closed returned⟩

/-- A failover dial has recorded its address when `Close` lifts the kill-switch. -/
def lateRefresh : List Label :=
  replicate 12 (.proceed .done) ++
    [.reserve ["203.0.113.7"], .resume 0, .close, .proceed .done, .proceed .done, .resume 0,
      .resume 0, .resume 0]

/-- An answer is being handled when `Close` runs to its end. -/
def lateAnswer : List Label :=
  replicate 12 (.proceed .done) ++ [.observe ["203.0.113.8"], .close] ++
    replicate 13 (.proceed .done) ++ [.resume 0, .resume 0, .resume 0]

/-- A late refresh and a late answer. -/
theorem late_calls_outlive_close :
    (∃ state, (tunnel servingConfig).Runs Machine.free lateRefresh state ∧
      [.disableKillSwitch, .refreshKillSwitchAllowIP "203.0.113.7"].Sublist state.os.calls) ∧
    ∃ state, (tunnel servingConfig).Runs Machine.free lateAnswer state ∧
      state.main = .closed ∧ (∀ call ∈ state.calls, call.returned = true) ∧
      "203.0.113.8" ∈ state.os.routes := by
  refine ⟨⟨_, .ofFollow ⟨[], rfl⟩ rfl (Machine.meets_free _ _), ?_⟩,
    _, .ofFollow ⟨[], rfl⟩ rfl (Machine.meets_free _ _), rfl, ?_, ?_⟩ <;> decide

end Bacchus.Tunnel
