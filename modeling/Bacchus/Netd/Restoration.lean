import Bacchus.Netd.Clients

/-!
# Giving the IPv6 settings back

A session remembers one interface and its value before the first disable. The memory is given up
on a close, and where a client is lost with the kill-switch armed; a disable on a second interface
is not remembered.
-/

namespace Bacchus.Netd

open Function

/-- What a setting says, without the line feed after it. -/
def setting (content : String) : String := Netip.trimSpace content

/-- What is remembered suffices to give back every setting. -/
structure Recoverable (original : String → String) (ipv6For ipv6Was : String)
    (ipv6 : String → String) : Prop where
  others : ∀ name, name ≠ ipv6For ∨ ipv6For = "" → setting (ipv6 name) = setting (original name)
  captured : ipv6For ≠ "" → setting ipv6Was = setting (original ipv6For)
  disabled : ipv6For ≠ "" → setting (ipv6 ipv6For) = "1"

namespace Recoverable

variable {original ipv6 : String → String} {ipv6For ipv6Was : String}

theorem fresh (same : ∀ name, setting (ipv6 name) = setting (original name)) (ipv6Was : String) :
    Recoverable original "" ipv6Was ipv6 :=
  ⟨fun name _ => same name, fun named => absurd rfl named, fun named => absurd rfl named⟩

variable (recoverable : Recoverable original ipv6For ipv6Was ipv6)

include recoverable

/-- The memory may be given up where it says that IPv6 was off. -/
theorem forget (idle : ipv6For = "" ∨ setting ipv6Was = "1") (name : String) :
    setting (ipv6 name) = setting (original name) := by
  by_cases here : name ≠ ipv6For ∨ ipv6For = ""
  · exact recoverable.others name here
  · obtain ⟨same, named⟩ := not_or.mp here
    obtain rfl : name = ipv6For := not_not.mp same
    have off : setting ipv6Was = "1" := idle.resolve_left named
    rw [recoverable.disabled named, ← recoverable.captured named, off]

theorem restore (name : String) :
    setting ((if ipv6For = "" then ipv6 else update ipv6 ipv6For ipv6Was) name) =
      setting (original name) := by
  by_cases named : ipv6For = ""
  · rw [if_pos named]
    exact recoverable.others name (.inr named)
  · rw [if_neg named]
    by_cases here : name = ipv6For
    · subst here
      rw [update_self]
      exact recoverable.captured named
    · rw [update_of_ne here]
      exact recoverable.others name (.inl here)

theorem disable {name : String} (named : name ≠ "")
    (kept : ipv6For = "" ∨ ipv6For = name ∨ setting (ipv6 name) = "1") :
    Recoverable original (if ipv6For = "" then name else ipv6For)
      (if ipv6For = "" then ipv6 name else ipv6Was) (update ipv6 name "1") := by
  have off : setting "1" = "1" := by decide
  by_cases first : ipv6For = ""
  · simp only [if_pos first]
    refine ⟨fun other different => ?_, fun _ => recoverable.others name (.inr first), fun _ => ?_⟩
    · rw [update_of_ne (different.resolve_right named)]
      exact recoverable.others other (.inr first)
    · rw [update_self, off]
  · simp only [if_neg first]
    refine ⟨fun other different => ?_, fun _ => recoverable.captured first, fun _ => ?_⟩
    · have away : other ≠ ipv6For := different.resolve_right first
      by_cases here : other = name
      · subst here
        have unchanged : setting (ipv6 other) = "1" :=
          (kept.resolve_left first).resolve_left away.symm
        rw [update_self, off, ← unchanged]
        exact recoverable.others other (.inl away)
      · rw [update_of_ne here]
        exact recoverable.others other (.inl away)
    · by_cases here : ipv6For = name
      · rw [here, update_self, off]
      · rw [update_of_ne here]
        exact recoverable.disabled first

end Recoverable

/-- A teardown up to the write of the setting, with what it will write. -/
def beforeRestore : Work (Option (String × String)) := do
  releaseDNS
  revokeServedEgress
  let armed ← bareRead SessionState.killSwitchArmed
  if armed then pure none
  else
    reapRoutes
    bareRead fun session => some (session.ipv6For, session.ipv6Was)

theorem teardown_eq : teardown = beforeRestore >>= fun captured =>
    match captured with
    | none => pure ()
    | some (ipv6For, ipv6Was) => restoreIPv6 ipv6For ipv6Was := by
  simp only [teardown, beforeRestore, Task.bind_assoc]
  congr 1
  funext _
  congr 1
  funext _
  congr 1
  funext armed
  cases armed <;> simp [Task.bind_assoc, bareRead, Task.atomically, Task.await]

section

variable {original : String → String} {helper : Helper} {id : SessionId} {answers : Nat → Answer}

/-- What a session remembers suffices. -/
def Enforcement.Recoverable (seen : Enforcement) (original : String → String) : Prop :=
  Netd.Recoverable original seen.settings.1 seen.settings.2.1 seen.settings.2.2

theorem recoverable_of_settings {seen : Enforcement} {ipv6For ipv6Was : String}
    {ipv6 : String → String} (same : seen.settings = (ipv6For, ipv6Was, ipv6))
    (recoverable : Netd.Recoverable original ipv6For ipv6Was ipv6) : seen.Recoverable original := by
  unfold Enforcement.Recoverable
  rw [same]
  exact recoverable

/-- Only the first disable of a session is remembered. -/
theorem recoverable_capture {scope : Scope} {name prior : String}
    (recoverable : Netd.Recoverable original
      (if scope.session.ipv6For = "" then name else scope.session.ipv6For)
      (if scope.session.ipv6For = "" then prior else scope.session.ipv6Was) scope.kernel.ipv6) :
    { scope with session :=
        if scope.session.ipv6For = "" then
          { scope.session with ipv6For := name, ipv6Was := prior }
        else scope.session }.enforcement.Recoverable original := by
  by_cases first : scope.session.ipv6For = "" <;>
    simpa [Enforcement.Recoverable, Enforcement.settings, Scope.enforcement, first]
      using recoverable

theorem recoverable_handleDisableIPv6 (bound : id < helper.sessions.length)
    (recoverable : (helper.enforcement id).Recoverable original)
    (works : ∀ index, (answers index).error = none)
    (named : ∀ gw, (helper.session id).gw = some gw → gw.ifName ≠ "")
    (kept : ∀ gw, (helper.session id).gw = some gw →
      (helper.session id).ipv6For = "" ∨ (helper.session id).ipv6For = gw.ifName ∨
        setting (helper.kernel.ipv6 gw.ifName) = "1") :
    (((Work.on handleDisableIPv6 id).exec answers helper).1.enforcement id).Recoverable
      original := by
  rw [handleDisableIPv6, lockedRead, exec_lockedView]
  cases found : (helper.session id).gw with
  | none =>
    simp only [Helper.scope, found]
    exact recoverable
  | some gw =>
    simp only [Helper.scope, found]
    rw [exec_query]
    rw [exec_change]
    simp only [works]
    let written := { helper with kernel := helper.kernel.writeIPv6Disabled gw.ifName "1" }
    have captured := @recoverable_capture original (written.scope id) gw.ifName
      (helper.kernel.ipv6 gw.ifName)
      (Netd.Recoverable.disable recoverable (named gw found) (kept gw found))
    exact recoverable_of_settings
      (congrArg Enforcement.settings (@enforcement_restore written id bound _)) captured

theorem exec_restoreIPv6 (ipv6For ipv6Was : String) (worked : (answers 0).error = none) :
    ((Work.on (restoreIPv6 ipv6For ipv6Was) id).exec answers helper).1.kernel.ipv6 =
      if ipv6For = "" then helper.kernel.ipv6
      else update helper.kernel.ipv6 ipv6For ipv6Was := by
  unfold restoreIPv6
  split
  · rfl
  · change (if (answers 0).made then _ else _ : Kernel).ipv6 = _
    rw [Answer.made, worked]
    rfl

theorem aside_restore_session (ipv6For ipv6Was : String) :
    Aside (fun seen => (seen.ipv6For, seen.ipv6Was)) (restoreIPv6 ipv6For ipv6Was) := by
  unfold restoreIPv6
  split
  · exact spares_pure _
  · exact spares_attempt fun _ => rfl

theorem recoverable_handleEnableIPv6 (bound : id < helper.sessions.length)
    (recoverable : (helper.enforcement id).Recoverable original)
    (works : ∀ index, (answers index).error = none) :
    (((Work.on handleEnableIPv6 id).exec answers helper).1.enforcement id).Recoverable
      original := by
  rw [handleEnableIPv6, exec_locked, exec_then]
  let scope := helper.scope id
  let forgot := helper.restore id
    { scope with session := { scope.session with ipv6For := "", ipv6Was := "" } }
  have inside : id < forgot.sessions.length := bound.trans_eq (List.length_modify ..).symm
  have empty : ((forgot.enforcement id).ipv6For, (forgot.enforcement id).ipv6Was) = ("", "") :=
    congrArg (fun seen : Enforcement => (seen.ipv6For, seen.ipv6Was)) (enforcement_restore bound _)
  obtain ⟨-, -, same⟩ := aside_exec
    (aside_restore_session scope.session.ipv6For scope.session.ipv6Was) inside
      (laterAnswers answers)
  obtain ⟨noName, noValue⟩ := Prod.mk.inj (same.trans empty)
  have written := @exec_restoreIPv6 forgot id (laterAnswers answers) scope.session.ipv6For
    scope.session.ipv6Was (works 1)
  exact recoverable_of_settings (Prod.ext noName (Prod.ext noValue written))
    (.fresh (Netd.Recoverable.restore recoverable) "")

/-- Up to the write, a teardown changes neither the settings nor what is remembered. -/
theorem tracks_beforeRestore {Allowed : Answer → Prop} {seen : Enforcement} :
    beforeRestore.Tracks Scope.enforcement Allowed (fun after captured => after = seen ∧
      captured = if seen.armed then none else some (seen.ipv6For, seen.ipv6Was)) seen := by
  have read : ∀ {α : Type} (field : SessionState → α) (view : Enforcement → α),
      (∀ scope : Scope, field scope.session = view scope.enforcement) →
      (bareRead field).Tracks Scope.enforcement Allowed
        (fun after result => after = seen ∧ result = view seen) seen := by
    intro α field view same
    refine Task.tracks_await fun scope _ _ observed => ?_
    exact ⟨observed, observed ▸ same scope⟩
  refine (@aside_releaseDNS _ (fun seen => seen) Allowed seen).bind ?_
  rintro _ _ rfl
  refine (@aside_revokeServedEgress _ (fun seen => seen) Allowed _).bind ?_
  rintro _ _ rfl
  refine (read SessionState.killSwitchArmed Enforcement.armed fun _ => rfl).bind ?_
  rintro _ armed ⟨rfl, rfl⟩
  split
  · exact ⟨rfl, rfl⟩
  · refine (@aside_reapRoutes _ (fun seen => seen) Allowed _).bind ?_
    rintro _ _ rfl
    exact read _ (fun seen => some (seen.ipv6For, seen.ipv6Was)) fun _ => rfl

/-- A teardown gives every setting back, unless it forgets one while armed. -/
theorem restored_teardown (bound : id < helper.sessions.length)
    (recoverable : (helper.enforcement id).Recoverable original)
    (works : ((Work.on beforeRestore id).leftover answers helper 0).error = none)
    (kept : (helper.session id).killSwitchArmed →
      (helper.session id).ipv6For = "" ∨ setting (helper.session id).ipv6Was = "1")
    (name : String) :
    setting (((Work.on teardown id).exec answers helper).1.kernel.ipv6 name) =
      setting (original name) := by
  obtain ⟨-, -, same, captured⟩ := @exec_on _ _ _ _ _ _ _ answers (fun seen => seen) bound
    (fun _ => trivial) (@tracks_beforeRestore (fun _ => True) (helper.enforcement id))
  have untouched : ((Work.on beforeRestore id).exec answers helper).1.kernel.ipv6 =
      helper.kernel.ipv6 := congrArg Enforcement.ipv6 same
  rw [teardown_eq, exec_then, captured]
  cases armed : (helper.enforcement id).armed with
  | true =>
    change setting (((Work.on beforeRestore id).exec answers helper).1.kernel.ipv6 name) = _
    rw [untouched]
    exact Netd.Recoverable.forget recoverable (kept armed) name
  | false =>
    simp only [Bool.false_eq_true, if_false]
    rw [exec_restoreIPv6 _ _ works, untouched]
    exact Netd.Recoverable.restore recoverable name

end

/-- Reads and writes of the setting succeed. They are the only calls of a disable and an enable, and
the last of a teardown; no interface has an empty name. -/
def SettingsWork (helper : Helper) : ClientLabel → Prop
  | .request _ _ req exchange =>
    match Verb.parse req.verb with
    | some .disablePhysicalIPv6 =>
      (∀ index, (exchange.answers index).error = none) ∧
        ∀ id gw, helper.sess = some id → (helper.session id).gw = some gw → gw.ifName ≠ ""
    | some .enablePhysicalIPv6 => ∀ index, (exchange.answers index).error = none
    | _ => True
  | .gone answers => ∀ id, helper.sess = some id →
      ((Work.on beforeRestore id).leftover answers { helper with sess := none } 0).error = none

/-- Nothing is lost with the memory of the session. -/
def Forgettable (session : SessionState) : Prop :=
  session.ipv6For = "" ∨ setting session.ipv6Was = "1"

/-- No disable leaves the remembered interface for one with IPv6, and no session with something to
give back is closed, or lost while armed. -/
def RecordKept (helper : Helper) : ClientLabel → Prop
  | .request _ _ req _ => ∀ id, helper.sess = some id →
      req.token = (helper.session id).token →
      match Verb.parse req.verb with
      | some .disablePhysicalIPv6 => ∀ gw, (helper.session id).gw = some gw →
          (helper.session id).ipv6For = "" ∨ (helper.session id).ipv6For = gw.ifName ∨
            setting (helper.kernel.ipv6 gw.ifName) = "1"
      | some .close => Forgettable (helper.session id).toSessionState
      | _ => True
  | .gone _ => ∀ id, helper.sess = some id → (helper.session id).killSwitchArmed →
      Forgettable (helper.session id).toSessionState

/-- The settings are given back, or the open session remembers how. -/
structure Restorable (original : String → String) (helper : Helper) : Prop where
  slot : ∀ {id}, helper.sess = some id → id < helper.sessions.length
  idle : helper.sess = none → ∀ name, setting (helper.kernel.ipv6 name) = setting (original name)
  held : ∀ {id}, helper.sess = some id → (helper.enforcement id).Recoverable original

section

variable {original : String → String} {helper : Helper} {id : SessionId} {answers : Nat → Answer}

theorem restorable_of_idle (empty : helper.sess = none)
    (same : ∀ name, setting (helper.kernel.ipv6 name) = setting (original name)) :
    Restorable original helper where
  slot taken := by rw [empty] at taken; cases taken
  idle _ := same
  held taken := by rw [empty] at taken; cases taken

theorem restorable_initial (valid : (clients original).initial helper) :
    Restorable original helper :=
  restorable_of_idle valid.2.1 fun name => by rw [valid.2.2.2]

theorem Restorable.exec {α : Type} {work : Work α} (restorable : Restorable original helper)
    (slot : helper.sess = some id)
    (ends : (((Work.on work id).exec answers helper).1.enforcement id).Recoverable original) :
    Restorable original ((Work.on work id).exec answers helper).1 := by
  obtain ⟨sess, -⟩ := exec_frame work (restorable.slot slot) answers
  refine ⟨fun taken => (exec_slot (restorable.slot slot) slot taken).2, fun empty => ?_,
    fun taken => ?_⟩
  · rw [sess, slot] at empty
    cases empty
  · rw [(exec_slot (restorable.slot slot) slot taken).1]
    exact ends

theorem Restorable.aside {α : Type} {work : Work α} (aside : Aside Enforcement.settings work)
    (restorable : Restorable original helper) (slot : helper.sess = some id) :
    Restorable original ((Work.on work id).exec answers helper).1 := by
  obtain ⟨-, -, same⟩ := aside_exec aside (restorable.slot slot) answers
  exact restorable.exec slot (recoverable_of_settings same (restorable.held slot))

variable {exchange : Exchange}

theorem restorable_handled {req : Request} {conn : ConnId} {uid : UInt32}
    (restorable : Restorable original helper) (slot : helper.sess = some id)
    (authorised : req.token = (helper.session id).token)
    (works : SettingsWork helper (.request conn uid req exchange))
    (kept : RecordKept helper (.request conn uid req exchange)) :
    Restorable original ((Work.on (handle req) id).exec exchange.answers helper).1 := by
  have bound := restorable.slot slot
  have held := restorable.held slot
  by_cases other : (Verb.parse req.verb).any Verb.enforces = false
  · exact restorable.aside (aside_handle other) slot
  · rw [Bool.not_eq_false, Option.any_eq_true] at other
    obtain ⟨verb, named, enforces⟩ := other
    have record := kept id slot authorised
    simp only [SettingsWork, named] at works
    simp only [named] at record
    simp only [handle, named]
    cases verb with
    | disablePhysicalIPv6 =>
      exact restorable.exec slot (recoverable_handleDisableIPv6 bound held works.1
        (fun gw => works.2 id gw slot) record)
    | enablePhysicalIPv6 =>
      exact restorable.exec slot (recoverable_handleEnableIPv6 bound held works)
    | enableKillSwitch => exact restorable.aside (aside_handleEnableKillSwitch req) slot
    | disableKillSwitch => exact restorable.aside aside_handleDisableKillSwitch slot
    | recoverKillSwitch => exact restorable.aside aside_handleRecoverKillSwitch slot
    | _ => cases enforces

theorem restorable_opened {cleared : Helper} {conn : ConnId} {uid : UInt32}
    (restorable : Restorable original helper) (empty : helper.sess = none)
    (reaped : Reaped helper cleared exchange.answers) :
    Restorable original (install conn uid cleared exchange.mint).1 := by
  have same : ∀ name, setting (cleared.kernel.ipv6 name) = setting (original name) :=
    reaped.ipv6 ▸ restorable.idle empty
  rcases install_cases conn uid cleared exchange.mint with unchanged | ⟨sess, length, seen⟩
  · rw [unchanged]
    exact restorable_of_idle (reaped.sess.trans empty) same
  · refine ⟨fun taken => ?_, fun none => ?_, fun taken => ?_⟩
    · rw [sess] at taken
      cases taken
      rw [length]
      exact Nat.lt_succ_self _
    · rw [sess] at none
      cases none
    · rw [sess] at taken
      cases taken
      exact recoverable_of_settings (congrArg Enforcement.settings seen) (.fresh same "")

/-- Every request keeps the settings restorable. -/
theorem restorable_step {next : Helper} {label : ClientLabel}
    (restorable : Restorable original helper)
    (guard : SettingsWork helper label ∧ RecordKept helper label)
    (moves : (clients original).step helper label = some next) : Restorable original next := by
  obtain ⟨works, kept⟩ := guard
  cases served_of_step moves with
  | answered | idle => exact restorable
  | opened empty verb reaped => exact restorable_opened restorable empty reaped
  | handled slot authorised => exact restorable_handled restorable slot authorised works kept
  | @closed conn uid req exchange id slot authorised verb =>
    have record := kept id slot authorised
    simp only [verb] at record
    have bound : id < { helper with sess := none }.sessions.length := restorable.slot slot
    have aside : Aside Enforcement.ipv6 closeSession := aside_closeSession
    obtain ⟨sess, -, same⟩ := aside_exec aside bound exchange.answers
    refine restorable_of_idle sess fun name => ?_
    have untouched : ((Work.on closeSession id).exec exchange.answers
        { helper with sess := none }).1.kernel.ipv6 = helper.kernel.ipv6 := same
    rw [untouched]
    exact Netd.Recoverable.forget (restorable.held slot) record name
  | @gone answers id slot =>
    have bound : id < { helper with sess := none }.sessions.length := restorable.slot slot
    refine restorable_of_idle (exec_frame teardown bound answers).1 ?_
    exact restored_teardown bound (restorable.held slot) (works id slot) (kept id slot)

/-- While reads and writes of the setting succeed and no memory that matters is given up, every
interface has its own setting when no session is open. -/
theorem settings_restored {labels : List ClientLabel} (runs : (clients original).Runs
      (fun helper label => SettingsWork helper label ∧ RecordKept helper label) labels helper)
    (closed : helper.sess = none) (name : String) :
    setting (helper.kernel.ipv6 name) = setting (original name) := by
  have restorable : Restorable original helper := runs.invariant restorable_initial restorable_step
  exact restorable.idle closed name

end

theorem settingsWork_gone {helper : Helper} {answers : Nat → Answer}
    (works : ∀ index, (answers index).error = none) : SettingsWork helper (.gone answers) := by
  intro id _
  exact @Task.leftover_every _ _ _ _ (fun answer : Answer => answer.error = none) _ works _ 0

/-- The default route goes through `eth0`. -/
def throughEth0 : Exchange where
  answers _ := { gateway := ⟨.v4 0xc0a80001#32, 2, "eth0", none⟩ }
  mint := {}

/-- A session that reads the default route and disables IPv6. -/
def disables : List ClientLabel :=
  [sends .open smooth, sends .defaultGateway throughEth0, sends .disablePhysicalIPv6 smooth]

/-- What a look at the helper shows: session, and setting of `eth0`. -/
def Helper.eth0 (helper : Helper) : Option SessionId × String :=
  (helper.sess, setting (helper.kernel.ipv6 "eth0"))

/-- A session that disables, enables and closes gives the setting back. -/
theorem enable_restores :
    ∃ helper, (clients fun _ => "0\n").Runs
        (fun helper label => SettingsWork helper label ∧ RecordKept helper label)
        (disables ++ [sends .enablePhysicalIPv6 smooth, sends .close smooth]) helper ∧
      helper.eth0 = (none, "0") ∧
      setting (helper.kernel.ipv6 "eth0") = setting "0\n" := by
  let labels := disables ++ [sends .enablePhysicalIPv6 smooth, sends .close smooth]
  have met : (clients fun _ => "0\n").Meets
      (fun helper label => SettingsWork helper label ∧ RecordKept helper label) {} labels := by
    refine ⟨⟨trivial, fun _ _ _ => trivial⟩, ⟨trivial, fun _ _ _ => trivial⟩,
      ⟨⟨fun _ => rfl, ?_⟩, ?_⟩,
      ⟨fun _ => rfl, fun _ _ _ => trivial⟩, ⟨trivial, ?_⟩, trivial⟩
    · intro id gw slot read
      cases slot
      cases read
      decide
    · intro id slot _ gw _
      cases slot
      exact .inl rfl
    · intro id slot _
      cases slot
      exact .inl rfl
  obtain ⟨helper, runs, shows⟩ : ∃ helper, (clients fun _ => "0\n").Runs
      (fun helper label => SettingsWork helper label ∧ RecordKept helper label) labels helper ∧
      helper.eth0 = (none, "0") := Machine.exists_runs initial_clients met (by decide)
  exact ⟨helper, runs, shows, settings_restored runs (congrArg Prod.fst shows) "eth0"⟩

/-- A client lost while armed takes the memory with it: the next session takes the disabled setting
for the original, and restores that. -/
theorem armed_loss_forgets :
    ∃ labels helper, (clients fun _ => "0\n").Runs SettingsWork
        (labels ++ disables ++ [sends .enablePhysicalIPv6 smooth, sends .close smooth]) helper ∧
      helper.eth0 = (none, "1") := by
  let first := disables ++ [sends .createTUN smooth, sends .enableKillSwitch smooth,
    .gone smooth.answers]
  let labels := first ++ disables ++ [sends .enablePhysicalIPv6 smooth, sends .close smooth]
  have met : (clients fun _ => "0\n").Meets SettingsWork {} labels := by
    refine ⟨trivial, trivial, ⟨fun _ => rfl, ?_⟩, trivial, trivial, settingsWork_gone fun _ => rfl,
      trivial, trivial, ⟨fun _ => rfl, ?_⟩, fun _ => rfl, trivial, trivial⟩
    all_goals
      intro id gw slot read
      cases slot
      cases read
      decide
  exact ⟨first, Machine.exists_runs initial_clients met (by decide)⟩

end Bacchus.Netd
