import Mathlib.Data.List.Basic

/-!
# A start that fails

`Start` dials the coordinators and binds up to two listeners. On a later failure it closes the
links and, if the engine was stopped meanwhile, the listener just bound; one handed over before is
left to `Stop`.
-/

namespace Bacchus.Engine

/-- A listener that `Start` binds. -/
inductive Listener where
  | exit | ingress
deriving DecidableEq

structure StartConfig where
  coordinators : List String
  exitRole : Bool
  forwardOn : Bool

/-- What a call of `Start` meets. -/
structure Surroundings where
  started : Bool := false
  dials : String → Bool := fun _ => true
  binds : Listener → Bool := fun _ => true
  /-- `Stop` has set `stopped` when the listener is handed over. -/
  stopped : Listener → Bool := fun _ => false
  /-- A concurrent `Stop` has closed the listeners it took when `Start` returns. -/
  swept : Bool := false

inductive StartError where
  | alreadyStarted
  | noCoordinator (pool : List String)
  | listen (listener : Listener)
  | engineStopped

/-- The texts, without the error of the operating system behind them. -/
def StartError.text : StartError → String
  | .alreadyStarted => "core: engine already started"
  | .noCoordinator pool => "core: no usable coordinator in pool [" ++ " ".intercalate pool ++ "]"
  | .listen .exit => "core: exit listen"
  | .listen .ingress => "core: relay ingress listen"
  | .engineStopped => "core: engine stopped"

/-- What a call of `Start` has opened and nobody has closed. -/
structure Sockets where
  links : List String := []
  listeners : List Listener := []

def Sockets.closeLinks (sockets : Sockets) : Sockets := { sockets with links := [] }

variable (cfg : StartConfig) (around : Surroundings)

def dialPool : List String := cfg.coordinators.filter around.dials

/-- `net.Listen` and `addListener`, which closes a listener that it refuses. -/
def listen (listener : Listener) (sockets : Sockets) : Except (StartError × Sockets) Sockets :=
  if !around.binds listener then .error (.listen listener, sockets.closeLinks)
  else if around.stopped listener then .error (.engineStopped, sockets.closeLinks)
  else .ok { sockets with listeners := sockets.listeners ++ [listener] }

def bindAll (sockets : Sockets) : Except (StartError × Sockets) Sockets := do
  let sockets ← if cfg.exitRole then listen around .exit sockets else pure sockets
  if cfg.forwardOn then listen around .ingress sockets else pure sockets

def sweep (sockets : Sockets) : Sockets :=
  if around.swept then { sockets with listeners := [] } else sockets

/-- `Start`, with what is open when it returns. -/
def start : Except (StartError × Sockets) Sockets :=
  if around.started then .error (.alreadyStarted, {})
  else if dialPool cfg around = [] then .error (.noCoordinator cfg.coordinators, {})
  else
    match bindAll cfg around { links := dialPool cfg around } with
    | .error (error, sockets) => .error (error, sweep around sockets)
    | .ok sockets => .ok (sweep around sockets)

/-- The exit listener is handed over. -/
def exitServes : Bool := cfg.exitRole && around.binds .exit && !around.stopped .exit

variable {cfg around} {sockets left : Sockets} {error : StartError} {listener : Listener}

theorem listen_error (failed : listen around listener sockets = .error (error, left)) :
    left = sockets.closeLinks ∧ (around.binds listener && !around.stopped listener) = false := by
  unfold listen at failed
  split_ifs at failed with unbound stopped
  all_goals
    cases failed
    exact ⟨rfl, by simp_all⟩

theorem listen_ok (bound : listen around listener sockets = .ok left) :
    left.listeners ≠ [] ∧ (around.binds listener && !around.stopped listener) := by
  unfold listen at bound
  split_ifs at bound with unbound stopped
  cases bound
  exact ⟨by simp, by simp_all⟩

/-- A bind that fails leaves no link, and the listener bound before it. -/
theorem bindAll_error (fresh : sockets.listeners = [])
    (failed : bindAll cfg around sockets = .error (error, left)) :
    left.links = [] ∧ (left.listeners = [] ↔ exitServes cfg around = false) := by
  have second : ∀ first : Sockets,
      (if cfg.forwardOn then listen around .ingress first else pure first) =
        .error (error, left) → left = first.closeLinks := by
    intro first failed
    split_ifs at failed
    · exact (listen_error failed).1
    · cases failed
  cases exitRole : cfg.exitRole with
  | false =>
    simp only [bindAll, exitRole, Bool.false_eq_true, if_false] at failed
    rw [second sockets failed]
    simp [exitServes, exitRole, Sockets.closeLinks, fresh]
  | true =>
    simp only [bindAll, exitRole, if_true] at failed
    cases bound : listen around .exit sockets with
    | error =>
      rw [bound] at failed
      cases failed
      obtain ⟨rfl, unserved⟩ := listen_error bound
      simpa [exitServes, exitRole, Sockets.closeLinks, fresh] using unserved
    | ok first =>
      rw [bound] at failed
      obtain ⟨kept, served⟩ := listen_ok bound
      rw [second first failed]
      simpa [exitServes, exitRole, Sockets.closeLinks, kept] using served

/-- What a failed call of `Start` has opened is closed exactly when it did not get to handing over
the exit listener, or a concurrent `Stop` has closed that one. -/
theorem failed_start_closes_iff (failed : start cfg around = .error (error, left)) :
    left = {} ↔ (around.started = true ∨ dialPool cfg around = [] ∨
      exitServes cfg around = false ∨ around.swept = true) := by
  unfold start at failed
  split_ifs at failed with started undialled
  · cases failed
    simp [started]
  · cases failed
    simp [undialled]
  · cases bound : bindAll cfg around { links := dialPool cfg around } with
    | ok =>
      rw [bound] at failed
      cases failed
    | error failure =>
      obtain ⟨_, sockets⟩ := failure
      obtain ⟨_, _⟩ := bindAll_error rfl bound
      rw [bound] at failed
      cases failed
      cases sockets
      cases swept : around.swept <;> simp_all [sweep]

/-- An exit and relay with one coordinator, and one address taken. -/
def taken (listener : Listener) : Surroundings where
  binds other := other ≠ listener

def exitAndRelay : StartConfig := ⟨["10.0.0.1:9000"], true, true⟩

/-- The exit's address is taken: nothing is left open. -/
theorem exit_bind_failure_closes :
    start exitAndRelay (taken .exit) = .error (.listen .exit, {}) ∧
      exitServes exitAndRelay (taken .exit) = false :=
  ⟨rfl, by
    have closes := failed_start_closes_iff
      (rfl : start exitAndRelay (taken .exit) = .error (.listen .exit, {}))
    simpa [exitAndRelay, taken, dialPool] using closes.mp rfl⟩

/-- The ingress's address is taken: `Start` fails, and the exit's listener goes on serving. -/
theorem ingress_bind_failure_strands_exit :
    start exitAndRelay (taken .ingress) = .error (.listen .ingress, ⟨[], [.exit]⟩) :=
  rfl

end Bacchus.Engine
