import Mathlib.Data.List.Basic
import Mathlib.Order.Defs.PartialOrder

/-!
# Labelled machines and their guarded runs

A machine is an executable step function: a label that is not enabled yields `none`. `Runs` keeps
the labels of a finite run and carries a guard that every step has met.
-/

namespace Bacchus

open Option

universe u v

/-- A machine over explicit states, stepped by labels chosen from outside. -/
structure Machine (State : Type u) (Label : Type v) where
  initial : State → Prop
  /-- The successor, or `none` when the label is not enabled in this state. -/
  step : State → Label → Option State

namespace Machine

variable {State : Type u} {Label : Type v} (machine : Machine State Label)

/-- The trivial guard, met by every step. -/
def free (_ : State) (_ : Label) : Prop := True

/-- Finite runs from an initial state whose steps all met `guard`. -/
inductive Runs (guard : State → Label → Prop) : List Label → State → Prop where
  | initial {state} (valid : machine.initial state) : Runs guard [] state
  | step {labels state label next} (prior : Runs guard labels state)
      (met : guard state label) (moves : machine.step state label = some next) :
      Runs guard (labels ++ [label]) next

/-- Follow a list of labels, stopping at the first one that is not enabled. -/
def follow : State → List Label → Option State
  | state, [] => some state
  | state, label :: labels => (machine.step state label).bind fun next => follow next labels

/-- Every step taken along `labels` meets `guard`. -/
def Meets (guard : State → Label → Prop) : State → List Label → Prop
  | _, [] => True
  | state, label :: labels =>
    guard state label ∧
      match machine.step state label with
      | some next => Meets guard next labels
      | none => True

/-- `Property` holds in every state along `labels`, the first included. -/
def Throughout (Property : State → Prop) : State → List Label → Prop
  | state, [] => Property state
  | state, label :: labels =>
    Property state ∧
      match machine.step state label with
      | some next => Throughout Property next labels
      | none => True

instance decidableMeets (guard : State → Label → Prop)
    [decide : ∀ state label, Decidable (guard state label)] :
    (state : State) → (labels : List Label) → Decidable (machine.Meets guard state labels)
  | _, [] => inferInstanceAs (Decidable True)
  | state, label :: labels =>
      match found : machine.step state label with
      | some next =>
          have := decidableMeets guard next labels
          decidable_of_iff (guard state label ∧ machine.Meets guard next labels)
            (by simp only [Meets, found])
      | none => decidable_of_iff (guard state label) (by simp only [Meets, found, and_true])

variable {machine} {guard : State → Label → Prop} {labels : List Label}

/-- Labels that meet the guard in every state meet it along any run. -/
theorem meets_of_forall (every : ∀ state, ∀ label ∈ labels, guard state label) (state : State) :
    machine.Meets guard state labels := by
  induction labels generalizing state with
  | nil => trivial
  | cons label labels ih =>
    refine ⟨every state label (.head _), ?_⟩
    cases machine.step state label with
    | none => trivial
    | some next => exact ih (fun state other member => every state other (.tail _ member)) next

/-- Nothing is asked of a free run. -/
theorem meets_free (state : State) (labels : List Label) : machine.Meets free state labels :=
  meets_of_forall (fun _ _ _ => trivial) state

variable {state final : State}

/-- Guards that agree on every enabled step from a state of an invariant are met by the same runs
from there. -/
theorem meets_iff {other : State → Label → Prop} {Invariant : State → Prop}
    (agree : ∀ {state label next}, Invariant state → machine.step state label = some next →
      (guard state label ↔ other state label))
    (preserved : ∀ {state label next}, Invariant state → guard state label →
      machine.step state label = some next → Invariant next) (holds : Invariant state)
    (followed : machine.follow state labels = some final) :
    machine.Meets guard state labels ↔ machine.Meets other state labels := by
  induction labels generalizing state with
  | nil => exact Iff.rfl
  | cons label labels ih =>
    obtain ⟨next, moves, rest⟩ := bind_eq_some_iff.mp followed
    simp only [Meets, moves]
    rw [← agree holds moves]
    refine and_congr_right fun met => ?_
    exact ih (preserved holds met moves) rest

variable {Property : State → Prop}

/-- A property each step keeps exactly under a condition holds throughout exactly the runs whose
steps all meet it. -/
theorem throughout_iff_meets {condition : State → Label → Prop}
    (exactly : ∀ {state label next}, Property state → machine.step state label = some next →
      (Property next ↔ condition state label)) (holds : Property state)
    (followed : machine.follow state labels = some final) :
    machine.Throughout Property state labels ↔ machine.Meets condition state labels := by
  induction labels generalizing state with
  | nil => exact iff_of_true holds trivial
  | cons label labels ih =>
    obtain ⟨next, moves, rest⟩ := bind_eq_some_iff.mp followed
    simp only [Throughout, Meets, moves]
    constructor
    · rintro ⟨_, later⟩
      have kept : Property next := by
        cases labels with
        | nil => exact later
        | cons => exact later.1
      exact ⟨(exactly holds moves).mp kept, (ih kept rest).mp later⟩
    · rintro ⟨met, later⟩
      have kept := (exactly holds moves).mpr met
      exact ⟨holds, (ih kept rest).mpr later⟩

/-- One run after another. -/
theorem follow_append (state : State) (labels more : List Label) :
    machine.follow state (labels ++ more) =
      (machine.follow state labels).bind fun middle => machine.follow middle more := by
  induction labels generalizing state with
  | nil => rfl
  | cons label labels ih =>
    rw [List.cons_append, Machine.follow, Machine.follow, bind_assoc]
    congr 1
    funext next
    exact ih next

/-- Which states are initial does not matter to following labels. -/
theorem follow_congr {other : Machine State Label} (same : machine.step = other.step)
    (state : State) (labels : List Label) :
    machine.follow state labels = other.follow state labels := by
  induction labels generalizing state with
  | nil => rfl
  | cons label labels ih =>
    rw [Machine.follow, Machine.follow, same]
    congr 1
    funext next
    exact ih next

/-- Extend a run by labels that can be followed from its last state. -/
theorem Runs.follow {more : List Label} (prior : machine.Runs guard labels state)
    (followed : machine.follow state more = some final) (met : machine.Meets guard state more) :
    machine.Runs guard (labels ++ more) final := by
  induction more generalizing labels state with
  | nil =>
    cases followed
    simpa using prior
  | cons label more ih =>
    obtain ⟨_, moves, rest⟩ := bind_eq_some_iff.mp followed
    simp only [Meets, moves] at met
    simpa using ih (prior.step met.1 moves) rest met.2

/-- Labels that can be followed from an initial state are a run. -/
theorem Runs.ofFollow (valid : machine.initial state)
    (followed : machine.follow state labels = some final) (met : machine.Meets guard state labels) :
    machine.Runs guard labels final := by
  have start : machine.Runs guard [] state := .initial valid
  simpa using start.follow followed met

/-- A computed run ends in a state that has what is computed of it. -/
theorem exists_runs [DecidablePred Property] (valid : machine.initial state)
    (met : machine.Meets guard state labels)
    (computed : (machine.follow state labels).any (Property ·)) :
    ∃ final, machine.Runs guard labels final ∧ Property final := by
  obtain ⟨final, followed, holds⟩ := (any_eq_true _ _).mp computed
  exact ⟨final, .ofFollow valid followed met, of_decide_eq_true holds⟩

/-- A reflexive and transitive relation that every guarded step keeps from a state satisfying an
invariant holds between the ends of any number of them. -/
theorem follow_related {Related : State → State → Prop} {Invariant : State → Prop}
    (refl : ∀ state, Related state state)
    (trans : ∀ {first second third}, Related first second → Related second third →
      Related first third)
    (preserved : ∀ {state label next}, Invariant state → guard state label →
      machine.step state label = some next → Invariant next ∧ Related state next)
    {labels : List Label} {state final : State} (holds : Invariant state)
    (followed : machine.follow state labels = some final)
    (met : machine.Meets guard state labels) : Invariant final ∧ Related state final := by
  induction labels generalizing state with
  | nil =>
    cases followed
    exact ⟨holds, refl _⟩
  | cons label labels ih =>
    obtain ⟨next, moves, rest⟩ := bind_eq_some_iff.mp followed
    simp only [Meets, moves] at met
    obtain ⟨kept, first⟩ := preserved holds met.1 moves
    obtain ⟨settled, later⟩ := ih kept rest met.2
    exact ⟨settled, trans first later⟩

/-- A view that every fitting step can be followed in shows the whole run. -/
theorem follow_map {View : Type*} {Reading : Type*} {image : Machine View Reading}
    {view : State → View} {read : Label → Reading} {Fit : Label → Prop}
    (commutes : ∀ state label, Fit label →
      image.step (view state) (read label) = (machine.step state label).map view)
    (fit : ∀ label ∈ labels, Fit label) (state : State) :
    image.follow (view state) (labels.map read) = (machine.follow state labels).map view := by
  induction labels generalizing state with
  | nil => rfl
  | cons label labels ih =>
    have rest := ih fun other member => fit other (.tail _ member)
    rw [List.map_cons, Machine.follow, Machine.follow, commutes state label (fit label (.head _))]
    cases machine.step state label with
    | none => rfl
    | some next => exact rest next

/-- A level that no guarded step lowers is not lowered by many of them. -/
theorem le_follow {Level : Type*} [Preorder Level] {level : State → Level}
    (raised : ∀ {state label next}, guard state label → machine.step state label = some next →
      level state ≤ level next) (followed : machine.follow state labels = some final)
    (met : machine.Meets guard state labels) : level state ≤ level final := by
  have related := @follow_related _ _ machine guard (fun state next => level state ≤ level next)
    (fun _ => True) (fun _ => le_rfl) (fun first second => le_trans first second)
    (fun _ met moves => ⟨trivial, raised met moves⟩) labels state final trivial followed met
  exact related.2

/-- A relation between the labels taken and the state reached that holds initially
and is kept by every guarded step holds after every guarded run. -/
theorem Runs.history {Invariant : List Label → State → Prop}
    (initially : ∀ {state}, machine.initial state → Invariant [] state)
    (preserved : ∀ {labels state label next}, Invariant labels state → guard state label →
      machine.step state label = some next → Invariant (labels ++ [label]) next)
    (runs : machine.Runs guard labels state) : Invariant labels state := by
  induction runs with
  | initial valid => exact initially valid
  | step _ met moves ih => exact preserved ih met moves

/-- The same rule for an invariant of the state alone. -/
theorem Runs.invariant {Invariant : State → Prop}
    (initially : ∀ {state}, machine.initial state → Invariant state)
    (preserved : ∀ {state label next}, Invariant state → guard state label →
      machine.step state label = some next → Invariant next)
    {labels : List Label} {state : State} (runs : machine.Runs guard labels state) :
    Invariant state :=
  runs.history initially preserved

end Machine

end Bacchus
