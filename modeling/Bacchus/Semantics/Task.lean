import Mathlib.Data.List.Basic

/-!
# Tasks: programs cut at their atomic actions

A task is a sequential program over a shared state, cut where another thread may be scheduled. One
action reads the state and one answer from outside, updates the state, and chooses the rest of the
task. `ready` is the condition an action blocks on.

`exec` runs a task without interruption; `EveryAction` speaks about each action under any
interleaving; `Tracks` speaks about how the task ends.
-/

namespace Bacchus

/-- A sequential program over a shared `State`, with `Answer`s from outside. -/
inductive Task (State Answer Result : Type) : Type where
  | done (result : Result)
  | act (ready : State → Bool) (effect : State → Answer → State)
      (next : State → Answer → Task State Answer Result)

namespace Task

variable {State Answer Result Other : Type}

/-- Sequential composition: the second task starts with the first one's result. -/
def bind : Task State Answer Result → (Result → Task State Answer Other) → Task State Answer Other
  | done result, rest => rest result
  | act ready effect next, rest => act ready effect fun state answer =>
    (next state answer).bind rest

instance : Monad (Task State Answer) where
  pure := done
  bind := bind

/-- One action that blocks until `ready` holds, then updates and returns at once. -/
def await (ready : State → Bool) (body : State → Answer → State × Result) :
    Task State Answer Result :=
  act ready (fun state answer => (body state answer).1)
    fun state answer => done (body state answer).2

/-- One action that never blocks. -/
def atomically (body : State → Answer → State × Result) : Task State Answer Result :=
  await (fun _ => true) body

/-- Run `body` on every element in order, as a `for` loop does. -/
def each {Item : Type} (body : Item → Task State Answer Unit) : List Item → Task State Answer Unit
  | [] => pure ()
  | item :: items => do
      body item
      each body items

@[simp] theorem pure_eq_done (result : Result) :
    (pure result : Task State Answer Result) = done result := rfl

@[simp] theorem done_bind (result : Result) (rest : Result → Task State Answer Other) :
    (done result >>= rest) = rest result := rfl

@[simp] theorem act_bind (ready : State → Bool) (effect : State → Answer → State)
    (next : State → Answer → Task State Answer Result) (rest : Result → Task State Answer Other) :
    (act ready effect next >>= rest) =
      act ready effect fun state answer => next state answer >>= rest := rfl

/-- Every action of the task, where it is ready, relates the state before, the answer and the state
after by `Relation`. -/
def EveryAction (Relation : State → Answer → State → Prop) : Task State Answer Result → Prop
  | done _ => True
  | act ready effect next =>
    (∀ state answer, ready state → Relation state answer (effect state answer)) ∧
      ∀ state answer, (next state answer).EveryAction Relation

variable {Relation : State → Answer → State → Prop}

/-- Run a task on the part `read` selects, written back after each action. -/
def zoom {Part : Type} (read : State → Part) (write : State → Part → State) :
    Task Part Answer Result → Task State Answer Result
  | done result => done result
  | act ready effect next =>
    act (fun state => ready (read state))
      (fun state answer => write state (effect (read state) answer))
      fun state answer => (next (read state) answer).zoom read write

/-- What holds of every write to the part holds of every action of a zoomed task. -/
theorem everyAction_zoom {Part : Type} {read : State → Part} {write : State → Part → State}
    (related : ∀ state answer part, Relation state answer (write state part))
    (task : Task Part Answer Result) : (task.zoom read write).EveryAction Relation := by
  induction task with
  | done => exact trivial
  | act ready effect next ih =>
    exact ⟨fun state answer _ => related state answer _, fun state answer => ih (read state) answer⟩

/-- Run a task to its end with no other thread in between, one answer of the stream per action. -/
def exec : Task State Answer Result → (Nat → Answer) → State → State × Result
  | done result, _, state => (state, result)
  | act _ effect next, answers, state =>
    (next state (answers 0)).exec (fun index => answers (index + 1)) (effect state (answers 0))

/-- The answers an uninterrupted run of the task has not drawn. -/
def leftover : Task State Answer Result → (Nat → Answer) → State → Nat → Answer
  | done _, answers, _ => answers
  | act _ effect next, answers, state =>
    (next state (answers 0)).leftover (fun index => answers (index + 1)) (effect state (answers 0))

variable (task : Task State Answer Result)

/-- What follows a task starts in the state it leaves, with the answers it leaves. -/
theorem exec_bind (rest : Result → Task State Answer Other)
    (answers : Nat → Answer) (state : State) :
    (task >>= rest).exec answers state =
      (rest (task.exec answers state).2).exec (task.leftover answers state)
        (task.exec answers state).1 := by
  induction task generalizing answers state with
  | done => rfl
  | act ready effect next ih => exact ih state (answers 0) _ _

/-- What holds of every answer holds of those left. -/
theorem leftover_every {Property : Answer → Prop}
    {answers : Nat → Answer} (every : ∀ index, Property (answers index)) (state : State)
    (index : Nat) : Property (task.leftover answers state index) := by
  induction task generalizing answers state with
  | done => exact every index
  | act ready effect next ih => exact ih state (answers 0) (fun index => every (index + 1)) _

/-- Composition is associative. -/
theorem bind_assoc {Last : Type}
    (second : Result → Task State Answer Other) (third : Other → Task State Answer Last) :
    task >>= second >>= third = task >>= fun result => second result >>= third := by
  induction task with
  | done => rfl
  | act ready effect next ih => simp only [act_bind, ih]

/-- Zooming keeps composition. -/
theorem zoom_bind {Part : Type} (read : State → Part) (write : State → Part → State)
    (task : Task Part Answer Result) (rest : Result → Task Part Answer Other) :
    (task >>= rest).zoom read write =
      task.zoom read write >>= fun result => (rest result).zoom read write := by
  induction task with
  | done => rfl
  | act ready effect next ih => simp only [act_bind, zoom, ih]

/-! ## Results and an observed part of the state

`Tracks` follows one observation of the state through a task. Other threads may change everything
else between two actions.
-/

section

variable {Observed : Type} {observe : State → Observed} {Allowed : Answer → Prop}

/-- From an `observed` start, with every answer `Allowed`, the task ends with an observation and a
result that satisfy `Post`. -/
def Tracks (observe : State → Observed) (Allowed : Answer → Prop)
    (Post : Observed → Result → Prop) : Observed → Task State Answer Result → Prop
  | observed, done result => Post observed result
  | observed, act _ effect next => ∀ state answer, Allowed answer → observe state = observed →
      (next state answer).Tracks observe Allowed Post (observe (effect state answer))

variable {Post : Observed → Result → Prop} {observed : Observed} {task : Task State Answer Result}

/-- The second task starts from what the first one ends with. -/
theorem Tracks.bind {Final : Observed → Other → Prop} {rest : Result → Task State Answer Other}
    (first : task.Tracks observe Allowed Post observed)
    (second : ∀ after result, Post after result → (rest result).Tracks observe Allowed
      Final after) :
    (task >>= rest).Tracks observe Allowed Final observed := by
  induction task generalizing observed with
  | done result => exact second observed result first
  | act ready effect next ih =>
    exact fun state answer allowed seen => ih state answer (first state answer allowed seen)

/-- A weaker end. -/
theorem Tracks.imp {Final : Observed → Result → Prop}
    (tracks : task.Tracks observe Allowed Post observed)
    (weaker : ∀ after result, Post after result → Final after result) :
    task.Tracks observe Allowed Final observed := by
  induction task generalizing observed with
  | done result => exact weaker observed result tracks
  | act ready effect next ih =>
    exact fun state answer allowed seen => ih state answer (tracks state answer allowed seen)

/-- Every task ends somehow. -/
theorem tracks_true (task : Task State Answer Result) :
    task.Tracks observe Allowed (fun _ _ => True) observed := by
  induction task generalizing observed with
  | done => trivial
  | act ready effect next ih => exact fun state answer _ _ => ih state answer

variable {ready : State → Bool} {body : State → Answer → State × Result}

/-- One action. -/
theorem tracks_await (holds : ∀ state answer, Allowed answer → observe state = observed →
      Post (observe (body state answer).1) (body state answer).2) :
    (await ready body).Tracks observe Allowed Post observed :=
  holds

/-- One action that is not observed. -/
theorem tracks_quiet (quiet : ∀ state answer, observe (body state answer).1 = observe state) :
    (await ready body).Tracks observe Allowed (fun after _ => after = observed) observed :=
  tracks_await fun state answer _ seen => (quiet state answer).trans seen

/-- A task on a part of the state is followed through the part, if the observation is made there. -/
theorem Tracks.zoom {Part : Type} {read : State → Part} {write : State → Part → State}
    {inner : Part → Observed} (reads : ∀ state, inner (read state) = observe state)
    (writes : ∀ state part, observe (write state part) = inner part)
    {task : Task Part Answer Result} (tracks : task.Tracks inner Allowed Post observed) :
    (task.zoom read write).Tracks observe Allowed Post observed := by
  induction task generalizing observed with
  | done => exact tracks
  | act ready effect next ih =>
    intro state answer allowed seen
    rw [writes]
    exact ih (read state) answer (tracks (read state) answer allowed ((reads state).trans seen))

/-- An uninterrupted run ends as tracked. -/
theorem Tracks.exec {answers : Nat → Answer} {state : State}
    (tracks : task.Tracks observe Allowed Post (observe state))
    (allowed : ∀ index, Allowed (answers index)) :
    Post (observe (task.exec answers state).1) (task.exec answers state).2 := by
  induction task generalizing answers state with
  | done => exact tracks
  | act ready effect next ih =>
    exact ih state (answers 0) (tracks state (answers 0) (allowed 0) rfl)
      fun index => allowed (index + 1)

/-- A task on a part of the state, run from a state with that part. -/
theorem Tracks.execZoom {Part : Type} {read : State → Part} {write : State → Part → State}
    {inner : Part → Observed} {Good : State → Prop}
    (keeps : ∀ {state} part, Good state → Good (write state part))
    (writes : ∀ {state} part, Good state → inner (read (write state part)) = inner part)
    {task : Task Part Answer Result} {answers : Nat → Answer} {state : State} (good : Good state)
    (allowed : ∀ index, Allowed (answers index))
    (tracks : task.Tracks inner Allowed Post (inner (read state))) :
    Good ((task.zoom read write).exec answers state).1 ∧
      Post (inner (read ((task.zoom read write).exec answers state).1))
        ((task.zoom read write).exec answers state).2 := by
  induction task generalizing answers state with
  | done => exact ⟨good, tracks⟩
  | act ready effect next ih =>
    have after := tracks (read state) (answers 0) (allowed 0) rfl
    rw [← writes (effect (read state) (answers 0)) good] at after
    exact ih (read state) (answers 0) (keeps _ good) (fun index => allowed (index + 1)) after

end

section

variable {Allowed : Answer → Prop} {Property : Result → Prop}

/-- With every answer `Allowed`, the result of the task satisfies `Property`. -/
def Yields (Allowed : Answer → Prop) (Property : Result → Prop)
    (task : Task State Answer Result) : Prop :=
  task.Tracks (fun _ => ()) Allowed (fun _ => Property) ()

variable {Final : Other → Prop} {task : Task State Answer Result}
  {rest : Result → Task State Answer Other}

/-- The second task starts from the first one's result. -/
theorem Yields.bind (first : task.Yields Allowed Property)
    (second : ∀ result, Property result → (rest result).Yields Allowed Final) :
    (task >>= rest).Yields Allowed Final :=
  Tracks.bind first fun _ => second

/-- A first task whose result does not matter. -/
theorem yields_after (second : ∀ result, (rest result).Yields Allowed Final) :
    (task >>= rest).Yields Allowed Final :=
  Tracks.bind (tracks_true task) fun _ result _ => second result

/-- One action. -/
theorem yields_await {ready : State → Bool} {body : State → Answer → State × Result}
    (holds : ∀ state answer, Allowed answer → Property (body state answer).2) :
    (await ready body).Yields Allowed Property :=
  tracks_await fun state answer allowed _ => holds state answer allowed

/-- Zooming keeps the results. -/
theorem Yields.zoom {Part : Type} {read : State → Part} {write : State → Part → State}
    {task : Task Part Answer Result} (yields : task.Yields Allowed Property) :
    (task.zoom read write).Yields Allowed Property :=
  Tracks.zoom (fun _ => rfl) (fun _ _ => rfl) yields

/-- An uninterrupted run yields it. -/
theorem Yields.exec (yields : task.Yields Allowed Property) {answers : Nat → Answer}
    (allowed : ∀ index, Allowed (answers index)) (state : State) :
    Property (task.exec answers state).2 := by
  have tracks : task.Tracks (fun _ => ()) Allowed (fun _ => Property)
    ((fun _ => ()) state) := yields
  exact tracks.exec allowed

end

end Task

end Bacchus
