import Bacchus.Capacity.Estimator
import Bacchus.Semantics.Machine
import Mathlib.Data.Rat.Floor

/-!
# How a rating moves

`Estimator.Advance` decays the estimate by the time since a window last said anything, and lets
the window just closed raise it by a factor or take it down. A node has two estimators; the
vouched one decides wherever it has a rating. A scaled rate is rounded down.
-/

namespace Bacchus.Capacity

/-- `Params` of the estimator, in the ranges that `Validate` demands. -/
structure EstimatorParams extends Params where
  riseFactor : ℚ
  riseThreshold : ℚ
  fallThreshold : ℚ
  ceiling : Nat
  ceilingASes : Int
  hardCeiling : Bool
  floor : Nat
  rises : 1 < riseFactor
  apart : fallThreshold < riseThreshold
  floorPositive : 0 < floor
  floorLeCeiling : ceiling ≠ 0 → floor ≤ ceiling
  clamps : hardCeiling → ceiling ≠ 0

/-- `math.Pow(0.5, elapsed / half-life)`, of which only this is used: for a time that has passed it
is between zero and one, and it falls with the time. -/
structure Halving where
  factor : Int → ℚ
  nonneg : ∀ elapsed, 0 < elapsed → 0 ≤ factor elapsed
  le_one : ∀ elapsed, 0 < elapsed → factor elapsed ≤ 1
  antitone : ∀ elapsed later, 0 < elapsed → elapsed ≤ later → factor later ≤ factor elapsed

/-- A rate times a factor, rounded down. -/
def scale (factor : ℚ) (rate : Nat) : Nat := ⌊(rate : ℚ) * factor⌋₊

theorem scale_le {factor : ℚ} (nonneg : 0 ≤ factor) (rate : Nat) :
    (scale factor rate : ℚ) ≤ rate * factor :=
  Nat.floor_le (mul_nonneg (Nat.cast_nonneg rate) nonneg)

theorem scale_mono {small large : ℚ} (le : small ≤ large) (rate : Nat) :
    scale small rate ≤ scale large rate :=
  Nat.floor_mono (mul_le_mul_of_nonneg_left le (Nat.cast_nonneg rate))

theorem scale_le_self {factor : ℚ} (le : factor ≤ 1) (rate : Nat) : scale factor rate ≤ rate := by
  have whole : scale 1 rate = rate := by
    rw [scale, mul_one, Nat.floor_natCast]
  calc scale factor rate ≤ scale 1 rate := scale_mono le rate
    _ = rate := whole

/-- `Estimator`, without what only its status reports. -/
structure Estimator where
  est : Nat
  /-- The estimate before any decay. -/
  baseEst : Nat
  window : Window := {}
  lastInform : Int
  informed : Bool := false

namespace Estimator

variable (params : EstimatorParams) (halving : Halving)

/-- `NewEstimator`. -/
def new (now : Int) : Estimator where
  est := params.floor
  baseEst := params.floor
  lastInform := now

def seed (estimator : Estimator) (rate : Nat) (now : Int) : Estimator :=
  let raised := if rate < params.floor then params.floor else rate
  let clamped := if params.ceiling ≠ 0 ∧ params.ceiling < raised then params.ceiling else raised
  { estimator with est := clamped, baseEst := clamped, lastInform := now }

def observe (estimator : Estimator) (sample : Sample) : Estimator :=
  { estimator with window := estimator.window.observe sample }

def decay (estimator : Estimator) (now : Int) : Estimator :=
  let elapsed := now - estimator.lastInform
  if elapsed ≤ 0 then estimator
  else
    let next := scale (halving.factor elapsed) estimator.baseEst
    if next < params.floor then { estimator with est := params.floor, informed := false }
    else { estimator with est := next }

/-- The ceiling that holds in a window with so many distinct ASes. -/
def ceil (ases : Nat) : Nat :=
  if params.ceiling ≠ 0 ∧ (params.hardCeiling = true ∨ (ases : Int) < params.ceilingASes) then
    params.ceiling
  else 2 ^ 64 - 1

/-- The move of an estimate that a window judges, before the bounds. -/
def move (est observed ceil : Nat) : Nat :=
  if scale params.riseThreshold est ≤ observed then
    let next := scale params.riseFactor est
    let capped := if ceil < next then ceil else next
    if est < capped then capped else est
  else if observed < scale params.fallThreshold est then observed
  else est

/-- The bounds of an estimate. -/
def bound (est ceil : Nat) : Nat :=
  let raised := if est < params.floor then params.floor else est
  if ceil < raised then ceil else raised

/-- `Advance`, with the orders in which its loops run over the maps. -/
def advance (estimator : Estimator) (now : Int) (attesters ases : Iteration) : Estimator :=
  let decayed := { estimator.decay params halving now with window := {} }
  match estimator.window.observed params.toParams attesters ases with
  | none => decayed
  | some observed =>
    let ceil := ceil params (estimator.window.collapse attesters ases).2
    let est := bound params (move params decayed.est observed ceil) ceil
    { decayed with est, baseEst := est, lastInform := now, informed := true }

/-- The estimate and what it decays from are between floor and ceiling. -/
structure Within (estimator : Estimator) : Prop where
  floor_le : params.floor ≤ estimator.est
  le_ceiling : estimator.est ≤ params.ceiling
  base_le_ceiling : estimator.baseEst ≤ params.ceiling

/-- From a time on, decay only takes the estimate down. -/
def Steady (estimator : Estimator) (clock : Int) : Prop :=
  ∀ later, clock ≤ later → estimator.lastInform < later →
    scale (halving.factor (later - estimator.lastInform)) estimator.baseEst ≤ estimator.est

variable {params halving} {estimator : Estimator} {clock now : Int} {attesters ases : Iteration}

theorem Steady.later (steady : Steady halving estimator clock) (le : clock ≤ now) :
    Steady halving estimator now :=
  fun later after => steady later (le.trans after)

theorem steady_of_base (based : estimator.est = estimator.baseEst) :
    Steady halving estimator clock := by
  intro later _ passed
  rw [based]
  exact scale_le_self (halving.le_one _ (by omega)) _

theorem decay_cases (estimator : Estimator) (now : Int) :
    (now ≤ estimator.lastInform ∧ estimator.decay params halving now = estimator) ∨
      estimator.lastInform < now ∧ ∃ est informed,
        estimator.decay params halving now = { estimator with est, informed } ∧
        est = max params.floor
          (scale (halving.factor (now - estimator.lastInform)) estimator.baseEst) := by
  unfold decay
  dsimp only
  by_cases passed : now - estimator.lastInform ≤ 0
  · exact .inl ⟨by omega, if_pos passed⟩
  · rw [if_neg passed]
    refine .inr ⟨by omega, ?_⟩
    split_ifs with low
    · exact ⟨_, _, rfl, (Nat.max_eq_left low.le).symm⟩
    · exact ⟨_, _, rfl, (Nat.max_eq_right (Nat.le_of_not_lt low)).symm⟩

/-- Decay keeps an estimate within its bounds, whatever time it is given. -/
theorem Within.decay (ordered : params.floor ≤ params.ceiling) (within : Within params estimator)
    (now : Int) : Within params (estimator.decay params halving now) := by
  rcases decay_cases estimator now with ⟨-, same⟩ | ⟨passed, est, informed, same, decayed⟩
  · rw [same]
    exact within
  · rw [same]
    have below := scale_le_self (halving.le_one (now - estimator.lastInform) (by omega))
      estimator.baseEst
    refine ⟨?_, ?_, within.base_le_ceiling⟩
    · rw [decayed]
      exact Nat.le_max_left _ _
    · rw [decayed]
      exact Nat.max_le.mpr ⟨ordered, below.trans within.base_le_ceiling⟩

/-- Decay at a later time does not raise an estimate. -/
theorem Steady.decay (floor_le : params.floor ≤ estimator.est)
    (steady : Steady halving estimator clock) (timely : clock ≤ now) :
    (estimator.decay params halving now).est ≤ estimator.est ∧
      Steady halving (estimator.decay params halving now) now := by
  rcases decay_cases estimator now with ⟨-, same⟩ | ⟨passed, est, informed, same, decayed⟩
  · rw [same]
    exact ⟨Nat.le_refl _, steady.later timely⟩
  · rw [same]
    constructor
    · rw [decayed]
      exact Nat.max_le.mpr ⟨floor_le, steady now timely passed⟩
    · intro later after _
      dsimp only
      rw [decayed]
      refine le_trans (scale_mono (halving.antitone _ _ ?_ ?_) _) (Nat.le_max_right _ _) <;> omega

/-- The move of a window is at most the rise factor, unless a fall may go up. -/
theorem move_le (modest : params.fallThreshold ≤ params.riseFactor) (est observed ceil : Nat) :
    (move params est observed ceil : ℚ) ≤ est * params.riseFactor := by
  have positive : (0 : ℚ) ≤ params.riseFactor := le_trans zero_le_one params.rises.le
  have stays : (est : ℚ) ≤ est * params.riseFactor :=
    le_mul_of_one_le_right (Nat.cast_nonneg est) params.rises.le
  have top := scale_le positive est
  unfold move
  dsimp only
  split_ifs with meets high above capped fails
  · exact le_trans (Nat.cast_le.mpr high.le) top
  · exact stays
  · exact top
  · exact stays
  · have fallen : observed ≤ scale params.riseFactor est := fails.le.trans (scale_mono modest est)
    exact le_trans (Nat.cast_le.mpr fallen) top
  · exact stays

theorem bound_spec {ceil : Nat} (ordered : params.floor ≤ ceil) (est : Nat) :
    params.floor ≤ bound params est ceil ∧ bound params est ceil ≤ ceil ∧
      bound params est ceil ≤ max params.floor est := by
  unfold bound
  dsimp only
  split_ifs <;> omega

variable (hard : params.hardCeiling)

include hard

/-- With a hard ceiling every window has the same one. -/
theorem ceil_eq (ases : Nat) : ceil params ases = params.ceiling := by
  unfold ceil
  rw [if_pos ⟨params.clamps hard, .inl hard⟩]

omit hard in
/-- A window leaves the estimate where decay has put it, or within the bounds. -/
theorem advance_cases (estimator : Estimator) (now : Int) (attesters ases : Iteration) :
    (estimator.advance params halving now attesters ases =
        { estimator.decay params halving now with window := {} }) ∨
      ∃ observed ceiling, ceiling = ceil params (estimator.window.collapse attesters ases).2 ∧
        estimator.advance params halving now attesters ases =
          { est := bound params
              (move params (estimator.decay params halving now).est observed ceiling) ceiling
            baseEst := bound params
              (move params (estimator.decay params halving now).est observed ceiling) ceiling
            lastInform := now
            informed := true } := by
  unfold advance
  cases estimator.window.observed params.toParams attesters ases with
  | none => exact .inl rfl
  | some observed => exact .inr ⟨observed, _, rfl, rfl⟩

theorem Within.advance (within : Within params estimator)
    (now : Int) (attesters ases : Iteration) :
    Within params (estimator.advance params halving now attesters ases) := by
  have ordered := params.floorLeCeiling (params.clamps hard)
  rcases advance_cases estimator now attesters ases with same | ⟨observed, ceiling, top, same⟩
  · obtain ⟨low, high, base⟩ := @Within.decay params halving estimator ordered within now
    rw [same]
    exact ⟨low, high, base⟩
  · rw [same]
    rw [ceil_eq hard] at top
    subst top
    obtain ⟨low, high, -⟩ := bound_spec ordered
      (move params (estimator.decay params halving now).est observed params.ceiling)
    exact ⟨low, high, high⟩

omit hard in
theorem Steady.advance (floor_le : params.floor ≤ estimator.est)
    (steady : Steady halving estimator clock) (timely : clock ≤ now) :
    Steady halving (estimator.advance params halving now attesters ases) now := by
  rcases advance_cases estimator now attesters ases with same | ⟨observed, ceiling, top, same⟩
  · rw [same]
    exact (steady.decay floor_le timely).2
  · rw [same]
    exact steady_of_base rfl

/-- One window raises the estimate by the rise factor at most. -/
theorem Within.advance_le
    (modest : params.fallThreshold ≤ params.riseFactor) (within : Within params estimator)
    (steady : Steady halving estimator clock) (timely : clock ≤ now) :
    ((estimator.advance params halving now attesters ases).est : ℚ) ≤
      estimator.est * params.riseFactor := by
  obtain ⟨lower, -⟩ := steady.decay within.floor_le timely
  have stays : (estimator.est : ℚ) ≤ estimator.est * params.riseFactor :=
    le_mul_of_one_le_right (Nat.cast_nonneg _) params.rises.le
  rcases advance_cases estimator now attesters ases with same | ⟨observed, ceiling, top, same⟩
  · rw [same]
    exact le_trans (Nat.cast_le.mpr lower) stays
  · rw [same]
    rw [ceil_eq hard] at top
    subst top
    obtain ⟨-, -, most⟩ := bound_spec (params.floorLeCeiling (params.clamps hard))
      (move params (estimator.decay params halving now).est observed params.ceiling)
    refine le_trans (Nat.cast_le.mpr most) ?_
    rw [Nat.cast_max]
    refine max_le (le_trans (Nat.cast_le.mpr within.floor_le) stays) ?_
    calc (move params (estimator.decay params halving now).est observed params.ceiling : ℚ)
        ≤ (estimator.decay params halving now).est * params.riseFactor := move_le modest _ _ _
      _ ≤ estimator.est * params.riseFactor := by
          have positive : (0 : ℚ) ≤ params.riseFactor := le_trans zero_le_one params.rises.le
          exact mul_le_mul_of_nonneg_right (Nat.cast_le.mpr lower) positive

theorem within_new (now : Int) : Within params (new params now) := by
  have ordered := params.floorLeCeiling (params.clamps hard)
  exact ⟨Nat.le_refl _, ordered, ordered⟩

theorem within_seed (estimator : Estimator) (rate : Nat)
    (now : Int) : Within params (estimator.seed params rate now) := by
  have ordered := params.floorLeCeiling (params.clamps hard)
  have clamped := params.clamps hard
  unfold seed
  dsimp only
  split_ifs with low high high <;> constructor <;> dsimp only <;> omega

end Estimator

inductive EstimatorOp where
  | seed (rate : Nat) (now : Int)
  | observe (sample : Sample)
  | advance (now : Int) (attesters ases : Iteration)

/-- The time an operation is given. -/
def EstimatorOp.now : EstimatorOp → Option Int
  | .seed _ now | .advance now _ _ => some now
  | .observe _ => none

/-- An estimator, and the last time it was given. -/
structure TimedEstimator where
  estimator : Estimator
  clock : Int

/-- The estimator after an operation. -/
def Estimator.perform (params : EstimatorParams) (halving : Halving) (estimator : Estimator) :
    EstimatorOp → Estimator
  | .seed rate now => estimator.seed params rate now
  | .observe sample => estimator.observe sample
  | .advance now attesters ases => estimator.advance params halving now attesters ases

/-- Runs of a new estimator. -/
def estimations (params : EstimatorParams) (halving : Halving) :
    Machine TimedEstimator EstimatorOp where
  initial state := ∃ now, state = ⟨.new params now, now⟩
  step state op := some ⟨state.estimator.perform params halving op, op.now.getD state.clock⟩

/-- No operation is given an earlier time than one before it. -/
def TimedEstimator.Timely (state : TimedEstimator) (op : EstimatorOp) : Prop :=
  ∀ now ∈ op.now, state.clock ≤ now

section

variable {params : EstimatorParams} {halving : Halving} {ops : List EstimatorOp}
  {state : TimedEstimator}

theorem Estimator.Within.perform (hard : params.hardCeiling) {op : EstimatorOp}
    (within : state.estimator.Within params) (steady : state.estimator.Steady halving state.clock)
    (timely : state.Timely op) :
    (state.estimator.perform params halving op).Within params ∧
      (state.estimator.perform params halving op).Steady halving (op.now.getD state.clock) := by
  cases op with
  | seed rate now => exact ⟨Estimator.within_seed hard _ rate now, Estimator.steady_of_base rfl⟩
  | observe => exact ⟨⟨within.floor_le, within.le_ceiling, within.base_le_ceiling⟩, steady⟩
  | advance now attesters ases =>
    exact ⟨within.advance hard now attesters ases, steady.advance within.floor_le (timely now rfl)⟩

theorem within_of_runs (hard : params.hardCeiling)
    (runs : (estimations params halving).Runs TimedEstimator.Timely ops state) :
    state.estimator.Within params ∧ state.estimator.Steady halving state.clock := by
  apply @Machine.Runs.invariant _ _ _ _ (fun state : TimedEstimator =>
    state.estimator.Within params ∧ state.estimator.Steady halving state.clock) _ _ _ _ runs
  · rintro state ⟨now, rfl⟩
    exact ⟨Estimator.within_new hard now, Estimator.steady_of_base rfl⟩
  · rintro state op next ⟨within, steady⟩ timely ⟨⟩
    exact within.perform hard steady timely

end

structure NodeRating where
  trusted : Estimator
  untrusted : Estimator

/-- Parameters with a ceiling, as `NewNodeRating` demands. -/
structure RatingParams extends EstimatorParams where
  ceilingNonzero : ceiling ≠ 0

/-- The parameters of the unvouched stream. -/
def RatingParams.hardened (params : RatingParams) : EstimatorParams :=
  { params.toEstimatorParams with
    hardCeiling := true
    clamps := fun _ => params.ceilingNonzero }

inductive RatingOp where
  | observeTrusted (sample : Sample)
  | observeUntrusted (sample : Sample)
  /-- With the orders of the loops of the two estimators. -/
  | advance (now : Int) (attesters ases attesters' ases' : Iteration)

namespace NodeRating

/-- `NewNodeRating`. -/
def new (params : RatingParams) (now : Int) : NodeRating where
  trusted := .new params.toEstimatorParams now
  untrusted := .new params.hardened now

def measured (rating : NodeRating) : Nat :=
  if rating.trusted.informed then rating.trusted.est else rating.untrusted.est

variable (params : RatingParams) (halving : Halving)

/-- `ObserveTrusted`, `ObserveUntrusted` and `Advance`. -/
def perform (rating : NodeRating) : RatingOp → NodeRating
  | .observeTrusted sample => { rating with trusted := rating.trusted.observe sample }
  | .observeUntrusted sample => { rating with untrusted := rating.untrusted.observe sample }
  | .advance now attesters ases attesters' ases' =>
    { trusted := rating.trusted.advance params.toEstimatorParams halving now attesters ases
      untrusted := rating.untrusted.advance params.hardened halving now attesters' ases' }

/-- A new rating after a list of operations. -/
def after (start : Int) (ops : List RatingOp) : NodeRating :=
  ops.foldl (perform params halving) (new params start)

variable {params halving} {rating : NodeRating}

/-- Nothing lifts the unvouched stream of a rating above the ceiling. -/
theorem within_perform (within : rating.untrusted.Within params.hardened) (op : RatingOp) :
    (rating.perform params halving op).untrusted.Within params.hardened := by
  cases op with
  | observeTrusted => exact within
  | observeUntrusted => exact ⟨within.floor_le, within.le_ceiling, within.base_le_ceiling⟩
  | advance now _ _ attesters ases => exact within.advance rfl now attesters ases

theorem within_after (start : Int) (ops : List RatingOp) :
    (after params halving start ops).untrusted.Within params.hardened := by
  induction ops using List.reverseRecOn with
  | nil => exact Estimator.within_new rfl start
  | append_singleton ops op ih =>
    rw [after, List.foldl_append]
    exact within_perform ih op

end NodeRating

/-- What reaches the vouched stream: a sample, or the time of a tick. -/
def RatingOp.vouched : RatingOp → Option (Sample ⊕ Int)
  | .observeTrusted sample => some (.inl sample)
  | .observeUntrusted _ => none
  | .advance now _ _ _ _ => some (.inr now)

/-- The vouched stream after one of them. -/
def Estimator.hear (params : EstimatorParams) (halving : Halving) (estimator : Estimator) :
    Sample ⊕ Int → Estimator
  | .inl sample => estimator.observe sample
  | .inr now => estimator.advance params halving now storedOrder storedOrder

section

variable {params : RatingParams} {halving : Halving}

/-- The orders of the loops do not matter to `Advance`. -/
theorem Estimator.advance_congr (params : EstimatorParams) (halving : Halving)
    (estimator : Estimator) (now : Int) (attesters ases attesters' ases' : Iteration) :
    estimator.advance params halving now attesters ases =
      estimator.advance params halving now attesters' ases' := by
  unfold Estimator.advance
  rw [observed_congr params.toParams attesters ases attesters' ases' rfl,
    @collapse_count _ attesters ases, @collapse_count _ attesters' ases']

theorem perform_trusted (rating : NodeRating) (op : RatingOp) :
    (rating.perform params halving op).trusted =
      (op.vouched.map (rating.trusted.hear params.toEstimatorParams halving)).getD
        rating.trusted := by
  cases op with
  | observeTrusted | observeUntrusted => rfl
  | advance now attesters ases _ _ => exact Estimator.advance_congr _ _ _ _ _ _ _ _

/-- The vouched stream is a function of what reaches it. -/
theorem after_trusted (start : Int) (ops : List RatingOp) :
    (NodeRating.after params halving start ops).trusted =
      (ops.filterMap RatingOp.vouched).foldl (Estimator.hear params.toEstimatorParams halving)
        (.new params.toEstimatorParams start) := by
  induction ops using List.reverseRecOn with
  | nil => rfl
  | append_singleton ops op ih =>
    rw [NodeRating.after, List.foldl_append, List.filterMap_append, List.foldl_append,
      ← ih]
    change (NodeRating.perform params halving (.after params halving start ops) op).trusted = _
    rw [perform_trusted]
    cases heard : op.vouched with
    | none | some => simp [heard]

end

/-- An estimate with a hard ceiling stays between floor and ceiling, and one window raises it by the
rise factor at most, if the fall threshold is not above that. A rating that no vouched sample has
informed is not above the ceiling, and one that is informed depends neither on the other samples nor
on the orders in which maps are walked. -/
theorem rating_bounds (halving : Halving) :
    (∀ (params : EstimatorParams) ops state, params.hardCeiling = true →
      (estimations params halving).Runs TimedEstimator.Timely ops state →
      params.floor ≤ state.estimator.est ∧ state.estimator.est ≤ params.ceiling ∧
      (params.fallThreshold ≤ params.riseFactor → ∀ now attesters ases, state.clock ≤ now →
        ((state.estimator.advance params halving now attesters ases).est : ℚ) ≤
          state.estimator.est * params.riseFactor)) ∧
    (∀ (params : RatingParams) start ops,
      (NodeRating.after params halving start ops).trusted.informed = false →
        (NodeRating.after params halving start ops).measured ≤ params.ceiling) ∧
    ∀ (params : RatingParams) start ops others,
      ops.filterMap RatingOp.vouched = others.filterMap RatingOp.vouched →
      (NodeRating.after params halving start ops).trusted.informed = true →
        (NodeRating.after params halving start ops).measured =
          (NodeRating.after params halving start others).measured := by
  refine ⟨?_, ?_, ?_⟩
  · intro params ops state hard runs
    obtain ⟨within, steady⟩ := within_of_runs hard runs
    refine ⟨within.floor_le, within.le_ceiling, fun modest now attesters ases timely => ?_⟩
    exact within.advance_le hard modest steady timely
  · intro params start ops uninformed
    rw [NodeRating.measured, uninformed]
    exact (NodeRating.within_after start ops).le_ceiling
  · intro params start ops others same informed
    have trusted : (NodeRating.after params halving start ops).trusted =
        (NodeRating.after params halving start others).trusted := by
      rw [after_trusted, after_trusted, same]
    rw [NodeRating.measured, NodeRating.measured, ← trusted, informed]
    rfl

/-- One half for every half-life that has passed in full. -/
def wholeHalvings (halfLife : Int) (positive : 0 < halfLife) : Halving where
  factor elapsed := (1 / 2) ^ (elapsed / halfLife).toNat
  nonneg _ _ := by positivity
  le_one _ _ := pow_le_one₀ (by norm_num) (by norm_num)
  antitone elapsed later _ le := by
    apply pow_le_pow_of_le_one (by norm_num) (by norm_num)
    exact Int.toNat_le_toNat (Int.ediv_le_ediv positive le)

/-- Parameters that `Validate` accepts, with the thresholds given. -/
def withThresholds (fall rise : ℚ) (apart : fall < rise) : EstimatorParams where
  toParams := defaultParams
  riseFactor := 5 / 4
  riseThreshold := rise
  fallThreshold := fall
  ceiling := 1000
  ceilingASes := 3
  hardCeiling := true
  floor := 100
  rises := by norm_num
  apart := apart
  floorPositive := by decide
  floorLeCeiling := by decide
  clamps := by decide

/-- The decimals `DefaultParams` writes for its thresholds, as rationals: the nearest binary
fractions
it computes with differ from them. -/
def usual : EstimatorParams := withThresholds (7 / 10) (9 / 10) (by norm_num)

/-- A fall threshold that is four times the rise factor. -/
def liberal : EstimatorParams := withThresholds 5 10 (by norm_num)

/-- A client reports a rate from an AS. -/
def report (rate : Nat) (attester as : String) : Sample := ⟨rate, true, attester, as⟩

/-- Two clients from two ASes report one rate. -/
def twoReports (rate : Nat) : List EstimatorOp :=
  [.observe (report rate "alice" "AS1"), .observe (report rate "bob" "AS2")]

theorem timely_twoReports (params : EstimatorParams) (halving : Halving) (rate : Nat) :
    (estimations params halving).Meets TimedEstimator.Timely ⟨.new params 0, 0⟩ (twoReports rate) :=
  ⟨nofun, nofun, trivial⟩

/-- A window that observes four times the estimate is taken for a fall, and lifts it. -/
theorem fall_goes_up :
    ∃ state, (estimations liberal (wholeHalvings 1 (by decide))).Runs
        TimedEstimator.Timely (twoReports 400) state ∧
      state.estimator.est = 100 ∧ liberal.riseFactor = 5 / 4 ∧
      (state.estimator.advance liberal (wholeHalvings 1 (by decide)) state.clock
        storedOrder storedOrder).est = 400 :=
  ⟨_, .ofFollow ⟨0, rfl⟩ rfl (timely_twoReports _ _ _), rfl, rfl, by decide +kernel⟩

/-- The usual thresholds, with a ceiling that enough ASes lift. -/
def usualRating : RatingParams :=
  { usual with hardCeiling := false, clamps := by decide, ceilingNonzero := by decide }

/-- Two clients nobody vouches for report, before or after two others. -/
def unvouched : List RatingOp :=
  [.observeUntrusted (report 400 "carol" "AS3"), .observeUntrusted (report 400 "dave" "AS4")]

def vouchedWindow : List RatingOp :=
  [.observeTrusted (report 400 "alice" "AS1"), .observeTrusted (report 400 "bob" "AS2"),
    .advance 0 storedOrder storedOrder storedOrder storedOrder]

/-- Two reports, and a rating that falls. -/
theorem rating_bounds_reported :
    (∃ state, (estimations usual (wholeHalvings 1 (by decide))).Runs TimedEstimator.Timely
        (twoReports 400) state ∧
      usual.floor ≤ state.estimator.est ∧ state.estimator.est ≤ usual.ceiling ∧
      ((state.estimator.advance usual (wholeHalvings 1 (by decide)) 5 storedOrder
        storedOrder).est : ℚ) ≤ state.estimator.est * usual.riseFactor) ∧
    (NodeRating.after usualRating (wholeHalvings 1 (by decide)) 0 unvouched).measured ≤
      usualRating.ceiling ∧
    (NodeRating.after usualRating (wholeHalvings 1 (by decide)) 0
        (unvouched ++ vouchedWindow)).measured =
      (NodeRating.after usualRating (wholeHalvings 1 (by decide)) 0 vouchedWindow).measured := by
  obtain ⟨estimates, unrated, rated⟩ := rating_bounds (wholeHalvings 1 (by decide))
  have runs : (estimations usual (wholeHalvings 1 (by decide))).Runs TimedEstimator.Timely
      (twoReports 400) _ := .ofFollow ⟨0, rfl⟩ rfl (timely_twoReports _ _ _)
  obtain ⟨floor, ceiling, rise⟩ := estimates usual _ _ rfl runs
  have modest : usual.fallThreshold ≤ usual.riseFactor := by decide +kernel
  refine ⟨⟨_, runs, floor, ceiling, rise modest 5 _ _ (by decide)⟩, ?_, ?_⟩
  · exact unrated usualRating 0 unvouched rfl
  · exact rated usualRating 0 _ _ rfl (by decide +kernel)

end Bacchus.Capacity
