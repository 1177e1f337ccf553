import Mathlib.Order.Lattice.Nat
import Bacchus.Semantics.Binary64
import Bacchus.Semantics.OrderStatistic
import Bacchus.Semantics.Table

/-!
# What a scoring window observes of a node

Samples are collapsed to the median of each attester, and those to the minimum over each AS. The
observation is a low quantile of the votes so cast, a function of the `ballots`.
-/

namespace Bacchus.Capacity

open List Table

/-- Bits per second. The observation only compares rates. -/
abbrev Rate := Nat

/-- What a client attests of one interval. -/
structure Sample where
  throughput : Rate
  /-- The client wanted more than the node delivered. -/
  saturated : Bool
  attester : String
  /-- The AS of the source address that the coordinator saw. -/
  as : String
deriving DecidableEq

/-- The parameters of the observation, in the ranges that `Validate` demands. -/
structure Params where
  quantile : Binary64
  minASes : Nat
  quantileUpToOne : quantile.significand ≤ 2 ^ quantile.shift
  minASesPositive : 1 ≤ minASes

/-- The samples of the current window by attester, and the AS last seen for each. -/
structure Window where
  pending : Table String (List Rate) := ∅
  asOf : Table String String := ∅

/-- An unsaturated or unattributable sample is dropped. -/
def Window.observe (window : Window) (sample : Sample) : Window :=
  if sample.saturated = false ∨ sample.attester = "" ∨ sample.as = "" then window
  else
    { pending := window.pending.push sample.attester sample.throughput
      asOf := window.asOf.insert sample.attester sample.as }

/-- The window that a sequence of `Observe` calls builds. -/
def window (samples : List Sample) : Window := samples.foldl Window.observe {}

/-- The lower of the two middle values for an even count. -/
def median (rates : List Rate) : Rate :=
  if rates = [] then 0 else orderStatistic rates ((rates.length - 1) / 2) 0

def minRate : List Rate → Rate
  | [] => 0
  | first :: rest => rest.foldl (fun least rate => if rate < least then rate else least) first

/-- The nearest rank from below. The index is never negative. -/
def quantile (rates : List Rate) (q : Binary64) : Rate :=
  if rates = [] then 0
  else
    let index := q.truncMul (rates.length - 1)
    orderStatistic rates (if rates.length ≤ index then rates.length - 1 else index) 0

/-- An order in which a `range` loop visits the entries of a map. -/
structure Iteration where
  range : Table String (List Rate) → List ((_ : String) × List Rate)
  visits : ∀ table, (range table).Perm table.entries

/-- The AS and the median of one attester, unless the loop of `collapse` skips it. -/
def ballot (asOf : Table String String) (entry : (_ : String) × List Rate) :
    Option (String × Rate) :=
  let as := (asOf.lookup entry.1).getD ""
  if as = "" ∨ entry.2 = [] then none else some (as, median entry.2)

/-- The first loop of `collapse`. -/
def Window.byAS (window : Window) (attesters : Iteration) : Table String (List Rate) :=
  (attesters.range window.pending).foldl
    (fun byAS entry => match ballot window.asOf entry with
      | none => byAS
      | some (as, rate) => byAS.push as rate) ∅

/-- One vote for each AS, and the number of them. -/
def Window.collapse (window : Window) (attesters ases : Iteration) : List Rate × Nat :=
  let byAS := window.byAS attesters
  ((ases.range byAS).map fun entry => minRate entry.2, byAS.entries.length)

/-- The vote of one AS. -/
def Window.voteOf (window : Window) (attesters : Iteration) (as : String) : Option Rate :=
  ((window.byAS attesters).lookup as).map minRate

/-- What `Advance` judges the rating by, if there are enough votes. -/
def Window.observed (window : Window) (params : Params) (attesters ases : Iteration) :
    Option Rate :=
  let votes := (window.collapse attesters ases).1
  if votes.length < params.minASes then none else some (quantile votes params.quantile)

theorem median_eq (rates : List Rate) :
    median rates = orderStatistic rates ((rates.length - 1) / 2) 0 := by
  unfold median
  split_ifs with empty
  · rw [empty]
    rfl
  · rfl

variable {rates others : List Rate}

theorem median_perm (permuted : rates.Perm others) :
    median rates = median others := by
  rw [median_eq, median_eq, permuted.length_eq, orderStatistic_perm permuted]

variable {rate : Rate}

/-- An attester that reports one value votes for it, however often. -/
theorem median_constant (some : rates ≠ []) (constant : ∀ other ∈ rates, other = rate) :
    median rates = rate := by
  have positive : 0 < rates.length := length_pos_iff.mpr some
  have inside : (rates.length - 1) / 2 < rates.length := by omega
  rw [median_eq]
  exact constant _ (orderStatistic_mem inside)

theorem foldl_min_isLeast (rest : List Rate) (first : Rate) :
    IsLeast {rate | rate ∈ first :: rest}
      (rest.foldl (fun least rate => if rate < least then rate else least) first) := by
  induction rest generalizing first with
  | nil =>
    constructor
    · exact mem_cons_self
    · intro rate member
      exact (mem_singleton.mp member).ge
  | cons second rest ih =>
    have smaller : (if second < first then second else first) = min first second := by
      rw [min_comm, min_def_lt]
    rw [foldl_cons, smaller]
    obtain ⟨member, least⟩ := ih (min first second)
    constructor
    · rcases mem_cons.mp member with same | later
      · rw [same]
        rcases min_choice first second with left | right
        · rw [left]
          exact mem_cons_self
        · rw [right]
          exact mem_cons_of_mem _ mem_cons_self
      · exact mem_cons_of_mem _ (mem_cons_of_mem _ later)
    · have head := least mem_cons_self
      intro rate member
      rcases mem_cons.mp member with rfl | member
      · exact le_trans head (min_le_left _ _)
      rcases mem_cons.mp member with rfl | later
      · exact le_trans head (min_le_right _ _)
      · exact least (mem_cons_of_mem _ later)

theorem minRate_isLeast (some : rates ≠ []) :
    IsLeast {rate | rate ∈ rates} (minRate rates) := by
  cases rates with
  | nil => exact absurd rfl some
  | cons first rest => exact foldl_min_isLeast rest first

/-- The index of `quantile` before it is cut off at the last one. -/
theorem quantile_of_lt {q : Binary64} (inside : q.truncMul (rates.length - 1) < rates.length) :
    quantile rates q = orderStatistic rates (q.truncMul (rates.length - 1)) 0 := by
  unfold quantile
  dsimp only
  rw [if_neg (length_pos_iff.mp (by omega)), if_neg (Nat.not_le.mpr inside)]

theorem quantile_perm (permuted : rates.Perm others) (q : Binary64) :
    quantile rates q = quantile others q := by
  have empty : rates = [] ↔ others = [] := by
    rw [← length_eq_zero_iff, permuted.length_eq, length_eq_zero_iff]
  simp only [quantile, empty, permuted.length_eq, orderStatistic_perm permuted]

/-- Rounding the product of the quantile and the highest rank does not change its integer part, for
`n` votes. -/
def Params.Exact (params : Params) (n : Nat) : Prop :=
  params.quantile.truncMul (n - 1) = params.quantile.floorMul (n - 1)

theorem quantile_eq {params : Params} {votes : List Rate} (some : votes ≠ [])
    (precise : params.Exact votes.length) :
    params.quantile.floorMul (votes.length - 1) < votes.length ∧
      quantile votes params.quantile =
        orderStatistic votes (params.quantile.floorMul (votes.length - 1)) 0 := by
  have positive : 0 < votes.length := length_pos_iff.mpr some
  have most := Binary64.floorMul_le params.quantileUpToOne (votes.length - 1)
  have inside : params.quantile.floorMul (votes.length - 1) < votes.length := by omega
  rw [← precise] at inside ⊢
  exact ⟨inside, quantile_of_lt inside⟩

/-- The pairs of an AS and a median that the attesters of a window cast. -/
def Window.ballots (window : Window) : Finset (String × Rate) :=
  (window.pending.entries.filterMap (ballot window.asOf)).toFinset

theorem mem_ballots {window : Window} {as : String} :
    (as, rate) ∈ window.ballots ↔
      ∃ attester rates, window.pending.lookup attester = some rates ∧ rates ≠ [] ∧
        as ≠ "" ∧ (window.asOf.lookup attester).getD "" = as ∧ median rates = rate := by
  unfold Window.ballots
  rw [mem_toFinset, mem_filterMap]
  constructor
  · rintro ⟨⟨attester, rates⟩, member, cast⟩
    unfold ballot at cast
    dsimp only at cast
    split_ifs at cast with skipped
    rw [not_or] at skipped
    obtain ⟨rfl, rfl⟩ := Prod.mk.inj (Option.some.inj cast)
    exact ⟨attester, rates, AList.mem_lookup_iff.mpr member, skipped.2, skipped.1, rfl, rfl⟩
  · rintro ⟨attester, rates, found, some, named, rfl, rfl⟩
    refine ⟨⟨attester, rates⟩, AList.mem_lookup_iff.mp found, ?_⟩
    unfold ballot
    rw [if_neg (not_or.mpr ⟨named, some⟩)]

/-- The least median of an AS. -/
noncomputable def vote (ballots : Finset (String × Rate)) (as : String) : Rate :=
  sInf {rate | (as, rate) ∈ ballots}

/-- One vote for each AS that a ballot names. -/
noncomputable def votes (ballots : Finset (String × Rate)) : Multiset Rate :=
  (ballots.image Prod.fst).val.map (vote ballots)

theorem vote_le {ballots : Finset (String × Rate)} {as : String} (member : (as, rate) ∈ ballots) :
    vote ballots as ≤ rate :=
  Nat.sInf_le member

section

variable {window : Window} {attesters ases : Iteration}

/-- The loop of `collapse` groups the ballots by their AS. -/
theorem byAS_eq_group : window.byAS attesters =
    group ((attesters.range window.pending).filterMap (ballot window.asOf)) := by
  unfold Window.byAS group
  rw [foldl_filterMap]
  congr 1
  funext byAS entry
  cases ballot window.asOf entry with
  | none | some => rfl

variable {as : String}

/-- Whatever the order of the loop, the medians under an AS are those of its ballots. -/
theorem mem_valuesAt_ballots {rate : Rate} :
    rate ∈ valuesAt
        ((attesters.range window.pending).filterMap (ballot window.asOf)) as ↔
      (as, rate) ∈ window.ballots := by
  rw [mem_valuesAt, Window.ballots, mem_toFinset]
  exact ((attesters.visits window.pending).filterMap _).mem_iff

variable {rates : List Rate}

theorem lookup_byAS :
    (window.byAS attesters).lookup as = some rates ↔
      rates = valuesAt
        ((attesters.range window.pending).filterMap (ballot window.asOf)) as ∧ rates ≠ [] := by
  rw [byAS_eq_group]
  exact lookup_group_eq_some

/-- The minimum that `collapse` takes for an AS is the least median of its ballots. -/
theorem minRate_byAS (found : (window.byAS attesters).lookup as = some rates) :
    minRate rates = vote window.ballots as := by
  obtain ⟨rfl, some⟩ := lookup_byAS.mp found
  have least := minRate_isLeast some
  have same : {rate | rate ∈ valuesAt
        ((attesters.range window.pending).filterMap (ballot window.asOf)) as} =
      {rate | (as, rate) ∈ window.ballots} := by
    ext rate
    exact mem_valuesAt_ballots
  rw [same] at least
  exact least.csInf_eq.symm

theorem exists_lookup_byAS :
    (∃ rates, (window.byAS attesters).lookup as = some rates) ↔
      as ∈ window.ballots.image Prod.fst := by
  rw [Finset.mem_image]
  constructor
  · rintro ⟨rates, found⟩
    obtain ⟨rfl, some⟩ := lookup_byAS.mp found
    obtain ⟨rate, member⟩ := exists_mem_of_ne_nil _ some
    exact ⟨(as, rate), mem_valuesAt_ballots.mp member, rfl⟩
  · rintro ⟨⟨_, rate⟩, member, rfl⟩
    refine ⟨_, lookup_byAS.mpr ⟨rfl, ?_⟩⟩
    exact ne_nil_of_mem (mem_valuesAt_ballots.mpr member)

/-- In whatever orders its loops run, `collapse` returns the votes of the ballots. -/
theorem collapse_votes :
    ((window.collapse attesters ases).1 : Multiset Rate) = votes window.ballots := by
  let byAS := window.byAS attesters
  have keys : byAS.keys.toFinset = window.ballots.image Prod.fst := by
    ext as
    rw [mem_toFinset, ← AList.mem_keys, ← AList.lookup_isSome, Option.isSome_iff_exists]
    exact exists_lookup_byAS
  have least : byAS.entries.map (fun entry => minRate entry.2) =
      byAS.keys.map (vote window.ballots) := by
    rw [AList.keys, List.keys, map_map]
    apply map_congr_left
    intro entry member
    exact minRate_byAS (AList.mem_lookup_iff.mpr member)
  have permuted : ((window.collapse attesters ases).1).Perm
      (byAS.keys.map (vote window.ballots)) := by
    rw [← least]
    exact (ases.visits byAS).map _
  rw [Multiset.coe_eq_coe.mpr permuted, votes, ← keys, toFinset_val,
    List.Nodup.dedup byAS.keys_nodup, Multiset.map_coe]

/-- The number of ASes is that of the ballots, in whatever order the loop runs. -/
theorem collapse_count :
    (window.collapse attesters ases).2 = (window.ballots.image Prod.fst).card := by
  have cast := congrArg Multiset.card (@collapse_votes window attesters ases)
  simpa [votes, Window.collapse, (ases.visits _).length_eq, ← Finset.card_val] using cast

end

/-- The samples that `Observe` keeps. -/
def Sample.Counted (sample : Sample) : Prop :=
  sample.saturated ∧ sample.attester ≠ "" ∧ sample.as ≠ ""

instance : DecidablePred Sample.Counted := fun _ => inferInstanceAs (Decidable (_ ∧ _ ∧ _))

/-- What the samples kept say, by attester. -/
def attested (samples : List Sample) : List (String × Rate) :=
  (samples.filter (·.Counted)).map fun sample => (sample.attester, sample.throughput)

def ratesOf (samples : List Sample) (attester : String) : List Rate :=
  valuesAt (attested samples) attester

theorem attested_append (samples more : List Sample) :
    attested (samples ++ more) = attested samples ++ attested more := by
  unfold attested
  rw [filter_append, map_append]

theorem ratesOf_append (samples more : List Sample) (attester : String) :
    ratesOf (samples ++ more) attester = ratesOf samples attester ++ ratesOf more attester := by
  unfold ratesOf
  rw [attested_append, valuesAt_append]

variable {samples : List Sample} {attester : String}

theorem mem_ratesOf :
    rate ∈ ratesOf samples attester ↔
      ∃ sample ∈ samples, sample.Counted ∧ sample.attester = attester ∧
        sample.throughput = rate := by
  unfold ratesOf attested
  rw [mem_valuesAt, mem_map]
  constructor
  · rintro ⟨sample, member, same⟩
    obtain ⟨found, counted⟩ := mem_filter.mp member
    obtain ⟨rfl, rfl⟩ := Prod.mk.inj same
    exact ⟨sample, found, of_decide_eq_true counted, rfl, rfl⟩
  · rintro ⟨sample, found, counted, rfl, rfl⟩
    exact ⟨sample, mem_filter.mpr ⟨found, decide_eq_true counted⟩, rfl⟩

/-- Samples of others say nothing for an attester. -/
theorem ratesOf_eq_nil (apart : ∀ other ∈ samples, other.Counted → other.attester ≠ attester) :
    ratesOf samples attester = [] := by
  rw [eq_nil_iff_forall_not_mem]
  intro rate reported
  obtain ⟨other, member, counted, same, _⟩ := mem_ratesOf.mp reported
  exact apart other member counted same

variable {sample : Sample}

theorem observe_counted {window : Window} (counted : sample.Counted) :
    window.observe sample =
      { pending := window.pending.push sample.attester sample.throughput
        asOf := window.asOf.insert sample.attester sample.as } := by
  obtain ⟨saturated, attributed, located⟩ := counted
  unfold Window.observe
  rw [if_neg]
  rintro (unsaturated | unattributed | unlocated)
  · rw [saturated] at unsaturated
    cases unsaturated
  · exact attributed unattributed
  · exact located unlocated

theorem observe_dropped {window : Window} (dropped : ¬ sample.Counted) :
    window.observe sample = window := by
  unfold Window.observe
  rw [if_pos]
  by_contra kept
  simp only [not_or, Bool.not_eq_false] at kept
  exact dropped kept

theorem window_append_singleton (samples : List Sample) (sample : Sample) :
    window (samples ++ [sample]) = (window samples).observe sample := by
  unfold window
  rw [foldl_append]
  rfl

theorem window_pending (samples : List Sample) :
    (window samples).pending = group (attested samples) := by
  induction samples using reverseRecOn with
  | nil => rfl
  | append_singleton samples sample ih =>
    rw [window_append_singleton, attested_append]
    by_cases counted : sample.Counted
    · have one : attested [sample] = [(sample.attester, sample.throughput)] := by
        simp [attested, counted]
      rw [observe_counted counted, one, group_append_singleton, ← ih]
    · have none : attested [sample] = [] := by simp [attested, counted]
      rw [observe_dropped counted, none, append_nil]
      exact ih

/-- The AS recorded for an attester is that of its last sample. -/
theorem lookup_asOf (samples : List Sample) (attester : String) :
    (window samples).asOf.lookup attester =
      ((samples.filter fun sample => sample.Counted ∧ sample.attester = attester).getLast?).map
        Sample.as := by
  induction samples using reverseRecOn with
  | nil => rfl
  | append_singleton samples sample ih =>
    rw [window_append_singleton, filter_append]
    by_cases counted : sample.Counted
    · rw [observe_counted counted]
      by_cases same : attester = sample.attester
      · subst same
        simp [counted]
      · rw [AList.lookup_insert_ne same, ih]
        simp [Ne.symm same]
    · rw [observe_dropped counted, ih]
      simp [counted]

/-- Every attester is seen from one AS only. -/
def SingleHomed (samples : List Sample) : Prop :=
  ∀ first ∈ samples, ∀ second ∈ samples, first.Counted → second.Counted →
    first.attester = second.attester → first.as = second.as

section

variable {samples more others : List Sample} {sample : Sample} (homed : SingleHomed samples)

include homed

theorem SingleHomed.lookup_asOf (member : sample ∈ samples)
    (counted : sample.Counted) : (window samples).asOf.lookup sample.attester = some sample.as := by
  rw [Capacity.lookup_asOf]
  have own : sample ∈ samples.filter
      (fun other => other.Counted ∧ other.attester = sample.attester) :=
    mem_filter.mpr ⟨member, decide_eq_true ⟨counted, rfl⟩⟩
  have some : samples.filter
      (fun other => other.Counted ∧ other.attester = sample.attester) ≠ [] :=
    ne_nil_of_mem own
  rw [getLast?_eq_getLast_of_ne_nil some, Option.map_some, Option.some.injEq]
  obtain ⟨found, holds⟩ := mem_filter.mp (getLast_mem some)
  obtain ⟨lastCounted, same⟩ := of_decide_eq_true holds
  exact homed _ found _ member lastCounted counted same

variable {attester : String} {rates : List Rate}

omit homed in
theorem lookup_pending :
    (window samples).pending.lookup attester = some rates ↔
      rates = ratesOf samples attester ∧ rates ≠ [] := by
  rw [window_pending]
  exact lookup_group_eq_some

variable {as : String}

/-- The ballots of attesters seen from one AS each. -/
theorem SingleHomed.mem_ballots {rate : Rate} :
    (as, rate) ∈ (window samples).ballots ↔
      ∃ sample ∈ samples, sample.Counted ∧ sample.as = as ∧
        median (ratesOf samples sample.attester) = rate := by
  rw [Capacity.mem_ballots]
  constructor
  · rintro ⟨attester, rates, found, some, _, home, rfl⟩
    obtain ⟨rfl, _⟩ := lookup_pending.mp found
    obtain ⟨_, reported⟩ := exists_mem_of_ne_nil _ some
    obtain ⟨sample, member, counted, rfl, _⟩ := mem_ratesOf.mp reported
    rw [homed.lookup_asOf member counted] at home
    exact ⟨sample, member, counted, home, rfl⟩
  · rintro ⟨sample, member, counted, rfl, rfl⟩
    have some : ratesOf samples sample.attester ≠ [] :=
      ne_nil_of_mem (mem_ratesOf.mpr ⟨sample, member, counted, rfl, rfl⟩)
    refine ⟨sample.attester, _, lookup_pending.mpr ⟨rfl, some⟩, some, counted.2.2, ?_, rfl⟩
    rw [homed.lookup_asOf member counted]
    rfl

omit homed in
/-- Windows with the same ballots are observed alike. -/
theorem observed_congr {first second : Window} (params : Params)
    (attesters ases attesters' ases' : Iteration) (same : first.ballots = second.ballots) :
    first.observed params attesters ases = second.observed params attesters' ases' := by
  have permuted :
      ((first.collapse attesters ases).1).Perm (second.collapse attesters' ases').1 := by
    rw [← Multiset.coe_eq_coe, collapse_votes, collapse_votes, same]
  unfold Window.observed
  dsimp only
  rw [permuted.length_eq, quantile_perm permuted]

theorem ballots_congr (othersHomed : SingleHomed others)
    (attests : ∀ {attester as}, (∃ sample ∈ samples, sample.Counted ∧ sample.attester = attester ∧
        sample.as = as) ↔
      ∃ sample ∈ others, sample.Counted ∧ sample.attester = attester ∧ sample.as = as)
    (medians : ∀ attester, median (ratesOf samples attester) = median (ratesOf others attester)) :
    (window samples).ballots = (window others).ballots := by
  ext ⟨as, rate⟩
  rw [homed.mem_ballots, othersHomed.mem_ballots]
  constructor
  · rintro ⟨sample, member, counted, rfl, rfl⟩
    obtain ⟨other, found, kept, attester, home⟩ := attests.mp ⟨sample, member, counted, rfl, rfl⟩
    exact ⟨other, found, kept, home, by rw [attester, medians]⟩
  · rintro ⟨sample, member, counted, rfl, rfl⟩
    obtain ⟨other, found, kept, attester, home⟩ := attests.mpr ⟨sample, member, counted, rfl, rfl⟩
    exact ⟨other, found, kept, home, by rw [attester, medians]⟩

theorem SingleHomed.perm (permuted : samples.Perm others) : SingleHomed others := by
  intro first firstMember second secondMember
  exact homed first (permuted.mem_iff.mpr firstMember) second (permuted.mem_iff.mpr secondMember)

omit homed in
theorem SingleHomed.left (homed : SingleHomed (samples ++ more)) : SingleHomed samples := by
  intro first firstMember second secondMember
  exact homed first (mem_append_left _ firstMember) second
    (mem_append_left _ secondMember)

/-- The order of the samples does not matter. -/
theorem SingleHomed.ballots_perm (permuted : samples.Perm others) :
    (window samples).ballots = (window others).ballots := by
  apply ballots_congr homed (homed.perm permuted)
  · intro attester as
    simp only [permuted.mem_iff]
  · intro attester
    apply median_perm
    exact valuesAt_perm ((permuted.filter _).map _) attester

/-- How often an attester repeats its one value does not matter. -/
theorem SingleHomed.ballots_repeat (member : sample ∈ samples) (counted : sample.Counted)
    (constant : ∀ other ∈ samples, other.Counted → other.attester = sample.attester →
      other.throughput = sample.throughput) (copies : Nat) :
    (window samples).ballots = (window (samples ++ replicate copies sample)).ballots := by
  have mem_iff : ∀ {other}, other ∈ samples ++ replicate copies sample ↔ other ∈ samples := by
    intro other
    rw [mem_append, mem_replicate]
    constructor
    · rintro (found | ⟨_, rfl⟩)
      · exact found
      · exact member
    · exact Or.inl
  apply ballots_congr homed
  · intro first firstMember second secondMember
    exact homed first (mem_iff.mp firstMember) second (mem_iff.mp secondMember)
  · intro attester as
    simp only [mem_iff]
  · intro attester
    by_cases own : attester = sample.attester
    · -- All that this attester has reported, with or without the copies, is one value.
      subst own
      have single : ∀ {reports : List Sample}, sample ∈ reports →
          (∀ {other}, other ∈ reports → other ∈ samples) →
          median (ratesOf reports sample.attester) = sample.throughput := by
        intro reports found within
        apply median_constant
        · exact ne_nil_of_mem (mem_ratesOf.mpr ⟨sample, found, counted, rfl, rfl⟩)
        · intro rate reported
          obtain ⟨other, there, kept, same, rfl⟩ := mem_ratesOf.mp reported
          exact constant other (within there) kept same
      rw [single member id, single (mem_iff.mpr member) mem_iff.mp]
    · have none : ratesOf (replicate copies sample) attester = [] := by
        apply ratesOf_eq_nil
        intro other there _ same
        rw [eq_of_mem_replicate there] at same
        exact own same.symm
      rw [ratesOf_append, none, append_nil]

omit homed

/-- Samples of other attesters leave an attester's ballot as it is. -/
theorem mem_ballots_append (attests : (window samples).pending.lookup attester = some rates)
    (home : (window samples).asOf.lookup attester = some as)
    (apart : ∀ other ∈ more, other.Counted → other.attester ≠ attester) :
    (as, median rates) ∈ (window (samples ++ more)).ballots := by
  have silent : more.filter (fun other => other.Counted ∧ other.attester = attester) = [] := by
    rw [filter_eq_nil_iff]
    intro other member holds
    obtain ⟨counted, same⟩ := of_decide_eq_true holds
    exact apart other member counted same
  have kept : (window (samples ++ more)).asOf.lookup attester = some as := by
    rw [lookup_asOf, filter_append, silent, append_nil, ← lookup_asOf]
    exact home
  have named : as ≠ "" := by
    rw [lookup_asOf] at home
    obtain ⟨_, found, rfl⟩ := Option.map_eq_some_iff.mp home
    have holds := (mem_filter.mp (mem_of_getLast? found)).2
    exact (of_decide_eq_true holds).1.2.2
  obtain ⟨rfl, some⟩ := lookup_pending.mp attests
  rw [mem_ballots]
  refine ⟨attester, ratesOf samples attester, ?_, some, named, ?_, rfl⟩
  · rw [lookup_pending, ratesOf_append, ratesOf_eq_nil apart, append_nil]
    exact ⟨rfl, some⟩
  · rw [kept]
    rfl

/-- Samples from a new AS leave the ballots of every other. -/
theorem SingleHomed.mem_ballots_new_as {other : String} {rate : Rate}
    (homed : SingleHomed (samples ++ more)) (inside : ∀ newer ∈ more, newer.Counted → newer.as = as)
    (outside : ∀ older ∈ samples, older.Counted → older.as ≠ as) (different : other ≠ as) :
    (other, rate) ∈ (window (samples ++ more)).ballots ↔
      (other, rate) ∈ (window samples).ballots := by
  -- No attester from before is heard in the new AS, since it would have moved there.
  have unheard : ∀ {sample}, sample ∈ samples → sample.Counted →
      ratesOf (samples ++ more) sample.attester = ratesOf samples sample.attester := by
    intro sample member counted
    have apart : ∀ newer ∈ more, newer.Counted → newer.attester ≠ sample.attester := by
      intro newer found kept attester
      have moved := homed newer (mem_append_right _ found) sample
        (mem_append_left _ member) kept counted attester
      rw [inside newer found kept] at moved
      exact outside sample member counted moved.symm
    rw [ratesOf_append, ratesOf_eq_nil apart, append_nil]
  rw [homed.mem_ballots, homed.left.mem_ballots]
  constructor
  · rintro ⟨sample, member, counted, rfl, rfl⟩
    rcases mem_append.mp member with old | new
    · exact ⟨sample, old, counted, rfl, by rw [unheard old counted]⟩
    · exact absurd (inside sample new counted) different
  · rintro ⟨sample, member, counted, rfl, rfl⟩
    exact ⟨sample, mem_append_left _ member, counted, rfl, by rw [unheard member counted]⟩

/-- An AS with attesters of its own adds its vote and changes no other. -/
theorem votes_new_as {attesters : Iteration} {added : Rate} (homed : SingleHomed (samples ++ more))
    (inside : ∀ newer ∈ more, newer.Counted → newer.as = as)
    (outside : ∀ older ∈ samples, older.Counted → older.as ≠ as)
    (voted : (window (samples ++ more)).voteOf attesters as = some added) :
    votes (window (samples ++ more)).ballots = added ::ₘ votes (window samples).ballots := by
  have same : ∀ {other rate}, other ≠ as →
      ((other, rate) ∈ (window (samples ++ more)).ballots ↔
        (other, rate) ∈ (window samples).ballots) :=
    homed.mem_ballots_new_as inside outside
  have absent : as ∉ (window samples).ballots.image Prod.fst := by
    rw [Finset.mem_image]
    rintro ⟨⟨_, rate⟩, cast, rfl⟩
    obtain ⟨sample, member, counted, home, _⟩ := homed.left.mem_ballots.mp cast
    exact outside sample member counted home
  obtain ⟨rates, found, rfl⟩ := Option.map_eq_some_iff.mp voted
  have present : as ∈ (window (samples ++ more)).ballots.image Prod.fst :=
    exists_lookup_byAS.mp ⟨rates, found⟩
  have named : (window (samples ++ more)).ballots.image Prod.fst =
      insert as ((window samples).ballots.image Prod.fst) := by
    ext other
    rw [Finset.mem_insert]
    by_cases own : other = as
    · subst own
      exact iff_of_true present (.inl rfl)
    · simp only [own, false_or, Finset.mem_image, Prod.exists, exists_and_right, exists_eq_right,
        same own]
  rw [votes, named, Finset.insert_val_of_notMem absent, Multiset.map_cons, minRate_byAS found]
  congr 1
  apply Multiset.map_congr rfl
  intro other member
  have different : other ≠ as := by
    rintro rfl
    exact absent member
  unfold vote
  congr 1
  ext rate
  exact same different

variable {params : Params} {attesters ases : Iteration}

/-- A window that is judged has at least one vote. -/
theorem observed_eq_some {window : Window} {observed : Rate}
    (judged : window.observed params attesters ases = some observed) :
    params.minASes ≤ (window.collapse attesters ases).1.length ∧
      (window.collapse attesters ases).1 ≠ [] ∧
      quantile (window.collapse attesters ases).1 params.quantile = observed := by
  unfold Window.observed at judged
  dsimp only at judged
  split_ifs at judged with few
  have enough := Nat.not_lt.mp few
  refine ⟨enough, ?_, Option.some.inj judged⟩
  have positive := params.minASesPositive
  rw [← length_pos_iff]
  omega

theorem observed_new_as {observed added : Rate} (homed : SingleHomed (samples ++ more))
    (inside : ∀ other ∈ more, other.Counted → other.as = as)
    (outside : ∀ other ∈ samples, other.Counted → other.as ≠ as)
    (judged : (window samples).observed params attesters ases = some observed)
    (voted : (window (samples ++ more)).voteOf attesters as = some added) (below : added ≤ observed)
    (precise : params.Exact ((window samples).collapse attesters ases).1.length)
    (preciseNext : params.Exact (((window samples).collapse attesters ases).1.length + 1)) :
    ∃ next, (window (samples ++ more)).observed params attesters ases = some next ∧
      next ≤ observed := by
  obtain ⟨_, some, rfl⟩ := observed_eq_some judged
  have permuted : ((window (samples ++ more)).collapse attesters ases).1.Perm
      (added :: ((window samples).collapse attesters ases).1) := by
    rw [← Multiset.coe_eq_coe, ← Multiset.cons_coe, collapse_votes, collapse_votes,
      votes_new_as homed inside outside voted]
  generalize ((window samples).collapse attesters ases).1 = votes at *
  have positive : 0 < votes.length := length_pos_iff.mpr some
  obtain ⟨rank, value⟩ := quantile_eq some precise
  obtain ⟨_, nextValue⟩ := @quantile_eq params (added :: votes) (cons_ne_nil _ _) preciseNext
  refine ⟨quantile (added :: votes) params.quantile, ?_, ?_⟩
  · unfold Window.observed
    dsimp only
    rw [permuted.length_eq, quantile_perm permuted, if_neg]
    rw [length_cons]
    omega
  · rw [value] at below ⊢
    rw [nextValue]
    apply orderStatistic_cons_le rank below
    have step := Binary64.floorMul_succ_le params.quantileUpToOne (votes.length - 1)
    rw [Nat.sub_add_cancel positive] at step
    exact step

/-- The observation of a window is at least a bound exactly when all but the lower tail of the votes
are. No sample of another attester lifts the vote of an AS above an attester's median. A new AS with
a vote not above the observation does not raise it. The order of the loops does not matter, nor that
of the samples of attesters seen from one AS each, nor how often an attester repeats the one value
it reports. -/
theorem observation_bounds (params : Params) (attesters ases : Iteration) :
    (∀ {samples observed}, (window samples).observed params attesters ases = some observed →
      params.Exact ((window samples).collapse attesters ases).1.length → ∀ bound,
        (bound ≤ observed ↔
          ((window samples).collapse attesters ases).1.length -
              params.quantile.floorMul (((window samples).collapse attesters ases).1.length - 1) ≤
            ((window samples).collapse attesters ases).1.countP (bound ≤ ·))) ∧
    (∀ {samples more attester as rates},
      (window samples).pending.lookup attester = some rates →
      (window samples).asOf.lookup attester = some as →
      (∀ other ∈ more, other.Counted → other.attester ≠ attester) →
      ∃ vote, (window (samples ++ more)).voteOf attesters as = some vote ∧
        vote ≤ median rates) ∧
    (∀ {samples more as observed added}, SingleHomed (samples ++ more) →
      (∀ newer ∈ more, newer.Counted → newer.as = as) →
      (∀ older ∈ samples, older.Counted → older.as ≠ as) →
      (window samples).observed params attesters ases = some observed →
      (window (samples ++ more)).voteOf attesters as = some added → added ≤ observed →
      params.Exact ((window samples).collapse attesters ases).1.length →
      params.Exact (((window samples).collapse attesters ases).1.length + 1) →
      ∃ next, (window (samples ++ more)).observed params attesters ases = some next ∧
        next ≤ observed) ∧
    (∀ samples attesters' ases', (window samples).observed params attesters ases =
      (window samples).observed params attesters' ases') ∧
    (∀ {samples others}, SingleHomed samples → samples.Perm others →
      (window samples).observed params attesters ases =
        (window others).observed params attesters ases) ∧
    (∀ {samples sample}, SingleHomed samples → sample ∈ samples → sample.Counted →
      (∀ other ∈ samples, other.Counted → other.attester = sample.attester →
        other.throughput = sample.throughput) → ∀ copies,
      (window samples).observed params attesters ases =
        (window (samples ++ List.replicate copies sample)).observed params attesters ases) := by
  refine ⟨?_, ?_, ?_, ?_, ?_, ?_⟩
  · intro samples observed judged precise bound
    obtain ⟨_, some, rfl⟩ := observed_eq_some judged
    obtain ⟨inside, value⟩ := quantile_eq some precise
    rw [value]
    exact le_orderStatistic_iff inside bound
  · intro samples more attester as rates attests home apart
    have cast := mem_ballots_append attests home apart
    obtain ⟨medians, found⟩ : ∃ rates, ((window (samples ++ more)).byAS attesters).lookup as =
      some rates := exists_lookup_byAS.mpr (Finset.mem_image_of_mem Prod.fst cast)
    refine ⟨minRate medians, ?_, ?_⟩
    · rw [Window.voteOf, found]
      rfl
    · rw [minRate_byAS found]
      exact vote_le cast
  · exact observed_new_as
  · intro samples attesters' ases'
    exact observed_congr params attesters ases attesters' ases' rfl
  · intro samples others homed permuted
    exact observed_congr params _ _ _ _ (homed.ballots_perm permuted)
  · intro samples sample homed member counted constant copies
    exact observed_congr params _ _ _ _ (homed.ballots_repeat member counted constant copies)

end

/-- A quarter of the votes and at least two of them, as in `DefaultParams`. -/
def defaultParams : Params where
  quantile := ⟨1, 2, by decide⟩
  minASes := 2
  quantileUpToOne := by decide
  minASesPositive := by decide

/-- The index at the default quantile is not rounded for any number of votes a conversion keeps. -/
theorem defaultParams_exact {n : Nat} (convertible : n ≤ 2 ^ 53) : defaultParams.Exact n := by
  apply Binary64.truncMul_eq_floorMul
  · omega
  · change 1 * (n - 1) < 2 ^ 53
    omega

/-- The order in which the entries are stored. -/
def storedOrder : Iteration := ⟨fun table => table.entries, fun _ => .refl _⟩

/-- Four clients, each from an AS of its own. -/
def fourClients : List Sample :=
  [⟨1, true, "bob", "AS1"⟩, ⟨2, true, "carol", "AS2"⟩, ⟨3, true, "dave", "AS3"⟩,
    ⟨4, true, "erin", "AS4"⟩]

/-- A fifth AS that votes no higher does not raise the observation, and the four may come in any
order. -/
theorem slow_as_does_not_raise :
    (∃ next, (window (fourClients ++ [⟨0, true, "frank", "AS5"⟩])).observed defaultParams
        storedOrder storedOrder = some next ∧ next ≤ 1) ∧
      (window fourClients.reverse).observed defaultParams storedOrder storedOrder = some 1 := by
  obtain ⟨_, _, newAs, _, reordered, _⟩ :=
    observation_bounds defaultParams storedOrder storedOrder
  have homed : SingleHomed (fourClients ++ [⟨0, true, "frank", "AS5"⟩]) := by
    unfold SingleHomed
    decide
  have judged : (window fourClients).observed defaultParams storedOrder storedOrder = some 1 := by
    decide
  constructor
  · have voted : (window (fourClients ++ [⟨0, true, "frank", "AS5"⟩])).voteOf storedOrder "AS5" =
        some 0 := by decide
    exact @newAs _ _ "AS5" 1 0 homed (by decide) (by decide) judged voted (by decide)
      (defaultParams_exact (by decide)) (defaultParams_exact (by decide))
  · rw [← reordered homed.left (reverse_perm fourClients).symm]
    exact judged

/-- The float64 nearest to 0.3, which is below it. -/
def threeTenths : Params where
  quantile := ⟨5404319552844595, 54, by decide⟩
  minASes := 2
  quantileUpToOne := by decide
  minASesPositive := by decide

/-- Clients that each vote for their place in the list. -/
def ranked (clients : List String) : List Sample :=
  clients.mapIdx fun place client => ⟨place + 1, true, client, client⟩

/-- A client that moves from one AS to another counts in the last one. A client that repeats one of
two values moves its median. And the product of 0.3 and 10 is rounded up to 3, so that eight of
eleven votes carry the observation where nine are asked for. -/
theorem order_repetition_and_rounding_matter :
    (∃ samples others : List Sample, samples.Perm others ∧
      (window samples).observed defaultParams storedOrder storedOrder ≠
        (window others).observed defaultParams storedOrder storedOrder) ∧
    (∃ (samples : List Sample) (sample : Sample), sample ∈ samples ∧ SingleHomed samples ∧
      (window samples).observed defaultParams storedOrder storedOrder ≠
        (window (samples ++ [sample])).observed defaultParams storedOrder storedOrder) ∧
    ∃ samples : List Sample,
      (window samples).observed threeTenths storedOrder storedOrder = some 4 ∧
      ((window samples).collapse storedOrder storedOrder).1.length = 11 ∧
      threeTenths.quantile.floorMul 10 = 2 ∧
      ((window samples).collapse storedOrder storedOrder).1.countP (4 ≤ ·) = 8 := by
  refine ⟨?_, ?_, ?_⟩
  · refine ⟨fourClients ++ [⟨9, true, "alice", "AS1"⟩, ⟨9, true, "alice", "AS5"⟩],
      fourClients ++ [⟨9, true, "alice", "AS5"⟩, ⟨9, true, "alice", "AS1"⟩], ?_, ?_⟩
    · exact (List.Perm.swap _ _ _).append_left _
    · decide
  · refine ⟨[⟨1, true, "alice", "AS1"⟩, ⟨5, true, "alice", "AS1"⟩, ⟨9, true, "bob", "AS2"⟩],
      ⟨5, true, "alice", "AS1"⟩, by decide, ?_, by decide⟩
    unfold SingleHomed
    decide
  · exact ⟨ranked ["a", "b", "c", "d", "e", "f", "g", "h", "i", "j", "k"], by decide, by decide,
      by decide, by decide⟩

end Bacchus.Capacity
