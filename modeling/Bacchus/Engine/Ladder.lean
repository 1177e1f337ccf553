import Mathlib.Data.List.Sort

/-!
# The ladder of candidate paths

`core/selection` orders what a client tries: the learned path, then the countries in scope on the
primary transport, on the alternates, and by relay. How `unicode` folds a letter is a parameter.
-/

namespace Bacchus.Selection

open List

/-- One connection path. -/
structure Candidate where
  transport : String
  country : String
  mode : String
deriving DecidableEq

/-- A country the coordinator offers. A round trip of zero is unknown. -/
structure Country where
  code : String
  busy : Bool
  rtt : Int

structure LadderInput where
  geo : String
  countries : List Country
  transports : List String
  learned : Option Candidate
  cooling : Option (Candidate → Bool)

def modeDirect : String := "direct"
def modeRelay : String := "relay"

variable (fold : Char → Char)

/-- `strings.EqualFold`. -/
def equalFold (left right : String) : Bool := left.toList.map fold = right.toList.map fold

def inScope (countries : List Country) (geo : String) : List Country :=
  countries.filter fun country => if geo ≠ "" then equalFold fold country.code geo
    else !country.busy

/-- The order of `sortByPing`: a country not known to be fast never comes first. -/
def Country.faster (left right : Country) : Bool :=
  left.rtt ≠ 0 ∧ (right.rtt = 0 ∨ left.rtt < right.rtt)

/-- A stable sort. -/
def sortByPing (countries : List Country) : List Country :=
  countries.insertionSort fun left right => right.faster left = false

def countriesAs (transport mode : String) (countries : List Country) : List Candidate :=
  countries.map fun country => ⟨transport, country.code, mode⟩

def countryPresent (countries : List Country) (code : String) : Bool :=
  countries.any fun country => equalFold fold country.code code

def isCooling (cooling : Option (Candidate → Bool)) (candidate : Candidate) : Bool :=
  cooling.any fun cooling => cooling candidate

def sinkCooling (cooling : Option (Candidate → Bool)) (tier : List Candidate) : List Candidate :=
  (tier.filter fun candidate => !isCooling cooling candidate) ++ tier.filter (isCooling cooling)

/-- The loop of `dedup`. -/
def dedup (seen : List Candidate) : List Candidate → List Candidate
  | [] => []
  | candidate :: rest =>
    if candidate ∈ seen then dedup seen rest else candidate :: dedup (candidate :: seen) rest

/-- The learned path, if it is in scope and not cooling. -/
def LadderInput.pick (input : LadderInput) (countries : List Country) : Option Candidate :=
  input.learned.filter fun learned =>
    countryPresent fold countries learned.country && !isCooling input.cooling learned

def ladder (input : LadderInput) : List Candidate :=
  let countries := sortByPing (inScope fold input.countries input.geo)
  let tiers := (input.pick fold countries).toList :: match input.transports with
    | [] => []
    | primary :: alternates =>
      [countriesAs primary modeDirect countries,
        alternates.flatMap fun transport => countriesAs transport modeDirect countries,
        countriesAs primary modeRelay countries]
  dedup [] (tiers.flatMap (sinkCooling input.cooling))

theorem mem_dedup {candidate : Candidate} {seen candidates : List Candidate} :
    candidate ∈ dedup seen candidates ↔ candidate ∈ candidates ∧ candidate ∉ seen := by
  induction candidates generalizing seen with
  | nil => simp [dedup]
  | cons first rest ih =>
    unfold dedup
    split_ifs with known
    · rw [ih]
      grind
    · rw [mem_cons, ih]
      grind

theorem nodup_dedup (seen candidates : List Candidate) : (dedup seen candidates).Nodup := by
  induction candidates generalizing seen with
  | nil => exact nodup_nil
  | cons first rest ih =>
    unfold dedup
    split_ifs
    · exact ih seen
    · exact nodup_cons.mpr ⟨fun again => (mem_dedup.mp again).2 mem_cons_self, ih _⟩

theorem nodup_ladder (input : LadderInput) : (ladder fold input).Nodup := nodup_dedup _ _

variable {fold} {input : LadderInput} {candidate : Candidate}

theorem mem_sinkCooling {cooling : Option (Candidate → Bool)} {tier : List Candidate} :
    candidate ∈ sinkCooling cooling tier ↔ candidate ∈ tier := by
  simp only [sinkCooling, mem_append, mem_filter]
  cases isCooling cooling candidate <;> simp

theorem mem_countriesAs {transport mode : String} {countries : List Country} :
    candidate ∈ countriesAs transport mode (sortByPing countries) ↔
      candidate.transport = transport ∧ candidate.mode = mode ∧
        ∃ country ∈ countries, country.code = candidate.country := by
  obtain ⟨_, _, _⟩ := candidate
  simp only [countriesAs, mem_map, sortByPing, (perm_insertionSort _ _).mem_iff,
    Candidate.mk.injEq]
  grind

/-- The transports and modes in which every country is tried. -/
def LadderInput.Tries (input : LadderInput) (candidate : Candidate) : Prop :=
  candidate.mode = modeDirect ∧ candidate.transport ∈ input.transports ∨
    candidate.mode = modeRelay ∧ input.transports.head? = some candidate.transport

/-- The countries a candidate may be in. -/
def LadderInput.scope (fold : Char → Char) (input : LadderInput) : List Country :=
  inScope fold input.countries input.geo

/-- The learned path is tried, and every country in scope on every transport. -/
theorem mem_ladder : candidate ∈ ladder fold input ↔
    (candidate ∈ input.learned ∧ isCooling input.cooling candidate = false ∧
      ∃ country ∈ input.scope fold, equalFold fold country.code candidate.country) ∨
    input.Tries candidate ∧ ∃ country ∈ input.scope fold, country.code = candidate.country := by
  have picked : candidate ∈ input.pick fold (sortByPing (input.scope fold)) ↔
      candidate ∈ input.learned ∧ isCooling input.cooling candidate = false ∧
        ∃ country ∈ input.scope fold, equalFold fold country.code candidate.country := by
    simp [LadderInput.pick, countryPresent, sortByPing, Option.filter_eq_some_iff,
      (perm_insertionSort _ _).mem_iff, and_comm]
  rw [ladder, mem_dedup, ← picked, LadderInput.scope]
  simp only [flatMap_cons, mem_append, mem_sinkCooling, Option.mem_toList, not_mem_nil,
    not_false_eq_true, and_true, LadderInput.Tries]
  refine or_congr_right ?_
  cases input.transports with
  | nil => simp
  | cons primary alternates =>
    simp only [flatMap_cons, flatMap_nil, append_nil, mem_append, mem_sinkCooling, mem_flatMap,
      mem_countriesAs, mem_cons, head?_cons, Option.some.injEq]
    grind

/-- What a candidate denotes, without regard to letter case. -/
def Candidate.path (fold : Char → Char) (candidate : Candidate) : String × String × List Char :=
  (candidate.transport, candidate.mode, candidate.country.toList.map fold)

/-- No two countries in scope differ in letter case only, and a learned path that would be tried is
on a configured transport and spells its country as the ladder. -/
structure LadderInput.Consistent (fold : Char → Char) (input : LadderInput) : Prop where
  countries : input.transports ≠ [] → ∀ left ∈ input.scope fold, ∀ right ∈ input.scope fold,
    equalFold fold left.code right.code → left.code = right.code
  learned : ∀ learned ∈ input.learned, isCooling input.cooling learned = false →
    ∀ country ∈ input.scope fold, equalFold fold country.code learned.country →
      learned.transport ∈ input.transports ∧ (input.Tries learned → country.code = learned.country)

/-- Every candidate is on a configured transport and no two are one path, exactly if the input is
consistent. -/
theorem ladder_sound_iff (fold : Char → Char) (input : LadderInput) :
    (∀ candidate ∈ ladder fold input, candidate.transport ∈ input.transports) ∧
      ((ladder fold input).map (Candidate.path fold)).Nodup ↔ input.Consistent fold := by
  rw [nodup_map_iff_inj_on (nodup_ladder fold input)]
  constructor
  · rintro ⟨configured, distinct⟩
    constructor
    · intro configured left inLeft right inRight same
      obtain ⟨primary, alternates, transports⟩ := exists_cons_of_ne_nil configured
      have tried {country : Country} (inside : country ∈ input.scope fold) :
          ⟨primary, country.code, modeDirect⟩ ∈ ladder fold input :=
        mem_ladder.mpr (.inr ⟨.inl ⟨rfl, transports ▸ mem_cons_self⟩, country, inside, rfl⟩)
      have equal := distinct _ (tried inLeft) _ (tried inRight)
        (by simpa [Candidate.path, equalFold] using same)
      exact congrArg Candidate.country equal
    · intro learned isLearned healthy country inside same
      have listed := mem_ladder.mpr (.inl ⟨isLearned, healthy, country, inside, same⟩)
      refine ⟨configured learned listed, fun tries => ?_⟩
      have spelled : { learned with country := country.code } ∈ ladder fold input :=
        mem_ladder.mpr (.inr ⟨tries, country, inside, rfl⟩)
      have equal := distinct _ spelled _ listed
        (by simpa [Candidate.path, equalFold] using same)
      exact congrArg Candidate.country equal
  · intro consistent
    constructor
    · intro candidate listed
      rcases mem_ladder.mp listed with ⟨isLearned, healthy, country, inside, same⟩ | ⟨tries, -⟩
      · exact (consistent.learned candidate isLearned healthy country inside same).1
      · rcases tries with ⟨-, configured⟩ | ⟨-, primary⟩
        · exact configured
        · exact mem_of_head? primary
    · -- A country is spelled alike wherever its path is tried.
      have spelled : ∀ candidate ∈ ladder fold input, input.Tries candidate →
          ∀ country ∈ input.scope fold, equalFold fold country.code candidate.country →
            country.code = candidate.country := by
        intro candidate listed tries country inside same
        rcases mem_ladder.mp listed with ⟨isLearned, healthy, -⟩ | ⟨-, own, inOwn, code⟩
        · exact (consistent.learned candidate isLearned healthy country inside same).2 tries
        · rw [← code] at same ⊢
          refine consistent.countries ?_ country inside own inOwn same
          rintro none
          simp [LadderInput.Tries, none] at tries
      intro left inLeft right inRight same
      obtain ⟨transport, country, mode⟩ := left
      obtain ⟨transport', country', mode'⟩ := right
      simp only [Candidate.path, Prod.mk.injEq] at same
      obtain ⟨rfl, rfl, folded⟩ := same
      rcases mem_ladder.mp inRight with ⟨isRight, -⟩ | ⟨tries, own, inOwn, rfl⟩
      · rcases mem_ladder.mp inLeft with ⟨isLeft, -⟩ | ⟨tries, own, inOwn, rfl⟩
        · exact Option.some.inj (isLeft.symm.trans isRight)
        · rw [spelled _ inRight tries own inOwn (decide_eq_true folded)]
      · rw [spelled _ inLeft tries own inOwn (decide_eq_true folded.symm)]

/-- One country is offered on one transport. -/
def oneCountry (learned : Candidate) : LadderInput where
  geo := ""
  countries := [⟨"NL", false, 0⟩]
  transports := ["webrtc"]
  learned := some learned
  cooling := none

/-- A path learned on a transport no longer configured is tried, and one learned in another letter
case twice. -/
theorem learned_path_unconfigured_or_repeated :
    ⟨"reality", "NL", modeDirect⟩ ∈ ladder Char.toLower
      (oneCountry ⟨"reality", "NL", modeDirect⟩) ∧
    "reality" ∉ (oneCountry ⟨"reality", "NL", modeDirect⟩).transports ∧
    ¬((ladder Char.toLower (oneCountry ⟨"webrtc", "nl", modeDirect⟩)).map
      (Candidate.path Char.toLower)).Nodup := by
  decide

end Bacchus.Selection
