import Bacchus.Coordinator.Drain
import Mathlib.Data.List.Permutation

/-!
# The country list and the choice of an exit

`countrySnapshot` shows how many exits of each country a client could be given, and `chooseExit`
gives it one. Both walk the same map, count by the same test and read the same load.
-/

namespace Bacchus.Coordinator

open List

section

variable (ranking : Ranking) (walk : List ExitNode) (load : String → Nat) (limits : TierLimit)

/-- The exits of a country. -/
def exitsIn (code : String) : List ExitNode := walk.filter fun exit => exit.claims.derived = code

/-- The exits of a country that may be given a new session. -/
def assignableIn (code : String) : List ExitNode :=
  (exitsIn walk code).filter fun exit => ranking.exitAssignable exit (load exit.id) limits

/-- The exits one connect chooses among. -/
def considered (code : String) (exclude : List String) : List ExitNode :=
  afterExclusion (assignableIn ranking walk load limits code) exclude

variable {ranking walk load limits} {code : String} {exclude : List String}

theorem considered_subset :
    considered ranking walk load limits code exclude ⊆
      assignableIn ranking walk load limits code := by
  intro exit member
  unfold considered afterExclusion at member
  dsimp only at member
  split_ifs at member
  · exact mem_of_mem_filter member
  · exact member

/-- An exclusion never takes the last exit. -/
theorem considered_ne_nil (some : assignableIn ranking walk load limits code ≠ []) :
    considered ranking walk load limits code exclude ≠ [] := by
  unfold considered afterExclusion
  dsimp only
  split_ifs with left
  · have two : 2 ≤ _ := left.2
    exact length_pos_iff.mp (by omega)
  · exact some

/-- A running maximum is its start or the value of an item, and no item is above it. -/
theorem foldl_max_spec {Item : Type} (value : Item → Nat) (items : List Item) (start : Nat) :
    let top := items.foldl (fun best item => max best (value item)) start
    (top = start ∨ ∃ item ∈ items, top = value item) ∧ start ≤ top ∧
      ∀ item ∈ items, value item ≤ top := by
  induction items generalizing start with
  | nil => exact ⟨.inl rfl, Nat.le_refl _, nofun⟩
  | cons item items ih =>
    obtain ⟨attained, above, bounds⟩ := ih (max start (value item))
    refine ⟨?_, (Nat.le_max_left _ _).trans above, ?_⟩
    · rcases attained with same | ⟨other, member, same⟩
      · rcases Nat.le_total start (value item) with higher | lower
        · exact .inr ⟨item, .head _, same.trans (Nat.max_eq_right higher)⟩
        · exact .inl (same.trans (Nat.max_eq_left lower))
      · exact .inr ⟨other, .tail _ member, same⟩
    · intro other member
      rcases mem_cons.mp member with rfl | later
      · exact (Nat.le_max_right _ _).trans above
      · exact bounds other later

/-- The floor is half of the best share, rounded up; the best is one of them. -/
theorem tierFloor_spec {candidates : List ExitNode} (some : candidates ≠ []) :
    ∃ best ∈ candidates,
      ranking.tierFloor candidates load = octaveFloor (ranking.rankShare best (load best.id)) ∧
        ∀ exit ∈ candidates,
          ranking.rankShare exit (load exit.id) ≤ ranking.rankShare best (load best.id) := by
  obtain ⟨attained, -, bounds⟩ :=
    foldl_max_spec (fun exit : ExitNode => ranking.rankShare exit (load exit.id)) candidates 0
  unfold Ranking.tierFloor
  rcases attained with zero | ⟨best, member, same⟩
  · -- No share at all: any candidate is the best.
    obtain ⟨first, member⟩ := exists_mem_of_ne_nil candidates some
    have none := Nat.le_zero.mp (zero ▸ bounds first member)
    refine ⟨first, member, by rw [zero, none], fun exit other => ?_⟩
    rw [none]
    exact zero ▸ bounds exit other
  · exact ⟨best, member, by rw [same], fun exit other => same ▸ bounds exit other⟩

section

variable {country : String} {exclude : List String}

/-- Some candidate is at the floor or above it, so the search for one does not fail. -/
theorem find_considered {code : String}
    (free : assignableIn ranking walk load limits code ≠ []) :
    ∃ exit ∈ considered ranking walk load limits code exclude,
      ((considered ranking walk load limits code exclude).find? fun exit =>
        ranking.tierFloor (considered ranking walk load limits code exclude) load ≤
          ranking.rankShare exit (load exit.id)) = some exit ∧
      ∀ other ∈ considered ranking walk load limits code exclude,
        ranking.rankShare other (load other.id) ≤ 2 * ranking.rankShare exit (load exit.id) := by
  obtain ⟨best, member, floor, bounds⟩ := tierFloor_spec (considered_ne_nil free)
  rw [floor]
  unfold octaveFloor
  cases picked : (considered ranking walk load limits code exclude).find? fun exit =>
      (ranking.rankShare best (load best.id) + 1) / 2 ≤ ranking.rankShare exit (load exit.id) with
  | none =>
    have below := find?_eq_none.mp picked best member
    rw [decide_eq_true_eq] at below
    omega
  | some exit =>
    have above := find?_some picked
    rw [decide_eq_true_eq] at above
    refine ⟨exit, mem_of_find?_eq_some picked, rfl, fun other inside => ?_⟩
    have top := bounds other inside
    omega

/-- The three answers of `chooseExit`, by what the walk holds of the country. -/
theorem chooseExit_cases :
    (Geoip.canonical country = "" ∨ exitsIn walk (Geoip.canonical country) = []) ∧
      chooseExit ranking walk load country exclude limits = .error .noCountry ∨
    (Geoip.canonical country ≠ "" ∧ exitsIn walk (Geoip.canonical country) ≠ [] ∧
        assignableIn ranking walk load limits (Geoip.canonical country) = []) ∧
      chooseExit ranking walk load country exclude limits = .error .countryBusy ∨
    (Geoip.canonical country ≠ "" ∧ exitsIn walk (Geoip.canonical country) ≠ [] ∧
        assignableIn ranking walk load limits (Geoip.canonical country) ≠ []) ∧
      ∃ exit ∈ considered ranking walk load limits (Geoip.canonical country) exclude,
        chooseExit ranking walk load country exclude limits = .ok exit ∧
        (∀ other ∈ considered ranking walk load limits (Geoip.canonical country) exclude,
          ranking.rankShare other (load other.id) ≤ 2 * ranking.rankShare exit (load exit.id)) ∧
        ((considered ranking walk load limits (Geoip.canonical country) exclude).find? fun exit =>
          ranking.tierFloor (considered ranking walk load limits (Geoip.canonical country) exclude)
            load ≤ ranking.rankShare exit (load exit.id)) = some exit := by
  unfold chooseExit
  dsimp only
  by_cases named : Geoip.canonical country = ""
  · exact .inl ⟨.inl named, if_pos named⟩
  · rw [if_neg named]
    by_cases known : exitsIn walk (Geoip.canonical country) = []
    · exact .inl ⟨.inr known, if_pos known⟩
    · by_cases busy : assignableIn ranking walk load limits (Geoip.canonical country) = []
      · exact .inr (.inl ⟨⟨named, known, busy⟩, (if_neg known).trans (if_pos busy)⟩)
      · obtain ⟨exit, member, picked, best⟩ :=
          @find_considered ranking walk load limits exclude _ busy
        refine .inr (.inr ⟨⟨named, known, busy⟩, exit, member, ?_, best, picked⟩)
        refine (if_neg known).trans ((if_neg busy).trans ?_)
        split
        · next other found => rw [Option.some.inj (picked.symm.trans found)]
        · next missing => exact nomatch picked.symm.trans missing

end

theorem exitsIn_ne_nil :
    exitsIn walk code ≠ [] ↔ ∃ exit ∈ walk, exit.claims.derived = code := by
  constructor
  · intro some
    obtain ⟨exit, member⟩ := exists_mem_of_ne_nil _ some
    obtain ⟨walked, same⟩ := mem_filter.mp member
    exact ⟨exit, walked, of_decide_eq_true same⟩
  · rintro ⟨exit, walked, same⟩
    exact ne_nil_of_mem (mem_filter.mpr ⟨walked, decide_eq_true same⟩)

/-- A country is listed if an exit carries its tag, with the counts of the walk. -/
theorem mem_countrySnapshot {info : CountryInfo} :
    info ∈ countrySnapshot ranking walk load limits ↔
      info.country ≠ "" ∧ exitsIn walk info.country ≠ [] ∧
        info.exits = (exitsIn walk info.country).length ∧
        info.available = (assignableIn ranking walk load limits info.country).length ∧
        info.busy = decide (info.available = 0) := by
  have inside : ∀ code, code ≠ "" →
      ((walk.filter fun exit => exit.claims.derived ≠ "").filter fun exit =>
        exit.claims.derived = code) = exitsIn walk code := by
    intro code known
    rw [filter_filter]
    apply filter_congr
    intro exit _
    by_cases same : exit.claims.derived = code
    · simp [same, known]
    · simp [same]
  have listed : ∀ code, code ∈ ((walk.filter fun exit => exit.claims.derived ≠ "").map
      fun exit => exit.claims.derived) ↔ code ≠ "" ∧ exitsIn walk code ≠ [] := by
    intro code
    rw [mem_map, exitsIn_ne_nil]
    constructor
    · rintro ⟨exit, member, rfl⟩
      obtain ⟨walked, tagged⟩ := mem_filter.mp member
      exact ⟨of_decide_eq_true tagged, exit, walked, rfl⟩
    · rintro ⟨tagged, exit, walked, rfl⟩
      exact ⟨exit, mem_filter.mpr ⟨walked, decide_eq_true tagged⟩, rfl⟩
  unfold countrySnapshot
  simp only [mem_map, mem_mergeSort, mem_dedup]
  constructor
  · rintro ⟨code, member, rfl⟩
    obtain ⟨tagged, known⟩ := (listed code).mp (mem_map.mpr member)
    refine ⟨tagged, known, ?_⟩
    simp only [inside code tagged]
    exact ⟨trivial, rfl, trivial⟩
  · rintro ⟨tagged, known, exits, available, busy⟩
    refine ⟨info.country, mem_map.mp ((listed info.country).mpr ⟨tagged, known⟩), ?_⟩
    obtain ⟨code, _, _, _⟩ := info
    simp only at tagged exits available busy
    simp only [inside code tagged]
    rw [exits, busy, available]
    rfl

theorem exists_mem_countrySnapshot {code : String} {Property : Nat → Prop} :
    (∃ info ∈ countrySnapshot ranking walk load limits,
        info.country = code ∧ Property info.available) ↔
      code ≠ "" ∧ exitsIn walk code ≠ [] ∧
        Property (assignableIn ranking walk load limits code).length := by
  constructor
  · rintro ⟨info, member, rfl, holds⟩
    obtain ⟨tagged, known, -, available, -⟩ := mem_countrySnapshot.mp member
    exact ⟨tagged, known, available ▸ holds⟩
  · rintro ⟨tagged, known, holds⟩
    let available := (assignableIn ranking walk load limits code).length
    exact ⟨⟨code, (exitsIn walk code).length, available, decide (available = 0)⟩,
      mem_countrySnapshot.mpr ⟨tagged, known, rfl, rfl, rfl⟩, rfl, holds⟩

theorem forall_mem_countrySnapshot_ne :
    (∀ info ∈ countrySnapshot ranking walk load limits, info.country ≠ code) ↔
      code = "" ∨ exitsIn walk code = [] := by
  have present := @exists_mem_countrySnapshot ranking walk load limits code fun _ => True
  rw [← not_iff_not]
  push Not
  simpa using present

theorem exitsIn_perm {other : List ExitNode} (same : walk.Perm other) (code : String) :
    (exitsIn walk code).Perm (exitsIn other code) :=
  same.filter _

theorem assignableIn_perm {other : List ExitNode} (same : walk.Perm other) (code : String) :
    (assignableIn ranking walk load limits code).Perm
      (assignableIn ranking other load limits code) :=
  (exitsIn_perm same code).filter _

end

/-- What a client is shown is what a connect would get, over any two walks of the exits: a country
not listed is refused as unknown, one listed with nothing available as busy, and from one with
something available an exit is assigned. -/
theorem countryList_agrees (ranking : Ranking) (listed connecting : List ExitNode)
    (sameExits : listed.Perm connecting) (load : String → Nat) (limits : TierLimit)
    (tagged : ∀ exit ∈ listed, exit.claims.derived = "" ∨ Geoip.IsTag exit.claims.derived) :
    (∀ info ∈ countrySnapshot ranking listed load limits,
      Geoip.canonical info.country = info.country) ∧
    ∀ country exclude,
      ((∀ info ∈ countrySnapshot ranking listed load limits,
          info.country ≠ Geoip.canonical country) ↔
        chooseExit ranking connecting load country exclude limits = .error .noCountry) ∧
      ((∃ info ∈ countrySnapshot ranking listed load limits,
          info.country = Geoip.canonical country ∧ info.available = 0) ↔
        chooseExit ranking connecting load country exclude limits = .error .countryBusy) ∧
      ((∃ info ∈ countrySnapshot ranking listed load limits,
          info.country = Geoip.canonical country ∧ 0 < info.available) ↔
        ∃ exit, chooseExit ranking connecting load country exclude limits = .ok exit) ∧
      ∀ exit, chooseExit ranking connecting load country exclude limits = .ok exit →
        exit ∈ connecting ∧ exit.claims.derived = Geoip.canonical country ∧
        ranking.exitAssignable exit (load exit.id) limits = true ∧
        exit ∈ considered ranking connecting load limits (Geoip.canonical country) exclude ∧
        ∀ other ∈ considered ranking connecting load limits (Geoip.canonical country) exclude,
          ranking.rankShare other (load other.id) ≤ 2 * ranking.rankShare exit (load exit.id) := by
  constructor
  · intro info member
    obtain ⟨named, known, -⟩ := mem_countrySnapshot.mp member
    obtain ⟨exit, walked, same⟩ := exitsIn_ne_nil.mp known
    exact Geoip.canonical_of_isTag (same ▸ (tagged exit walked).resolve_left (same ▸ named))
  · intro country exclude
    have walks : exitsIn listed (Geoip.canonical country) = [] ↔
        exitsIn connecting (Geoip.canonical country) = [] := by
      rw [← length_eq_zero_iff, (exitsIn_perm sameExits _).length_eq, length_eq_zero_iff]
    have counts := (@assignableIn_perm ranking listed load limits _ sameExits
      (Geoip.canonical country)).length_eq
    have absent : (∀ info ∈ countrySnapshot ranking listed load limits,
        info.country ≠ Geoip.canonical country) ↔
        Geoip.canonical country = "" ∨ exitsIn connecting (Geoip.canonical country) = [] := by
      rw [forall_mem_countrySnapshot_ne, walks]
    have busy := @exists_mem_countrySnapshot ranking listed load limits (Geoip.canonical country)
      fun available => available = 0
    have free := @exists_mem_countrySnapshot ranking listed load limits (Geoip.canonical country)
      fun available => 0 < available
    rw [counts, length_eq_zero_iff, ne_eq, ne_eq, walks] at busy
    rw [counts, length_pos_iff, ne_eq, ne_eq, walks] at free
    rw [absent, busy, free]
    -- The three answers exclude one another, so each is settled by its own condition.
    rcases @chooseExit_cases ranking connecting load limits country exclude with
      ⟨unknown, answer⟩ | ⟨⟨named, known, none⟩, answer⟩ |
        ⟨⟨named, known, some⟩, exit, member, answer, best, -⟩
    · rw [answer]
      refine ⟨iff_of_true unknown rfl, iff_of_false ?_ (by decide), iff_of_false ?_ (by simp),
        by simp⟩
      all_goals
        rintro ⟨named, known, -⟩
        exact unknown.elim named known
    · rw [answer]
      have listedUnknown := not_or.mpr ⟨named, known⟩
      refine ⟨iff_of_false listedUnknown (by decide), iff_of_true ⟨named, known, none⟩ rfl,
        iff_of_false ?_ (by simp), by simp⟩
      rintro ⟨-, -, some⟩
      exact some none
    · rw [answer]
      have listedUnknown := not_or.mpr ⟨named, known⟩
      refine ⟨iff_of_false listedUnknown (by simp), iff_of_false ?_ (by simp),
        iff_of_true ⟨named, known, some⟩ ⟨exit, rfl⟩, ?_⟩
      · rintro ⟨-, -, none⟩
        exact some none
      · rintro _ ⟨⟩
        obtain ⟨inCountry, assignable⟩ := mem_filter.mp (considered_subset member)
        obtain ⟨walked, same⟩ := mem_filter.mp inCountry
        exact ⟨walked, of_decide_eq_true same, assignable, member, best⟩

/-- An exit with a country and nothing declared. -/
def exitAt (id country : String) (exhausted : Bool) : ExitNode where
  id := id
  tcpAddr := ""
  udp := ⟨.v4 0xCB007101, 4000⟩
  speedCap := 0
  declaredQuota := 0
  exhausted := exhausted
  lastSeen := 0
  claims := { derived := country, source := .observed }

/-- Two exits in one country and one in another, one of each out of quota, and one in no country. -/
def fourExits : List ExitNode :=
  [exitAt "a" "DE" false, exitAt "b" "DE" true, exitAt "c" "FR" true, exitAt "d" "" false]

/-- Four exits, of which one is excluded. -/
theorem fourExits_agree :
    (∀ exit ∈ fourExits, exit.claims.derived = "" ∨ Geoip.IsTag exit.claims.derived) ∧
    chooseExit {} fourExits.reverse (fun _ => 0) "xx" ["a"] {} = .error .noCountry ∧
    chooseExit {} fourExits.reverse (fun _ => 0) "FR" ["a"] {} = .error .countryBusy ∧
    ∃ exit, chooseExit {} fourExits.reverse (fun _ => 0) " de" ["a"] {} = .ok exit := by
  have tagged : ∀ exit ∈ fourExits,
      exit.claims.derived = "" ∨ Geoip.IsTag exit.claims.derived := by
    decide
  have agrees := (countryList_agrees {} fourExits fourExits.reverse
    (reverse_perm fourExits).symm (fun _ => 0) {} tagged).2
  have unlisted : Geoip.canonical "xx" = "" ∨ exitsIn fourExits (Geoip.canonical "xx") = [] := by
    decide +kernel
  refine ⟨tagged, (agrees "xx" ["a"]).1.mp ?_, (agrees "FR" ["a"]).2.1.mp ?_,
    (agrees " de" ["a"]).2.2.1.mp ?_⟩
  · intro info member named
    obtain ⟨tag, known, -⟩ := mem_countrySnapshot.mp member
    rw [named] at tag known
    exact unlisted.elim tag known
  · exact (@exists_mem_countrySnapshot {} fourExits (fun _ => 0) {} (Geoip.canonical "FR")
      fun available => available = 0).mpr (by decide +kernel)
  · exact (@exists_mem_countrySnapshot {} fourExits (fun _ => 0) {} (Geoip.canonical " de")
      fun available => 0 < available).mpr (by decide +kernel)

/-- What an exit is chosen from. -/
structure Assignment where
  ranking : Ranking
  exits : List ExitNode
  load : String → Nat
  limits : TierLimit
  country : String
  exclude : List String

namespace Assignment

variable (choice : Assignment)

/-- The exits of the country that may be assigned and are not excluded. -/
def survivors : List ExitNode :=
  (assignableIn choice.ranking choice.exits choice.load choice.limits
    (Geoip.canonical choice.country)).filter fun exit => exit.id ∉ choice.exclude

/-- The exit is assigned in some order of the map. -/
def Possible (exit : ExitNode) : Prop :=
  ∃ walk, walk.Perm choice.exits ∧
    chooseExit choice.ranking walk choice.load choice.country choice.exclude
      choice.limits = .ok exit

/-- No survivor has more than twice the share of the exit. -/
def Level (exit : ExitNode) : Prop :=
  ∀ other ∈ choice.survivors, choice.ranking.rankShare other (choice.load other.id) ≤
    2 * choice.ranking.rankShare exit (choice.load exit.id)

variable {choice} (honoured : minCandidatesAfterExclude ≤ choice.survivors.length)

include honoured

theorem considered_eq_survivors :
    considered choice.ranking choice.exits choice.load choice.limits
      (Geoip.canonical choice.country) choice.exclude = choice.survivors := by
  unfold considered afterExclusion
  dsimp only
  split_ifs with asked
  · rfl
  · by_cases none : choice.exclude = []
    · simp [survivors, none]
    · exact absurd ⟨none, honoured⟩ asked

/-- In another order of the map the same exits survive. -/
theorem reordered {walk : List ExitNode} (perm : walk.Perm choice.exits) :
    considered choice.ranking walk choice.load choice.limits (Geoip.canonical choice.country)
        choice.exclude = { choice with exits := walk }.survivors ∧
      { choice with exits := walk }.survivors.Perm choice.survivors := by
  have perm : { choice with exits := walk }.survivors.Perm choice.survivors :=
    (assignableIn_perm perm _).filter _
  exact ⟨considered_eq_survivors (honoured.trans_eq perm.length_eq.symm), perm⟩

theorem possible_iff (exit : ExitNode) :
    choice.Possible exit ↔ exit ∈ choice.survivors ∧ choice.Level exit := by
  constructor
  · rintro ⟨walk, perm, chosen⟩
    obtain ⟨considers, perm⟩ := reordered honoured perm
    rcases @chooseExit_cases choice.ranking walk choice.load choice.limits choice.country
        choice.exclude with ⟨_, answer⟩ | ⟨_, answer⟩ | ⟨_, other, member, answer, best, _⟩ <;>
      cases answer.symm.trans chosen
    rw [considers] at member best
    exact ⟨perm.mem_iff.mp member, fun rival listed => best rival (perm.mem_iff.mpr listed)⟩
  · rintro ⟨member, level⟩
    obtain ⟨inAssignable, kept⟩ := mem_filter.mp member
    obtain ⟨inCountry, assignable⟩ := mem_filter.mp inAssignable
    obtain ⟨listed, tagged⟩ := mem_filter.mp inCountry
    have perm : (exit :: choice.exits.erase exit).Perm choice.exits := (perm_cons_erase listed).symm
    refine ⟨_, perm, ?_⟩
    rcases @chooseExit_cases choice.ranking _ choice.load choice.limits choice.country
        choice.exclude with ⟨unknown | none, _⟩ | ⟨⟨_, _, none⟩, _⟩ |
          ⟨⟨_, _, free⟩, other, _, answer, _, picked⟩
    · simp [Ranking.exitAssignable, of_decide_eq_true tagged, unknown] at assignable
    · cases none ▸ (exitsIn_perm perm _).mem_iff.mpr inCountry
    · cases none ▸ (assignableIn_perm perm _).mem_iff.mpr inAssignable
    · rw [answer]
      -- The exit is met first, and the floor is not above its share.
      have first : { choice with exits := exit :: choice.exits.erase exit }.survivors =
          exit :: { choice with exits := choice.exits.erase exit }.survivors := by
        simp [survivors, assignableIn, exitsIn, of_decide_eq_true tagged, assignable,
          of_decide_eq_true kept]
      obtain ⟨best, top, floor, -⟩ :=
        @tierFloor_spec choice.ranking choice.load _ (considered_ne_nil free)
      obtain ⟨considers, perm⟩ := reordered honoured perm
      rw [floor, octaveFloor, considers, first, find?_cons_of_pos] at picked
      · exact congrArg _ (Option.some.inj picked).symm
      · have bound := level best (perm.mem_iff.mp (considers ▸ top))
        exact decide_eq_true (by omega)

/-- Two exits are possible exactly when two survivors have half of every survivor's share. -/
theorem two_results_iff :
    (∃ first second, first ≠ second ∧ choice.Possible first ∧ choice.Possible second) ↔
      ∃ first second, first ≠ second ∧ (first ∈ choice.survivors ∧ choice.Level first) ∧
        second ∈ choice.survivors ∧ choice.Level second := by
  simp only [possible_iff honoured]

omit honoured

/-- Three exits in one country; one is excluded, one carries some sessions. -/
def ofThree (sessions : Nat) : Assignment where
  ranking := {}
  exits := ["a", "b", "c"].map fun id => exitAt id "DE" false
  load id := if id = "b" then sessions else 0
  limits := {}
  country := "DE"
  exclude := ["c"]

/-- Equally loaded exits are both possible. -/
theorem two_results_of_even_load :
    ∃ first second, first ≠ second ∧ (ofThree 0).Possible first ∧ (ofThree 0).Possible second := by
  refine (two_results_iff (by decide +kernel)).mpr
    ⟨exitAt "a" "DE" false, exitAt "b" "DE" false, ?_⟩
  unfold Level
  decide +kernel

/-- Of the two exits left, the one without sessions is given in every order. -/
theorem exclusion_pins_exit :
    minCandidatesAfterExclude ≤ (ofThree 2).survivors.length ∧
      ∀ exit, (ofThree 2).Possible exit → exit = exitAt "a" "DE" false := by
  refine ⟨by decide +kernel, fun exit ⟨walk, perm, chosen⟩ => ?_⟩
  have pinned : ∀ walk ∈ (ofThree 2).exits.permutations', chooseExit {} walk (ofThree 2).load "DE"
      ["c"] {} = .ok (exitAt "a" "DE" false) := by
    decide +kernel
  cases (pinned walk (mem_permutations'.mpr perm)).symm.trans chosen
  rfl

end Assignment

end Bacchus.Coordinator
