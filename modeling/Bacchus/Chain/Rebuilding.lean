import Bacchus.Chain.Diversity
import Bacchus.Chain.Pairing

/-!
# Rebuilding a chain behind its head

A rebuild keeps the head and draws the exit anew. The head is an exit as well, so it may be
drawn itself; then there is no head left.
-/

namespace Bacchus.Chain

open List

/-- Draws that are all answered. -/
def Draws.answered (exit : Nat) (shuffle : Nat → Nat) : Draws :=
  ⟨some exit, fun index => some (shuffle index)⟩

section

variable {atlas : Atlas} {dir : RelayDirectory} {want : Nat} {country headId : String}
  {avoid : Option (String → Bool)} {shuffle : Nat → Nat}

/-- An exit behind which a chain of that length fits: not the head, with enough ids left. -/
def Fits (dir : RelayDirectory) (avoid : Option (String → Bool)) (headId : String)
    (want : Nat) (exit : RelayHop) : Prop :=
  exit.id ≠ headId ∧ want ≤ available (hopsAvoiding dir.hops avoid headId) exit.id

/-- The exit drawn is a usable one, and each of them can be. -/
theorem chooseChainExitAvoiding_answered (usable : dir.usableExits country avoid ≠ [])
    (drawn : Nat) :
    ∃ exit ∈ dir.usableExits country avoid,
      chooseChainExitAvoiding (.answered drawn shuffle) dir country avoid = .ok exit := by
  unfold chooseChainExitAvoiding
  cases exits : dir.usableExits country avoid with
  | nil => exact absurd exits usable
  | cons first rest =>
    have index : drawn % (rest.length + 1) < (first :: rest).length :=
      Nat.mod_lt _ (Nat.succ_pos _)
    refine ⟨(first :: rest).getD (drawn % (rest.length + 1)) first, ?_, rfl⟩
    rw [getD_eq_getElem _ _ index]
    exact getElem_mem index

theorem exists_draw {exit : RelayHop} (member : exit ∈ dir.usableExits country avoid) :
    ∃ drawn, ∀ shuffle : Nat → Nat,
      chooseChainExitAvoiding (.answered drawn shuffle) dir country avoid = .ok exit := by
  obtain ⟨index, found⟩ := getElem?_of_mem member
  refine ⟨index, fun shuffle => ?_⟩
  unfold chooseChainExitAvoiding
  cases exits : dir.usableExits country avoid with
  | nil =>
    rw [exits] at found
    cases found
  | cons first rest =>
    rw [exits] at found
    obtain ⟨bound, -⟩ := List.getElem?_eq_some_iff.mp found
    have whole : index % (rest.length + 1) = index := Nat.mod_eq_of_lt bound
    simp only [Draws.answered, whole, List.getD_eq_getElem?_getD, found, Option.getD_some]

/-- The pinned head is among the candidates, unless it is excluded. -/
theorem headable_iff (pinned : headId ≠ "") (listed : ∃ hop ∈ dir.hops, hop.id = headId)
    (excludeId : String) :
    Headable (hopsAvoiding dir.hops avoid headId) excludeId headId ↔ excludeId ≠ headId := by
  constructor
  · rintro ⟨hop, member, heads⟩ rfl
    obtain ⟨-, kept⟩ := mem_filter.mp member
    simp only [RelayHop.heads, if_neg pinned, decide_eq_true_eq] at heads
    exact of_decide_eq_true kept heads
  · intro different
    obtain ⟨hop, member, rfl⟩ := listed
    refine ⟨hop, mem_filter.mpr ⟨?_, decide_eq_true different.symm⟩, ?_⟩
    · unfold hopsAvoiding
      split
      · exact member
      · exact mem_filter.mpr ⟨member, by simp⟩
    · simp [RelayHop.heads, pinned]

/-- Behind the exit drawn a chain is found exactly if it fits. -/
theorem selectChain_ok_iff {drawn : Nat} {exit : RelayHop} (wanted : 0 < want)
    (pinned : headId ≠ "") (listed : ∃ hop ∈ dir.hops, hop.id = headId)
    (chosen : chooseChainExitAvoiding (.answered drawn shuffle) dir country avoid =
      .ok exit) :
    (∃ choice, selectChain atlas (.answered drawn shuffle) dir (want + 1) country headId
      avoid = .ok choice) ↔ Fits dir avoid headId want exit := by
  have selects := (selection_ok_iff atlas shuffle (hopsAvoiding dir.hops avoid headId) want
    exit.id headId).trans (or_iff_right (Nat.pos_iff_ne_zero.mp wanted))
  rw [headable_iff pinned listed] at selects
  change (∃ selection, selectHopsHeaded atlas (Draws.answered drawn shuffle).shuffle _ _ _ _ =
    .ok selection) ↔ _ at selects
  refine Iff.trans ?_ selects
  unfold selectChain
  simp only [chosen, Nat.add_sub_cancel]
  cases result : selectHopsHeaded atlas (Draws.answered drawn shuffle).shuffle
      (hopsAvoiding dir.hops avoid headId) want exit.id headId with
  | error => exact iff_of_false (by rintro ⟨_, ⟨⟩⟩) (by rintro ⟨_, ⟨⟩⟩)
  | ok => exact iff_of_true ⟨_, rfl⟩ ⟨_, rfl⟩

/-- One id fewer is left, whichever of the listed nodes is excluded. -/
theorem available_eq {candidates : List RelayHop} {hop : RelayHop} (member : hop ∈ candidates) :
    available candidates hop.id = (candidates.map RelayHop.id).toFinset.card - 1 := by
  have rest : ((eligible candidates hop.id).map RelayHop.id).toFinset =
      (candidates.map RelayHop.id).toFinset.erase hop.id := by
    ext id
    simp only [eligible, mem_toFinset, mem_map, mem_filter, Finset.mem_erase]
    constructor
    · rintro ⟨other, ⟨listed, different⟩, rfl⟩
      exact ⟨of_decide_eq_true different, other, listed, rfl⟩
    · rintro ⟨different, other, listed, rfl⟩
      exact ⟨other, ⟨listed, decide_eq_true different⟩, rfl⟩
  unfold available
  rw [← card_toFinset, rest, Finset.card_erase_of_mem]
  exact mem_toFinset.mpr (mem_map_of_mem member)

end

theorem mem_hops_of_usable {dir : RelayDirectory} {country : String}
    {avoid : Option (String → Bool)} {exit : RelayHop}
    (member : exit ∈ dir.usableExits country avoid) : exit ∈ dir.hops :=
  mem_of_mem_filter (mem_of_mem_filter member)

/-- What a rebuild needs: the head is listed, and a usable exit in the country besides it, with
enough different hops apart from that. -/
structure Supplies (dir : RelayDirectory) (prev : ChainPlan) : Prop where
  listed : ∃ hop ∈ dir.hops, hop.id = prev.firstHopId
  exit : ∃ exit ∈ dir.usableExits prev.country none,
    Fits dir none prev.firstHopId prev.hops.length exit

/-- The head is not a usable exit of the country; or among the nodes not cooling there is a usable
exit, and a chain fits behind each of them. -/
def HeadApart (dir : RelayDirectory) (cooling : String → Bool) (prev : ChainPlan) :
    Prop :=
  (∀ exit ∈ dir.usableExits prev.country none, exit.id ≠ prev.firstHopId) ∨
    dir.usableExits prev.country (some cooling) ≠ [] ∧
      ∀ exit ∈ dir.usableExits prev.country (some cooling),
        Fits dir (some cooling) prev.firstHopId prev.hops.length exit

section

variable {atlas : Atlas} {dir : RelayDirectory} {cooling : String → Bool}
  {prev : ChainPlan}

/-- A rebuild succeeds if the strict or the relaxed selection does. -/
theorem rebuildChain_ok_iff (strict relaxed : Draws) (chained : prev.hops ≠ []) :
    (∃ plan, rebuildChain atlas ⟨strict, relaxed, cooling⟩ (some dir) prev = .ok plan) ↔
      (∃ choice, selectChain atlas strict dir (prev.hops.length + 1) prev.country
        prev.firstHopId (some cooling) = .ok choice) ∨
      ∃ choice, selectChain atlas relaxed dir (prev.hops.length + 1) prev.country
        prev.firstHopId none = .ok choice := by
  obtain ⟨head, rest, hops⟩ := exists_cons_of_ne_nil chained
  have first : prev.firstHopId = head.id := by
    rw [ChainPlan.firstHopId, hops]
    rfl
  unfold rebuildChain buildChainHeaded
  simp only [hops, first, length_cons]
  cases selectChain atlas strict dir (rest.length + 2) prev.country head.id
      (some cooling) with
  | ok => exact iff_of_true ⟨_, rfl⟩ (.inl ⟨_, rfl⟩)
  | error =>
    cases selectChain atlas relaxed dir (rest.length + 2) prev.country head.id none with
    | ok => exact iff_of_true ⟨_, rfl⟩ (.inr ⟨_, rfl⟩)
    | error =>
      refine iff_of_false (by rintro ⟨_, ⟨⟩⟩) ?_
      rintro (⟨_, ⟨⟩⟩ | ⟨_, ⟨⟩⟩)

end

/-- Where the directory supplies what a rebuild needs, it succeeds whatever is drawn exactly if the
head cannot be drawn as the exit, or the nodes not cooling suffice. -/
theorem rebuild_succeeds_iff (atlas : Atlas) (dir : RelayDirectory) (cooling : String → Bool)
    (prev : ChainPlan) (chained : prev.hops ≠ []) (supplied : Supplies dir prev) :
    (∀ (strictExit relaxedExit : Nat) (strictShuffle relaxedShuffle : Nat → Nat), ∃ plan,
      rebuildChain atlas ⟨.answered strictExit strictShuffle, .answered relaxedExit relaxedShuffle,
        cooling⟩ (some dir) prev = .ok plan) ↔
      HeadApart dir cooling prev := by
  obtain ⟨listed, _, usable, _, enough⟩ := supplied
  have wanted : 0 < prev.hops.length := length_pos_iff.mpr chained
  have pinned : prev.firstHopId ≠ "" := by
    obtain ⟨hop, -, named⟩ := listed
    rw [← named]
    exact hop.id_ne_empty
  simp only [rebuildChain_ok_iff _ _ chained]
  constructor
  · intro succeeds
    refine or_iff_not_imp_left.mpr fun drawable => ?_
    simp only [not_forall, not_not] at drawable
    obtain ⟨_, member, same⟩ := drawable
    -- The relaxed selection draws the head and fails, so the strict one is left.
    obtain ⟨relaxedExit, relaxedDraws⟩ := exists_draw member
    have strict (strictExit : Nat) := (succeeds strictExit relaxedExit id id).resolve_right
      fun relaxed => ((selectChain_ok_iff wanted pinned listed (relaxedDraws id)).mp relaxed).1 same
    refine ⟨fun none => ?_, fun exit present => ?_⟩
    · obtain ⟨_, chosen⟩ := strict 0
      simp [selectChain, chooseChainExitAvoiding, none] at chosen
    · obtain ⟨strictExit, strictDraws⟩ := exists_draw present
      exact (selectChain_ok_iff wanted pinned listed (strictDraws id)).mp (strict strictExit)
  · rintro (undrawable | ⟨present, fits⟩) strictExit relaxedExit strictShuffle relaxedShuffle
    · right
      obtain ⟨exit, member, chosen⟩ := @chooseChainExitAvoiding_answered dir prev.country
        none relaxedShuffle (ne_nil_of_mem usable) relaxedExit
      refine (selectChain_ok_iff wanted pinned listed chosen).mpr ⟨undrawable exit member, ?_⟩
      rw [hopsAvoiding, available_eq (mem_hops_of_usable member)]
      rwa [hopsAvoiding, available_eq (mem_hops_of_usable usable)] at enough
    · left
      obtain ⟨exit, member, chosen⟩ := @chooseChainExitAvoiding_answered dir prev.country
        (some cooling) strictShuffle present strictExit
      exact (selectChain_ok_iff wanted pinned listed chosen).mpr (fits exit member)

/-- The chain of depth two whose head is the first of two exits. -/
def headedChain : ChainPlan where
  hops := (exitEntry 'a' "192.0.2.1:443").hop.toList
  exitId := nodeId 'b'
  exitPub := []
  exitDia := "192.0.2.2:443"
  country := "NL"

/-- The two exits, with the head in another country. -/
def headAbroad : List Entry :=
  [{ exitEntry 'a' "192.0.2.1:443" with country := "DE" }, exitEntry 'b' "192.0.2.2:443"]

instance (dir : RelayDirectory) (avoid : Option (String → Bool)) (headId : String)
    (want : Nat) : DecidablePred (Fits dir avoid headId want) := fun _ =>
  inferInstanceAs (Decidable (_ ∧ _))

instance (dir : RelayDirectory) : DecidablePred (Supplies dir) := fun _ =>
  decidable_of_iff (_ ∧ _)
    ⟨fun both => ⟨both.1, both.2⟩, fun supplied => ⟨supplied.listed, supplied.exit⟩⟩

theorem held_of_any {entries : List Entry} {test : RelayDirectory → Bool}
    (computed : (heldDirectory entries).any test) :
    ∃ dir, heldDirectory entries = some dir ∧ test dir :=
  (Option.any_eq_true _ _).mp computed

/-- With the head abroad, every draw rebuilds the chain. -/
theorem rebuilds_with_head_abroad :
    ∃ dir, heldDirectory headAbroad = some dir ∧
      ∀ (strictExit relaxedExit : Nat) (strictShuffle relaxedShuffle : Nat → Nat), ∃ plan,
        rebuildChain (atlasFor headAbroad) ⟨.answered strictExit strictShuffle,
          .answered relaxedExit relaxedShuffle, fun _ => false⟩ (some dir) headedChain =
          .ok plan := by
  obtain ⟨dir, held, holds⟩ := @held_of_any headAbroad (fun dir =>
    decide (Supplies dir headedChain ∧ ∀ exit ∈ dir.usableExits headedChain.country none,
      exit.id ≠ headedChain.firstHopId)) (by decide +kernel)
  obtain ⟨supplied, undrawable⟩ := of_decide_eq_true holds
  exact ⟨dir, held, (rebuild_succeeds_iff (atlasFor headAbroad) dir (fun _ => false)
    headedChain (by decide +kernel) supplied).mpr (.inl undrawable)⟩

/-- The directory lists the head and another usable exit. Both draws fall on the head, and the
rebuild fails. -/
theorem rebuild_draws_head :
    ∃ dir, heldDirectory twoExits = some dir ∧ Supplies dir headedChain ∧
      rebuildChain (atlasFor twoExits) firstDraws (some dir) headedChain =
        .error (.noPinnedHead (nodeId 'a')) := by
  obtain ⟨dir, held, holds⟩ := @held_of_any twoExits (fun dir =>
    decide (Supplies dir headedChain ∧
      rebuildChain (atlasFor twoExits) firstDraws (some dir) headedChain =
        .error (.noPinnedHead (nodeId 'a')))) (by decide +kernel)
  exact ⟨dir, held, of_decide_eq_true holds⟩

/-- The keys that the layers of a chain are sealed to. -/
def ChainPlan.keys (plan : ChainPlan) : List Bytes := plan.exitPub :: plan.hops.map RelayHop.pub

/-- The longest chain there is passes through every node. -/
theorem mem_of_selected {candidates hops : List RelayHop} {excludeId pinHead : String}
    (selected : Selected candidates (available candidates excludeId) excludeId pinHead hops)
    {hop : RelayHop} (member : hop ∈ candidates) (other : hop.id ≠ excludeId) :
    ∃ node ∈ hops, node.id = hop.id := by
  have listed {node : RelayHop} (inside : node ∈ candidates ∧ node.id ≠ excludeId) :
      node ∈ eligible candidates excludeId :=
    mem_filter.mpr (inside.imp_right decide_eq_true)
  have inside := ids_subset fun node taken => listed (selected.candidates node taken)
  have whole := (selected.distinct.subperm inside).perm_of_length_le
    (by rw [length_map, selected.length, available])
  exact mem_map.mp (whole.mem_iff.mpr (mem_dedup.mpr (mem_map_of_mem (listed ⟨member, other⟩))))

/-- No chain seals two layers to one key exactly if a directory with a usable exit lists no key
under two ids. -/
theorem keys_nodup_iff (atlas : Atlas) (dir : RelayDirectory) :
    (∀ input depth country pinHead plan, buildChainHeaded atlas input (some dir) depth country
      pinHead = .ok plan → plan.keys.Nodup) ↔
    ∀ country, dir.usableExits country none ≠ [] → ∀ left ∈ dir.hops,
      ∀ right ∈ dir.hops, left.pub = right.pub → left.id = right.id := by
  constructor
  · intro apart country usable left inLeft right inRight sameKey
    by_contra different
    obtain ⟨exit, -, chosen⟩ := @chooseChainExitAvoiding_answered dir country none id usable 0
    -- One of the two is not the exit and can be the head; the chain takes in all other nodes.
    obtain ⟨head, listed, other⟩ : ∃ hop ∈ dir.hops, exit.id ≠ hop.id := by
      by_cases same : exit.id = left.id
      · exact ⟨right, inRight, same ▸ different⟩
      · exact ⟨left, inLeft, same⟩
    have wanted : 0 < available dir.hops exit.id := length_pos_of_mem (mem_dedup.mpr
      (mem_map_of_mem (mem_filter.mpr ⟨listed, decide_eq_true other.symm⟩)))
    obtain ⟨choice, selected⟩ := (@selectChain_ok_iff atlas _ _ _ _ _ _ _ _ wanted head.id_ne_empty
      ⟨head, listed, rfl⟩ chosen).mpr ⟨other, Nat.le_refl _⟩
    obtain ⟨failure, strict⟩ : ∃ failure, selectChain atlas (.answered 0 id) dir
        (available dir.hops exit.id + 1) country head.id (some fun _ => true) =
          .error failure := by
      simp [selectChain, chooseChainExitAvoiding, RelayDirectory.usableExits]
    have keys := apart ⟨.answered 0 id, .answered 0 id, fun _ => true⟩
      (available dir.hops exit.id + 1) country head.id (choice.plan dir country)
      (by simp only [buildChainHeaded, strict, selected])
    unfold selectChain at selected
    simp only [chosen] at selected
    split at selected
    · cases selected
    · next hops diversity picked =>
      cases selected
      have inChain : ∀ hop ∈ dir.hops, ∃ node ∈ exit :: hops, node.id = hop.id := by
        intro hop present
        by_cases same : hop.id = exit.id
        · exact ⟨exit, mem_cons_self, same.symm⟩
        · obtain ⟨node, inside, named⟩ :=
            mem_of_selected (selected_of_selectHopsHeaded picked) present same
          exact ⟨node, mem_cons_of_mem _ inside, named⟩
      obtain ⟨first, inFirst, isLeft⟩ := inChain left inLeft
      obtain ⟨second, inSecond, isRight⟩ := inChain right inRight
      have nodup : ((exit :: hops).map RelayHop.pub).Nodup := keys
      have same : first = second := inj_on_of_nodup_map nodup inFirst inSecond
        ((RelayHop.pub_of_id isLeft).trans (sameKey.trans (RelayHop.pub_of_id isRight).symm))
      exact different (isLeft.symm.trans (same ▸ isRight))
  · intro named input depth country pinHead plan built
    have usable : dir.usableExits country none ≠ [] := by
      intro unusable
      have none (avoid) : dir.usableExits country avoid = [] := by
        simp_all [RelayDirectory.usableExits]
      simp [buildChainHeaded, selectChain, chooseChainExitAvoiding, none] at built
    obtain ⟨_, ⟨⟩, planned⟩ := planned_of_buildChainHeaded built
    obtain ⟨exit, member, sameId, samePub⟩ := planned.exit
    have ids : ((exit :: plan.hops).map RelayHop.id).Nodup :=
      nodup_cons.mpr ⟨sameId ▸ planned.apart, planned.distinct⟩
    have listed : ∀ hop ∈ exit :: plan.hops, hop ∈ dir.hops :=
      forall_mem_cons.mpr ⟨mem_of_mem_filter member, planned.listed⟩
    rw [ChainPlan.keys, ← samePub]
    refine pairwise_map.mpr ((pairwise_map.mp ids).imp_of_mem ?_)
    intro left right inLeft inRight different sameKey
    exact different
      (named country usable left (listed left inLeft) right (listed right inRight) sameKey)

/-- One exit under two spellings of its key. -/
def spelledTwice : List Entry := [exitEntry 'a' "192.0.2.1:443", exitEntry 'A' "192.0.2.2:443"]

/-- Both layers of the chain are sealed to the one key. -/
theorem one_key_peels_twice :
    ∃ plan, chainFor (atlasFor spelledTwice) firstDraws (heldDirectory spelledTwice) 2 .relay "NL" =
      .ok (some plan) ∧ ¬plan.keys.Nodup := by
  obtain ⟨plan, built, shape⟩ := @chain_of_any (chainFor (atlasFor spelledTwice) firstDraws
    (heldDirectory spelledTwice) 2 .relay "NL") (fun plan => !decide plan.keys.Nodup)
    (by decide +kernel)
  exact ⟨plan, built, by simpa using shape⟩

end Bacchus.Chain
