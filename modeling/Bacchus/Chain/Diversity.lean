import Bacchus.Chain.Shuffling

/-!
# When a selection succeeds, and how diverse it is

A selection takes the wanted number of hops whenever that many ids are at hand and one can head
the chain. Its first pass takes hops in the order of the shuffled pool, so it may end early
although another choice is diverse throughout.
-/

namespace Bacchus.Chain

open List Option

/-- The operator tags of the hops that have one. -/
def operators (hops : List RelayHop) : List String :=
  (hops.map RelayHop.operator).filter fun operator => operator ≠ ""

/-- The diversity of a chain, read off its hops. -/
def describe (atlas : Atlas) (hops : List RelayHop) : HopDiversity where
  asRepeated := ¬(hops.map (RelayHop.asKey atlas)).Nodup
  opRepeated := ¬(operators hops).Nodup
  resolved := hops.countP fun hop => (atlas.asOf hop.dial).isSome
  unresolved := hops.countP fun hop => (atlas.asOf hop.dial).isNone

/-- The used sets and the report say what the hops taken so far are. -/
structure Picked.Tracks (atlas : Atlas) (picked : Picked) : Prop where
  ids : ∀ id, id ∈ picked.usedId ↔ id ∈ picked.hops.map RelayHop.id
  systems : ∀ key, key ∈ picked.usedAs ↔ key ∈ picked.hops.map (RelayHop.asKey atlas)
  tags : ∀ operator, operator ∈ picked.usedOp ↔ operator ∈ operators picked.hops
  report : picked.diversity = describe atlas picked.hops

section

variable {atlas : Atlas} {hop : RelayHop} {picked : Picked}

theorem operators_append (hops : List RelayHop) (hop : RelayHop) :
    operators (hops ++ [hop]) =
      operators hops ++ if hop.operator = "" then [] else [hop.operator] := by
  unfold operators
  by_cases untagged : hop.operator = "" <;> simp [untagged]

/-- Something repeats in a longer list if it did before, or the last item was there. -/
theorem repeated_append {items used : List String} {item : String}
    (same : ∀ other, other ∈ used ↔ other ∈ items) :
    decide (¬(items ++ [item]).Nodup) = (decide (¬items.Nodup) || decide (item ∈ used)) := by
  have longer : (items ++ [item]).Nodup ↔ item ∉ items ∧ items.Nodup := by
    rw [nodup_append_comm, singleton_append, nodup_cons]
  by_cases present : item ∈ items
  · simp [longer, present, (same item).mpr present]
  · have absent : item ∉ used := fun member => present ((same item).mp member)
    simp [longer, present, absent]

theorem Picked.Tracks.empty : Picked.Tracks atlas {} :=
  ⟨fun _ => Iff.rfl, fun _ => Iff.rfl, fun _ => Iff.rfl, by simp [describe, operators]⟩

theorem Picked.Tracks.take (tracks : picked.Tracks atlas) (hop : RelayHop) :
    (picked.take atlas hop).Tracks atlas := by
  obtain ⟨ids, systems, tags, report⟩ := tracks
  refine ⟨fun id => ?_, fun key => ?_, fun operator => ?_, ?_⟩
  · simp [Picked.take, ids, or_comm]
  · simp [Picked.take, systems, or_comm]
  · simp only [Picked.take, operators_append]
    split_ifs with untagged
    · simp [tags]
    · simp [tags, or_comm]
  · simp only [Picked.take, report, describe, HopDiversity.mk.injEq, map_append, map_cons,
      map_nil, countP_append, countP_singleton]
    refine ⟨(repeated_append systems).symm, ?_, trivial, ?_⟩
    · rw [operators_append]
      split_ifs with untagged
      · simp [untagged]
      · rw [repeated_append tags]
        simp [untagged]
    · cases atlas.asOf hop.dial <;> rfl

end

/-- One state of a selection is an earlier one of another. -/
structure Picked.Within (first second : Picked) : Prop where
  hops : first.hops <+: second.hops
  ids : first.usedId ⊆ second.usedId
  systems : first.usedAs ⊆ second.usedAs
  tags : first.usedOp ⊆ second.usedOp

theorem Picked.Within.refl (picked : Picked) : picked.Within picked :=
  ⟨prefix_refl _, List.Subset.refl _, List.Subset.refl _, List.Subset.refl _⟩

theorem Picked.Within.trans {first second third : Picked} (left : first.Within second)
    (right : second.Within third) : first.Within third :=
  ⟨left.hops.trans right.hops, List.Subset.trans left.ids right.ids,
    List.Subset.trans left.systems right.systems, List.Subset.trans left.tags right.tags⟩

section

variable {atlas : Atlas} {rest : List RelayHop} {hop : RelayHop} {want : Nat}
  {picked : Picked} {rung : Rung}

theorem Picked.within_take (picked : Picked) (hop : RelayHop) :
    picked.Within (picked.take atlas hop) := by
  refine ⟨prefix_append _ _, subset_cons_self _ _, subset_cons_self _ _, ?_⟩
  simp only [Picked.take]
  split_ifs
  · exact List.Subset.refl _
  · exact subset_cons_self _ _

theorem within_fillPass (picked : Picked) (rest : List RelayHop) :
    picked.Within (fillPass atlas want rung picked rest) :=
  fillPass_keeps (fun _ hop _ _ _ earlier => earlier.trans (Picked.within_take _ hop))
    (.refl picked)

/-- A rung that admits a hop admitted it before. -/
theorem admits_of_within {later : Picked} (grown : picked.Within later)
    (admits : rung.admits atlas later hop) : rung.admits atlas picked hop := by
  simp only [Rung.admits, decide_eq_true_eq] at admits ⊢
  obtain ⟨fresh, system, operator⟩ := admits
  refine ⟨fun used => fresh (grown.ids used), fun needed => ?_, fun needed => ?_⟩
  · exact ⟨(system needed).1, fun used => (system needed).2 (grown.systems used)⟩
  · exact (operator needed).imp_right fun unused used => unused (grown.tags used)

/-- A pass that ends with room left has nothing more to admit. -/
theorem fillPass_exhausts (room : (fillPass atlas want rung picked rest).hops.length < want) :
    ∀ hop ∈ rest, rung.admits atlas (fillPass atlas want rung picked rest) hop = false := by
  induction rest generalizing picked with
  | nil => exact fun hop member => absurd member not_mem_nil
  | cons first rest ih =>
    intro hop member
    rcases mem_cons.mp member with rfl | later
    · by_contra admitted
      have admitted := eq_true_of_ne_false admitted
      -- It would have been admitted when its turn came, and then its id is used.
      have early : rung.admits atlas picked hop :=
        admits_of_within (within_fillPass picked (hop :: rest)) admitted
      have space : picked.hops.length < want :=
        Nat.lt_of_le_of_lt
          (@within_fillPass atlas want rung picked (hop :: rest)).hops.length_le room
      have taken : fillPass atlas want rung picked (hop :: rest) =
          fillPass atlas want rung (picked.take atlas hop) rest := by
        unfold fillPass
        rw [foldl_cons, if_pos ⟨space, early⟩]
      rw [taken] at admitted
      simp only [Rung.admits, decide_eq_true_eq] at admitted
      exact admitted.1 ((within_fillPass (picked.take atlas hop) rest).ids mem_cons_self)
    · exact ih room hop later

end

section

variable {atlas : Atlas} {pool : List RelayHop} {head : RelayHop} {want : Nat}

theorem tracks_climb : (climb atlas want pool head).Tracks atlas :=
  ladder_keeps (fun _ hop _ _ _ tracks => tracks.take hop) (Picked.Tracks.empty.take head) ladder

/-- The last pass insists on nothing but fresh ids. -/
theorem climb_exhausts (room : (climb atlas want pool head).hops.length < want) :
    ∀ hop ∈ pool, hop.id ∈ (climb atlas want pool head).hops.map RelayHop.id := by
  intro hop member
  have refused := @fillPass_exhausts atlas pool want _ ⟨false, false⟩ room hop member
  by_contra fresh
  have unused : hop.id ∉ (climb atlas want pool head).usedId := fun used =>
    fresh ((tracks_climb.ids hop.id).mp used)
  have admitted : Rung.admits atlas ⟨false, false⟩ (climb atlas want pool head) hop := by
    simp [Rung.admits, unused]
  exact Bool.noConfusion (refused.symm.trans admitted)

/-- A selection's ids are ids of its pool. -/
theorem ids_subset {hops : List RelayHop} (inside : ∀ hop ∈ hops, hop ∈ pool) :
    hops.map RelayHop.id ⊆ (pool.map RelayHop.id).dedup :=
  List.Subset.trans (map_subset RelayHop.id inside) (subset_dedup _)

/-- The ladder takes the hops that are wanted, or one for every id there is. -/
theorem length_climb (member : head ∈ pool) (wanted : 0 < want) :
    (climb atlas want pool head).hops.length = min want (pool.map RelayHop.id).dedup.length := by
  have sound := @sound_climb atlas pool head want member wanted
  have few : (climb atlas want pool head).hops.length ≤ (pool.map RelayHop.id).dedup.length := by
    have count := (sound.distinct.subperm (ids_subset sound.candidates)).length_le
    rwa [length_map] at count
  have bounded := sound.bounded
  by_cases room : (climb atlas want pool head).hops.length < want
  · have inside : (pool.map RelayHop.id).dedup ⊆
        (climb atlas want pool head).hops.map RelayHop.id := by
      intro id listed
      obtain ⟨hop, found, rfl⟩ := mem_map.mp (mem_dedup.mp listed)
      exact climb_exhausts room hop found
    have count := ((nodup_dedup _).subperm inside).length_le
    rw [length_map] at count
    omega
  · omega

end

section

variable {atlas : Atlas} {draw : Nat → Option Nat} {candidates pool : List RelayHop}
  {excludeId pinHead : String} {want : Nat}

/-- The candidates a selection considers. -/
def eligible (candidates : List RelayHop) (excludeId : String) : List RelayHop :=
  candidates.filter fun hop => hop.id ≠ excludeId

/-- Some candidate may head the chain: the pinned one, or a pairable one. -/
def Headable (candidates : List RelayHop) (excludeId pinHead : String) : Prop :=
  ∃ hop ∈ eligible candidates excludeId, hop.heads pinHead

/-- How many different ids there are to choose from. -/
def available (candidates : List RelayHop) (excludeId : String) : Nat :=
  ((eligible candidates excludeId).map RelayHop.id).dedup.length

theorem selectHopsHeaded_headless (wanted : 0 < want)
    (shuffled : shuffle draw (eligible candidates excludeId) = some pool)
    (headless : pool.find? (RelayHop.heads pinHead) = none) :
    selectHopsHeaded atlas draw candidates want excludeId pinHead =
      .error (if pinHead = "" then .noHead else .noPinnedHead pinHead) := by
  unfold selectHopsHeaded
  unfold eligible at shuffled
  rw [if_neg (Nat.pos_iff_ne_zero.mp wanted)]
  simp only [shuffled, headless]

theorem selectHopsHeaded_headed {head : RelayHop} (wanted : 0 < want)
    (shuffled : shuffle draw (eligible candidates excludeId) = some pool)
    (found : pool.find? (RelayHop.heads pinHead) = some head) :
    selectHopsHeaded atlas draw candidates want excludeId pinHead =
      if (climb atlas want pool head).hops.length < want then
        .error (.tooShort want (climb atlas want pool head).hops.length)
      else .ok ((climb atlas want pool head).hops, (climb atlas want pool head).diversity) := by
  unfold selectHopsHeaded
  unfold eligible at shuffled
  rw [if_neg (Nat.pos_iff_ne_zero.mp wanted)]
  simp only [shuffled, found]
  rfl

/-- The shuffle does not matter to whether a selection succeeds. -/
theorem selectHopsHeaded_ok_iff (wanted : 0 < want)
    (shuffled : shuffle draw (eligible candidates excludeId) = some pool) :
    (∃ selection, selectHopsHeaded atlas draw candidates want excludeId pinHead = .ok selection) ↔
      Headable candidates excludeId pinHead ∧ want ≤ available candidates excludeId := by
  have perm : pool.Perm (eligible candidates excludeId) := shuffleFrom_perm shuffled
  cases found : pool.find? (RelayHop.heads pinHead) with
  | none =>
    rw [selectHopsHeaded_headless wanted shuffled found]
    refine iff_of_false (by rintro ⟨_, ⟨⟩⟩) ?_
    rintro ⟨⟨hop, member, heads⟩, -⟩
    exact find?_eq_none.mp found hop (perm.mem_iff.mpr member) heads
  | some head =>
    have member := mem_of_find?_eq_some found
    have headable : Headable candidates excludeId pinHead :=
      ⟨head, perm.mem_iff.mp member, find?_some found⟩
    have length : (climb atlas want pool head).hops.length =
        min want (available candidates excludeId) := by
      rw [length_climb member wanted, available, (perm.map RelayHop.id).dedup.length_eq]
    rw [selectHopsHeaded_headed wanted shuffled found, length]
    split_ifs with short
    · exact iff_of_false (by rintro ⟨_, ⟨⟩⟩) fun enough => by omega
    · exact iff_of_true ⟨_, rfl⟩ ⟨headable, by omega⟩

/-- What a selection reports describes the hops it returns. -/
theorem describes_of_selectHopsHeaded {hops : List RelayHop} {diversity : HopDiversity}
    (result : selectHopsHeaded atlas draw candidates want excludeId pinHead =
      .ok (hops, diversity)) : diversity = describe atlas hops := by
  rcases climb_of_selectHopsHeaded result with ⟨-, rfl, rfl⟩ | ⟨_, _, -, -, -, -, rfl, rfl⟩
  · simp [describe, operators]
  · exact tracks_climb.report

end

/-- Whether a selection succeeds depends on the candidates alone. -/
theorem selection_ok_iff (atlas : Atlas) (draw : Nat → Nat) (candidates : List RelayHop)
    (want : Nat) (excludeId pinHead : String) :
    (∃ selection, selectHopsHeaded atlas (fun index => some (draw index)) candidates want excludeId
        pinHead = .ok selection) ↔
      want = 0 ∨ Headable candidates excludeId pinHead ∧ want ≤ available candidates excludeId := by
  rcases Nat.eq_zero_or_pos want with rfl | wanted
  · exact iff_of_true ⟨([], {}), rfl⟩ (.inl rfl)
  · obtain ⟨_, shuffled⟩ := exists_shuffleFrom draw
      ((eligible candidates excludeId).length - 1) (eligible candidates excludeId)
    rw [selectHopsHeaded_ok_iff wanted shuffled]
    exact (or_iff_right (Nat.pos_iff_ne_zero.mp wanted)).symm

/-- For a positive length, a selection succeeds exactly when a usable head exists and as many ids
are at hand as are wanted; for length zero it succeeds with nothing. It returns the wanted number of
different hops, none excluded, with the head first, and the report describes them. -/
theorem selection_succeeds_iff (atlas : Atlas) (draw : Nat → Nat) (candidates : List RelayHop)
    (want : Nat) (excludeId pinHead : String) :
    ((∃ selection, selectHopsHeaded atlas (fun index => some (draw index)) candidates want excludeId
        pinHead = .ok selection) ↔
      want = 0 ∨ Headable candidates excludeId pinHead ∧ want ≤ available candidates excludeId) ∧
    ∀ hops diversity, selectHopsHeaded atlas (fun index => some (draw index)) candidates want
        excludeId pinHead = .ok (hops, diversity) →
      Selected candidates want excludeId pinHead hops ∧ diversity = describe atlas hops := by
  refine ⟨selection_ok_iff atlas draw candidates want excludeId pinHead, ?_⟩
  intro hops diversity result
  exact ⟨selected_of_selectHopsHeaded result, describes_of_selectHopsHeaded result⟩

/-- No signed directory, and no table of autonomous systems. -/
def blankAtlas : Atlas := { key := [], verifySigned := fun _ _ => none, lookupAs := fun _ => none }

/-- Nothing is wanted, nothing can head a chain, and the selection succeeds. -/
theorem empty_selection_needs_no_head :
    selectHopsHeaded blankAtlas (fun _ => some 0) [] 0 "" "" = .ok ([], {}) ∧
      ¬Headable [] "" "" := by
  refine ⟨rfl, ?_⟩
  rintro ⟨hop, member, -⟩
  cases member

/-- Two hops in different autonomous systems that do not share an operator. -/
structure RelayHop.Apart (atlas : Atlas) (left right : RelayHop) : Prop where
  ids : left.id ≠ right.id
  systems : ∃ first second, atlas.asOf left.dial = some first ∧
    atlas.asOf right.dial = some second ∧ first ≠ second
  operators : left.operator = "" ∨ left.operator ≠ right.operator

instance (atlas : Atlas) : DecidableRel (RelayHop.Apart atlas) := fun left right =>
  decidable_of_iff (left.id ≠ right.id ∧ (∃ first ∈ atlas.asOf left.dial,
      ∃ second ∈ atlas.asOf right.dial, first ≠ second) ∧
      (left.operator = "" ∨ left.operator ≠ right.operator)) (by
    constructor
    · rintro ⟨ids, ⟨first, leftPlaced, second, rightPlaced, different⟩, operators⟩
      exact ⟨ids, ⟨first, second, leftPlaced, rightPlaced, different⟩, operators⟩
    · rintro ⟨ids, ⟨first, second, leftPlaced, rightPlaced, different⟩, operators⟩
      exact ⟨ids, ⟨first, leftPlaced, second, rightPlaced, different⟩, operators⟩)

/-- The hops are pairwise different in autonomous system and operator. -/
def Diverse (atlas : Atlas) (hops : List RelayHop) : Prop := hops.Pairwise (RelayHop.Apart atlas)

instance (atlas : Atlas) : DecidablePred (Diverse atlas) := fun hops =>
  inferInstanceAs (Decidable (hops.Pairwise (RelayHop.Apart atlas)))

section

variable {atlas : Atlas} {pool rest : List RelayHop} {head hop : RelayHop} {want : Nat}
  {picked : Picked}

theorem diverse_append {hops : List RelayHop} :
    Diverse atlas (hops ++ [hop]) ↔ Diverse atlas hops ∧ ∀ other ∈ hops, other.Apart atlas hop := by
  simp [Diverse, pairwise_append]

/-- The first pass admits a hop that is apart from all that were taken. -/
theorem admits_of_apart (tracks : picked.Tracks atlas) (begun : picked.hops ≠ [])
    (apart : ∀ other ∈ picked.hops, other.Apart atlas hop) :
    Rung.admits atlas ⟨true, true⟩ picked hop := by
  obtain ⟨some, inside⟩ := exists_mem_of_ne_nil _ begun
  obtain ⟨_, _, -, placed, -⟩ := (apart some inside).systems
  simp only [Rung.admits, decide_eq_true_eq]
  refine ⟨fun used => ?_, fun _ => ⟨by rw [placed]; rfl, fun used => ?_⟩, fun _ => ?_⟩
  · obtain ⟨other, member, same⟩ := mem_map.mp ((tracks.ids _).mp used)
    exact (apart other member).ids same
  · obtain ⟨other, member, same⟩ := mem_map.mp ((tracks.systems _).mp used)
    obtain ⟨_, _, leftPlaced, rightPlaced, different⟩ := (apart other member).systems
    simp only [RelayHop.asKey, leftPlaced, rightPlaced, getD_some] at same
    exact different same
  · refine or_iff_not_imp_left.mpr fun tagged used => ?_
    obtain ⟨shared, -⟩ := mem_filter.mp ((tracks.tags _).mp used)
    obtain ⟨other, member, same⟩ := mem_map.mp shared
    rcases (apart other member).operators with untagged | different
    · exact tagged (same.symm.trans untagged)
    · exact different same

/-- A hop the first pass admits is apart from all taken, if those are placed. -/
theorem apart_of_admits (tracks : picked.Tracks atlas)
    (placed : ∀ other ∈ picked.hops, (atlas.asOf other.dial).isSome)
    (admitted : Rung.admits atlas ⟨true, true⟩ picked hop) :
    (atlas.asOf hop.dial).isSome ∧ ∀ other ∈ picked.hops, other.Apart atlas hop := by
  simp only [Rung.admits, decide_eq_true_eq] at admitted
  obtain ⟨fresh, system, operator⟩ := admitted
  obtain ⟨resolved, unused⟩ := system trivial
  refine ⟨resolved, fun other member => ⟨fun same => ?_, ?_, ?_⟩⟩
  · exact fresh ((tracks.ids _).mpr (mem_map.mpr ⟨other, member, same⟩))
  · obtain ⟨first, firstPlaced⟩ := isSome_iff_exists.mp (placed other member)
    obtain ⟨second, secondPlaced⟩ := isSome_iff_exists.mp resolved
    refine ⟨first, second, firstPlaced, secondPlaced, fun same => unused ?_⟩
    refine (tracks.systems _).mpr (mem_map.mpr ⟨other, member, ?_⟩)
    simp only [RelayHop.asKey, firstPlaced, secondPlaced, same]
  · refine or_iff_not_imp_left.mpr fun tagged same => ?_
    rcases operator trivial with untagged | free
    · exact tagged (same.trans untagged)
    · refine free ((tracks.tags _).mpr (mem_filter.mpr ⟨?_, by simpa [← same] using tagged⟩))
      exact mem_map.mpr ⟨other, member, same⟩

/-- What the first pass makes of a pool and a head. -/
def firstPass (atlas : Atlas) (want : Nat) (pool : List RelayHop) (head : RelayHop) : Picked :=
  fillPass atlas want ⟨true, true⟩ (({} : Picked).take atlas head) pool

theorem tracks_firstPass : (firstPass atlas want pool head).Tracks atlas :=
  fillPass_keeps (fun _ hop _ _ _ tracks => tracks.take hop) (Picked.Tracks.empty.take head)

theorem firstPass_within_climb :
    (firstPass atlas want pool head).Within (climb atlas want pool head) :=
  ladder_keeps (fun _ hop _ _ _ earlier => earlier.trans (Picked.within_take _ hop))
    (.refl (firstPass atlas want pool head)) ladder.tail

theorem diverse_firstPass (placed : (atlas.asOf head.dial).isSome) :
    Diverse atlas (firstPass atlas want pool head).hops := by
  let Kept (picked : Picked) : Prop :=
    picked.Tracks atlas ∧ Diverse atlas picked.hops ∧
      ∀ hop ∈ picked.hops, (atlas.asOf hop.dial).isSome
  have begun : Kept (({} : Picked).take atlas head) := by
    refine ⟨Picked.Tracks.empty.take head, pairwise_singleton _ _, fun hop member => ?_⟩
    rw [mem_singleton.mp member]
    exact placed
  have kept : Kept (firstPass atlas want pool head) := by
    refine @fillPass_keeps atlas want _ pool ⟨true, true⟩ Kept ?_ begun
    rintro picked hop - - admitted ⟨tracks, diverse, resolved⟩
    obtain ⟨here, apart⟩ := apart_of_admits tracks resolved admitted
    refine ⟨tracks.take hop, diverse_append.mpr ⟨diverse, apart⟩, fun other member => ?_⟩
    rcases mem_append.mp member with earlier | last
    · exact resolved other earlier
    · rw [mem_singleton.mp last]
      exact here
  exact kept.2.1

/-- The first pass takes hops that make a diverse chain as they come. -/
theorem fillPass_takes (tracks : picked.Tracks atlas) (begun : picked.hops ≠ [])
    (diverse : Diverse atlas (picked.hops ++ rest)) (room : (picked.hops ++ rest).length ≤ want) :
    (fillPass atlas want ⟨true, true⟩ picked rest).hops = picked.hops ++ rest := by
  induction rest generalizing picked with
  | nil => exact (append_nil _).symm
  | cons hop rest ih =>
    have joined : (picked.take atlas hop).hops ++ rest = picked.hops ++ hop :: rest := by
      rw [Picked.take, append_assoc, singleton_append]
    have shorter : Diverse atlas (picked.hops ++ [hop]) := by
      refine List.Pairwise.sublist ?_ diverse
      exact List.Sublist.append_left (singleton_sublist.mpr mem_cons_self) _
    have admitted := admits_of_apart tracks begun (diverse_append.mp shorter).2
    have space : picked.hops.length < want := by
      rw [length_append, length_cons] at room
      omega
    have taken : fillPass atlas want ⟨true, true⟩ picked (hop :: rest) =
        fillPass atlas want ⟨true, true⟩ (picked.take atlas hop) rest := by
      unfold fillPass
      rw [foldl_cons, if_pos ⟨space, admitted⟩]
    rw [taken, ← joined]
    refine ih (tracks.take hop) ?_ (joined ▸ diverse) (joined ▸ room)
    simp [Picked.take]

end

/-- A diverse chain of candidates with that head. -/
structure DiverseFrom (atlas : Atlas) (candidates : List RelayHop) (excludeId : String)
    (head : RelayHop) (hops : List RelayHop) : Prop where
  headed : hops.head? = some head
  members : ∀ hop ∈ hops, hop ∈ eligible candidates excludeId
  diverse : Diverse atlas hops

/-- With every usable head of a diverse chain of the wanted length, a shorter diverse chain can be
extended. -/
def Extendable (atlas : Atlas) (candidates : List RelayHop) (want : Nat)
    (excludeId pinHead : String) : Prop :=
  ∀ head : RelayHop, head.heads pinHead →
    (∃ hops, DiverseFrom atlas candidates excludeId head hops ∧ hops.length = want) →
    ∀ hops, DiverseFrom atlas candidates excludeId head hops → hops.length < want →
      ∃ hop, DiverseFrom atlas candidates excludeId head (hops ++ [hop])

section

variable {atlas : Atlas} {candidates pool hops other : List RelayHop} {excludeId pinHead : String}
  {want : Nat} {head : RelayHop} (chain : DiverseFrom atlas candidates excludeId head hops)

include chain

theorem DiverseFrom.ids_nodup : (hops.map RelayHop.id).Nodup :=
  pairwise_map.mpr (chain.diverse.imp RelayHop.Apart.ids)

/-- A diverse chain of the wanted length shows that there are enough ids. -/
theorem DiverseFrom.length_le : hops.length ≤ available candidates excludeId := by
  have count := (chain.ids_nodup.subperm (ids_subset chain.members)).length_le
  rwa [length_map] at count

theorem placed_of_diverse (long : 1 < hops.length) : (atlas.asOf head.dial).isSome := by
  obtain ⟨headed, -, diverse⟩ := chain
  rcases hops with _ | ⟨first, _ | ⟨second, rest⟩⟩
  · cases headed
  · exact absurd long (Nat.lt_irrefl 1)
  · cases headed
    obtain ⟨_, -, placed, -⟩ := (rel_of_pairwise_cons diverse mem_cons_self).systems
    rw [placed]
    rfl

omit chain

theorem sound_firstPass (member : head ∈ pool) (wanted : 0 < want) :
    (firstPass atlas want pool head).Sound pool head want :=
  @fillPass_keeps _ _ _ _ _ (·.Sound pool head want) (fun _ _ member room admitted sound =>
    sound.take member (of_decide_eq_true admitted).1 room) (.begin member wanted)

/-- A first pass that ends with room left has taken what cannot be extended. -/
theorem firstPass_maximal (member : head ∈ pool) (wanted : 0 < want)
    (room : (firstPass atlas want pool head).hops.length < want) {hop : RelayHop}
    (listed : hop ∈ pool) : ¬Diverse atlas ((firstPass atlas want pool head).hops ++ [hop]) := by
  intro diverse
  have begun : (firstPass atlas want pool head).hops ≠ [] := by
    intro empty
    have headed := (@sound_firstPass atlas pool want head member wanted).headed
    rw [empty] at headed
    cases headed
  have admitted := admits_of_apart tracks_firstPass begun (diverse_append.mp diverse).2
  exact Bool.noConfusion ((fillPass_exhausts room hop listed).symm.trans admitted)

/-- The selection is diverse if every shorter diverse chain can be extended. -/
theorem diverse_of_extendable (extendable : Extendable atlas candidates want excludeId pinHead)
    {draw : Nat → Nat} {diversity : HopDiversity}
    (result : selectHopsHeaded atlas (fun index => some (draw index)) candidates want excludeId
      pinHead = .ok (hops, diversity))
    (chain : DiverseFrom atlas candidates excludeId head other) (long : other.length = want)
    (same : hops.head? = some head) : Diverse atlas hops := by
  have length := (selected_of_selectHopsHeaded result).length
  rcases climb_of_selectHopsHeaded result with
    ⟨-, rfl, -⟩ | ⟨pool, first, shuffled, found, wanted, -, rfl, -⟩
  · cases same
  have perm : pool.Perm (eligible candidates excludeId) := shuffleFrom_perm shuffled
  have member := mem_of_find?_eq_some found
  obtain rfl : first = head :=
    some.inj ((sound_climb member wanted).headed.symm.trans same)
  by_cases single : want = 1
  · obtain ⟨_, alone⟩ := length_eq_one_iff.mp (length.trans single)
    rw [alone]
    exact pairwise_singleton _ _
  have placed := placed_of_diverse chain (by omega)
  have sound := @sound_firstPass atlas pool want first member wanted
  have diverse := @diverse_firstPass atlas pool first want placed
  by_cases room : (firstPass atlas want pool first).hops.length < want
  · obtain ⟨hop, longer⟩ := extendable first (find?_some found) ⟨other, chain, long⟩
      (firstPass atlas want pool first).hops
      ⟨sound.headed, fun hop taken => perm.mem_iff.mp (sound.candidates hop taken), diverse⟩
      room
    have listed : hop ∈ pool := by
      rw [perm.mem_iff]
      exact longer.members hop (mem_append_right _ (mem_singleton_self hop))
    exact absurd longer.diverse (firstPass_maximal member wanted room listed)
  · have all : (firstPass atlas want pool first).hops = (climb atlas want pool first).hops :=
      firstPass_within_climb.hops.eq_of_length (by have := sound.bounded; omega)
    rw [← all]
    exact diverse

/-- The first pass over a pool that begins with a diverse chain takes that. -/
theorem prefix_firstPass {tail rest : List RelayHop} (diverse : Diverse atlas (head :: tail))
    (room : (head :: tail).length ≤ want) :
    head :: tail <+: (firstPass atlas want (head :: tail ++ rest) head).hops := by
  have skipped : firstPass atlas want (head :: tail ++ rest) head = fillPass atlas want ⟨true, true⟩
        (fillPass atlas want ⟨true, true⟩ (({} : Picked).take atlas head) tail) rest := by
    unfold firstPass fillPass
    simp [Rung.admits, Picked.take]
  have taken := fillPass_takes (Picked.Tracks.empty.take head) (by simp [Picked.take]) diverse room
  have kept := (@within_fillPass atlas want ⟨true, true⟩
    (fillPass atlas want ⟨true, true⟩ (({} : Picked).take atlas head) tail) rest).hops
  rw [taken] at kept
  rw [skipped]
  exact kept

/-- A short diverse chain that cannot be extended comes first in some shuffle. -/
theorem extendable_of_diverse (finds : ∀ (draw : Nat → Nat) hops diversity, selectHopsHeaded atlas
      (fun index => some (draw index)) candidates want excludeId pinHead = .ok (hops, diversity) →
      (∃ head other, hops.head? = some head ∧ other.length = want ∧
        DiverseFrom atlas candidates excludeId head other) → Diverse atlas hops) :
    Extendable atlas candidates want excludeId pinHead := by
  rintro head heads ⟨other, chain, long⟩ hops shorter short
  have wanted : 0 < want := by omega
  obtain ⟨tail, rfl⟩ := head?_eq_some_iff.mp shorter.headed
  have inside : (head :: tail).Subperm (eligible candidates excludeId) :=
    (List.Nodup.of_map _ shorter.ids_nodup).subperm shorter.members
  obtain ⟨_, reordered, sublist⟩ := inside
  obtain ⟨rest, split⟩ := sublist.exists_perm_append
  have perm : (eligible candidates excludeId).Perm (head :: tail ++ rest) :=
    split.trans (reordered.append_right rest)
  obtain ⟨draw, shuffled⟩ := exists_shuffle_iff.mpr perm.symm
  have found : (head :: tail ++ rest).find? (RelayHop.heads pinHead) = some head := by
    rw [cons_append, find?_cons_of_pos heads]
  have member : head ∈ head :: tail ++ rest := mem_cons_self
  obtain ⟨_, result⟩ :=
    (@selectHopsHeaded_ok_iff atlas _ _ _ _ pinHead _ wanted shuffled).mpr
      ⟨⟨head, shorter.members head mem_cons_self, heads⟩, long ▸ chain.length_le⟩
  rw [selectHopsHeaded_headed wanted shuffled found] at result
  split_ifs at result with lacking
  have sound := @sound_climb atlas (head :: tail ++ rest) head want member wanted
  have diverse := finds draw _ _
    (by rw [selectHopsHeaded_headed wanted shuffled found, if_neg lacking])
    ⟨head, other, sound.headed, long, chain⟩
  have leads := (prefix_firstPass shorter.diverse (Nat.le_of_lt short)).trans
    (@firstPass_within_climb atlas (head :: tail ++ rest) head want).hops
  obtain ⟨more, whole⟩ := leads
  cases more with
  | nil =>
    rw [append_nil] at whole
    rw [← whole] at lacking
    exact absurd short lacking
  | cons hop more =>
    have split : head :: tail ++ hop :: more = (head :: tail ++ [hop]) ++ more := by simp
    rw [← whole, split] at diverse
    refine ⟨hop, rfl, fun taken listed => ?_, (pairwise_append.mp diverse).1⟩
    refine perm.mem_iff.mpr (sound.candidates taken ?_)
    rw [← whole, split]
    exact mem_append_left _ listed

end

/-- Over every shuffle, the selection returns a diverse chain whenever there is one with its head,
exactly for candidates among which a shorter diverse chain can always be extended. -/
theorem selection_diverse_iff (atlas : Atlas) (candidates : List RelayHop) (want : Nat)
    (excludeId pinHead : String) :
    (∀ (draw : Nat → Nat) hops diversity, selectHopsHeaded atlas (fun index => some (draw index))
        candidates want excludeId pinHead = .ok (hops, diversity) →
      (∃ head other, hops.head? = some head ∧ other.length = want ∧
        DiverseFrom atlas candidates excludeId head other) → Diverse atlas hops) ↔
      Extendable atlas candidates want excludeId pinHead := by
  refine ⟨extendable_of_diverse, fun extendable draw hops diversity result => ?_⟩
  rintro ⟨head, other, same, long, chain⟩
  exact diverse_of_extendable extendable result chain long same

/-- An exit with an operator tag; its key is one byte over and over. -/
def taggedExit (byte : UInt8) (dial operator : String) : RelayHop where
  id := Text.hexEncode (replicate 32 byte)
  pub := replicate 32 byte
  keyed := Text.hexDecode_hexEncode _
  full := length_replicate
  dial := dial
  operator := operator
  pairable := true

/-- Four exits in three ASes; the last shares its operator with the second. -/
def fourExits : List RelayHop :=
  [taggedExit 1 "192.0.2.1:443" "", taggedExit 2 "198.51.100.1:443" "north",
    taggedExit 3 "198.51.100.2:443" "south", taggedExit 4 "203.0.113.1:443" "north"]

/-- A table that tells addresses by their first octet. -/
def octetAtlas : Atlas where
  key := []
  verifySigned _ _ := none
  lookupAs
    | .v4 bits => some (toString (bits >>> 24).toNat)
    | .v6 _ _ => none

/-- In the order listed, the second exit is taken first and keeps the third and the fourth out of
the first pass: two hops share an operator, although there is a diverse chain. -/
theorem first_fit_shares_operator :
    ∃ head other hops diversity,
      selectHopsHeaded octetAtlas (fun index => some index) fourExits 3 "" "" =
        .ok (hops, diversity) ∧ hops.head? = some head ∧ other.length = 3 ∧
      DiverseFrom octetAtlas fourExits "" head other ∧ ¬Diverse octetAtlas hops ∧
      diversity.opRepeated = true := by
  have selected : (selectHopsHeaded octetAtlas (fun index => some index) fourExits 3 ""
      "").toOption.any (fun selection => decide (selection.1.head? = (fourExits.eraseIdx 1).head? ∧
        ¬Diverse octetAtlas selection.1 ∧ selection.2.opRepeated)) := by
    decide +kernel
  have chosen : (fourExits.eraseIdx 1).head?.isSome ∧ (fourExits.eraseIdx 1).length = 3 ∧
      (∀ hop ∈ fourExits.eraseIdx 1, hop ∈ eligible fourExits "") ∧
      Diverse octetAtlas (fourExits.eraseIdx 1) := by
    decide +kernel
  obtain ⟨present, length, members, diverse⟩ := chosen
  obtain ⟨head, headed⟩ := isSome_iff_exists.mp present
  obtain ⟨⟨hops, diversity⟩, found, holds⟩ := (any_eq_true _ _).mp selected
  obtain ⟨same, repeated, reported⟩ := of_decide_eq_true holds
  refine ⟨head, fourExits.eraseIdx 1, hops, diversity, ?_, same.trans headed, length,
    ⟨headed, members, diverse⟩, repeated, reported⟩
  cases result : selectHopsHeaded octetAtlas (fun index => some index) fourExits 3 "" "" with
  | error =>
    rw [result] at found
    cases found
  | ok =>
    rw [result] at found
    exact congrArg Except.ok (some.inj found)

end Bacchus.Chain
