import Bacchus.Chain.Directory

/-!
# Choosing the hops of a chain

`selectHopsHeaded`: a shuffled pool, a head that is pinned or can be paired, and a fill down a
ladder of diversity constraints. A random draw is an input and may fail.
-/

namespace Bacchus.Chain

open List

/-- Exchange two positions. -/
def swap {Item : Type} (items : List Item) (first second : Nat) : List Item :=
  match items[first]?, items[second]? with
  | some left, some right => (items.set first right).set second left
  | _, _ => items

/-- The loop of `shuffleHops`, from the last position down. -/
def shuffleFrom {Item : Type} (draw : Nat → Option Nat) : Nat → List Item → Option (List Item)
  | 0, items => some items
  | position + 1, items =>
    (draw (position + 1)).bind fun drawn =>
      shuffleFrom draw position (swap items (position + 1) (drawn % (position + 2)))

/-- `shuffleHops`. -/
def shuffle {Item : Type} (draw : Nat → Option Nat) (items : List Item) : Option (List Item) :=
  shuffleFrom draw (items.length - 1) items

/-- A swap loses no item. -/
theorem swap_perm {Item : Type} (items : List Item) (first second : Nat) :
    (swap items first second).Perm items := by
  unfold swap
  split
  · next left right foundLeft foundRight =>
    obtain ⟨inFirst, rfl⟩ := List.getElem?_eq_some_iff.mp foundLeft
    obtain ⟨inSecond, rfl⟩ := List.getElem?_eq_some_iff.mp foundRight
    exact set_set_perm inFirst inSecond
  · exact .refl items

/-- A shuffle loses no item. -/
theorem shuffleFrom_perm {Item : Type} {draw : Nat → Option Nat} {position : Nat}
    {items shuffled : List Item}
    (result : shuffleFrom draw position items = some shuffled) : shuffled.Perm items := by
  induction position generalizing items with
  | zero =>
    cases result
    exact .refl _
  | succ position ih =>
    obtain ⟨_, -, rest⟩ := Option.bind_eq_some_iff.mp result
    exact (ih rest).trans (swap_perm items _ _)

/-- `hopDiversity`: what the selection has achieved. -/
structure HopDiversity where
  asRepeated : Bool := false
  opRepeated : Bool := false
  resolved : Nat := 0
  unresolved : Nat := 0

/-- `hopASKey`: hops the table cannot place fall into one bucket. -/
def RelayHop.asKey (atlas : Atlas) (hop : RelayHop) : String := (atlas.asOf hop.dial).getD "?"

/-- The hops taken so far, and what they use up. -/
structure Picked where
  hops : List RelayHop := []
  usedOp : List String := []
  usedId : List String := []
  usedAs : List String := []
  diversity : HopDiversity := {}

def Picked.take (atlas : Atlas) (picked : Picked) (hop : RelayHop) : Picked :=
  let key := hop.asKey atlas
  let placed := (atlas.asOf hop.dial).isSome
  { hops := picked.hops ++ [hop]
    usedId := hop.id :: picked.usedId
    usedAs := key :: picked.usedAs
    usedOp := if hop.operator = "" then picked.usedOp else hop.operator :: picked.usedOp
    diversity :=
      { asRepeated := picked.diversity.asRepeated || key ∈ picked.usedAs
        opRepeated := picked.diversity.opRepeated ||
          (hop.operator ≠ "" ∧ hop.operator ∈ picked.usedOp)
        resolved := picked.diversity.resolved + (if placed then 1 else 0)
        unresolved := picked.diversity.unresolved + (if placed then 0 else 1) } }

/-- A rung of the ladder: which constraints it insists on. -/
structure Rung where
  needAs : Bool
  needOp : Bool

/-- The four passes. The advisory constraint is dropped first. -/
def ladder : List Rung := [⟨true, true⟩, ⟨true, false⟩, ⟨false, true⟩, ⟨false, false⟩]

/-- The rung lets a hop join the ones taken so far. -/
def Rung.admits (atlas : Atlas) (rung : Rung) (picked : Picked) (hop : RelayHop) : Bool :=
  hop.id ∉ picked.usedId ∧
    (rung.needAs → (atlas.asOf hop.dial).isSome ∧ hop.asKey atlas ∉ picked.usedAs) ∧
    (rung.needOp → hop.operator = "" ∨ hop.operator ∉ picked.usedOp)

/-- One pass over the pool. -/
def fillPass (atlas : Atlas) (want : Nat) (rung : Rung) (picked : Picked) (pool : List RelayHop) :
    Picked :=
  pool.foldl
    (fun picked hop =>
      if picked.hops.length < want ∧ rung.admits atlas picked hop then picked.take atlas hop
      else picked)
    picked

/-- The candidate that may head the chain. -/
def RelayHop.heads (pinHead : String) (hop : RelayHop) : Bool :=
  if pinHead = "" then hop.pairable else hop.id = pinHead

/-- Why there is no chain. -/
inductive ChainError where
  | noRelayDirectory
  | noExit (country : String) (contradicted : Nat)
  | random
  | noPinnedHead (id : String)
  | noHead
  | tooShort (need found : Nat)
  | noChain
  | relayIsHop (hop of : Nat)
deriving DecidableEq

/-- A head, and the other hops from a shuffled pool. -/
def selectHopsHeaded (atlas : Atlas) (draw : Nat → Option Nat) (candidates : List RelayHop)
    (want : Nat) (excludeId pinHead : String) : Except ChainError (List RelayHop × HopDiversity) :=
  if want = 0 then .ok ([], {})
  else
    match shuffle draw (candidates.filter fun hop => hop.id ≠ excludeId) with
    | none => .error .random
    | some pool =>
      match pool.find? (RelayHop.heads pinHead) with
      | none => .error (if pinHead = "" then .noHead else .noPinnedHead pinHead)
      | some head =>
        let picked := ladder.foldl (fun picked rung => fillPass atlas want rung picked pool)
          (({} : Picked).take atlas head)
        if picked.hops.length < want then .error (.tooShort want picked.hops.length)
        else .ok (picked.hops, picked.diversity)

/-- The hops so far are different candidates, headed by the head, and not too many. -/
structure Picked.Sound (picked : Picked) (pool : List RelayHop) (head : RelayHop) (want : Nat) :
    Prop where
  used : picked.usedId = (picked.hops.map RelayHop.id).reverse
  distinct : (picked.hops.map RelayHop.id).Nodup
  candidates : ∀ hop ∈ picked.hops, hop ∈ pool
  headed : picked.hops.head? = some head
  bounded : picked.hops.length ≤ want

variable {atlas : Atlas} {pool : List RelayHop} {head hop : RelayHop} {want : Nat} {picked : Picked}

/-- The head alone is a sound selection. -/
theorem Picked.Sound.begin (member : head ∈ pool) (wanted : 0 < want) :
    (({} : Picked).take atlas head).Sound pool head want := by
  refine ⟨rfl, nodup_singleton _, ?_, rfl, wanted⟩
  intro hop taken
  rw [mem_singleton.mp taken]
  exact member

/-- A fresh hop of the pool may be taken. -/
theorem Picked.Sound.take (sound : picked.Sound pool head want) (member : hop ∈ pool)
    (fresh : hop.id ∉ picked.usedId) (room : picked.hops.length < want) :
    (picked.take atlas hop).Sound pool head want := by
  obtain ⟨used, distinct, candidates, headed, _⟩ := sound
  have unused : hop.id ∉ picked.hops.map RelayHop.id := by
    rwa [used, mem_reverse] at fresh
  constructor
  · simp [Picked.take, used]
  · simp only [Picked.take, map_append, map_cons, map_nil]
    exact nodup_append_comm.mpr (nodup_cons.mpr ⟨unused, distinct⟩)
  · intro other found
    simp only [Picked.take, mem_append, mem_singleton] at found
    rcases found with old | rfl
    · exact candidates other old
    · exact member
  · simp [Picked.take, headed]
  · simp only [Picked.take, length_append, length_singleton]
    exact room

/-- What joining an admitted hop keeps, a pass keeps. -/
theorem fillPass_keeps {rest : List RelayHop} {rung : Rung} {Kept : Picked → Prop}
    (joins : ∀ picked, ∀ hop ∈ rest, picked.hops.length < want →
      rung.admits atlas picked hop → Kept picked → Kept (picked.take atlas hop))
    (kept : Kept picked) : Kept (fillPass atlas want rung picked rest) := by
  unfold fillPass
  induction rest generalizing picked with
  | nil => exact kept
  | cons hop rest ih =>
    rw [foldl_cons]
    refine ih (fun picked other member => joins picked other (mem_cons_of_mem _ member)) ?_
    split_ifs with joining
    · exact joins picked hop mem_cons_self joining.1 joining.2 kept
    · exact kept

/-- What joining a fresh hop of the pool keeps, the ladder keeps. -/
theorem ladder_keeps {Kept : Picked → Prop}
    (joins : ∀ picked, ∀ hop ∈ pool, picked.hops.length < want → hop.id ∉ picked.usedId →
      Kept picked → Kept (picked.take atlas hop)) (kept : Kept picked) (rungs : List Rung) :
    Kept (rungs.foldl (fun picked rung => fillPass atlas want rung picked pool) picked) := by
  induction rungs generalizing picked with
  | nil => exact kept
  | cons rung rungs ih =>
    apply ih
    exact fillPass_keeps (fun picked hop member room admitted =>
      joins picked hop member room (of_decide_eq_true admitted).1) kept

/-- What the ladder makes of a pool and a head. -/
def climb (atlas : Atlas) (want : Nat) (pool : List RelayHop) (head : RelayHop) : Picked :=
  ladder.foldl (fun picked rung => fillPass atlas want rung picked pool)
    (({} : Picked).take atlas head)

/-- Relaxing the rungs keeps the selection sound. -/
theorem sound_climb (member : head ∈ pool) (wanted : 0 < want) :
    (climb atlas want pool head).Sound pool head want :=
  @ladder_keeps _ _ _ _ (·.Sound pool head want)
    (fun _ _ member room fresh sound => sound.take member fresh room) (.begin member wanted) ladder

/-- A selection: different candidates in the wanted number, none excluded, with a head that is
pinned or pairable. -/
structure Selected (candidates : List RelayHop) (want : Nat) (excludeId pinHead : String)
    (hops : List RelayHop) : Prop where
  length : hops.length = want
  distinct : (hops.map RelayHop.id).Nodup
  candidates : ∀ hop ∈ hops, hop ∈ candidates ∧ hop.id ≠ excludeId
  headed : ∀ hop ∈ hops.head?, hop.heads pinHead

section

variable {draw : Nat → Option Nat} {candidates hops : List RelayHop} {excludeId pinHead : String}
  {diversity : HopDiversity}
  (result : selectHopsHeaded atlas draw candidates want excludeId pinHead = .ok (hops, diversity))

include result

/-- A selection has climbed the ladder from the first usable head. -/
theorem climb_of_selectHopsHeaded :
    want = 0 ∧ hops = [] ∧ diversity = {} ∨ ∃ pool head,
      shuffle draw (candidates.filter fun hop => hop.id ≠ excludeId) = some pool ∧
      pool.find? (RelayHop.heads pinHead) = some head ∧ 0 < want ∧
      want ≤ (climb atlas want pool head).hops.length ∧ hops = (climb atlas want pool head).hops ∧
      diversity = (climb atlas want pool head).diversity := by
  unfold selectHopsHeaded at result
  split at result
  · next empty =>
    cases result
    exact .inl ⟨empty, rfl, rfl⟩
  · next wanted =>
    split at result
    · cases result
    · next pool shuffled =>
      split at result
      · cases result
      · next head found =>
        dsimp only at result
        split at result
        · cases result
        · next enough =>
          cases result
          exact .inr ⟨pool, head, shuffled, found, Nat.pos_of_ne_zero wanted,
            Nat.le_of_not_lt enough,
            rfl, rfl⟩

/-- What is returned is a selection from the pool. -/
theorem selected_of_selectHopsHeaded : Selected candidates want excludeId pinHead hops := by
  rcases climb_of_selectHopsHeaded result with
    ⟨rfl, rfl, -⟩ | ⟨pool, head, shuffled, found, wanted, enough, rfl, -⟩
  · exact ⟨rfl, nodup_nil, nofun, nofun⟩
  · have sound := @sound_climb atlas pool head want (mem_of_find?_eq_some found) wanted
    refine ⟨Nat.le_antisymm sound.bounded enough, sound.distinct, ?_, ?_⟩
    · intro hop taken
      have inside := (shuffleFrom_perm shuffled).mem_iff.mp (sound.candidates hop taken)
      simpa using mem_filter.mp inside
    · intro hop first
      rw [sound.headed] at first
      cases first
      exact find?_some found

end

end Bacchus.Chain
