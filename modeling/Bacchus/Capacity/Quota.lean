import Mathlib.Algebra.Ring.Nat
import Bacchus.Semantics.Machine

/-!
# The monthly quota of a node

Bytes served are counted in memory and checkpointed to a file: when the cap is spent, when the
cycle rolls over, and after enough bytes or time. A restart rebuilds the counter from the file.
The clock is the node's own and may step backwards.
-/

namespace Bacchus.Capacity

/-- What `Time.Date` and `Time.Clock` return together. -/
structure Civil where
  year : Int
  month : Int
  day : Int
  /-- Nanoseconds since midnight. -/
  clock : Int

/-- A time zone, by the two conversions the standard library makes. Instants are nanoseconds since
the epoch. -/
structure Location where
  civil : Int → Civil
  /-- `time.Date`, which also takes months and days outside of their usual range. -/
  instant : Civil → Int

/-- `time.Time`: an instant, shown in a location. -/
structure Reading where
  instant : Int
  location : Location

/-- `Time.AddDate` on an instant of the location. -/
def Location.addDate (location : Location) (instant years months days : Int) : Int :=
  let civil := location.civil instant
  location.instant { civil with
    year := civil.year + years
    month := civil.month + months
    day := civil.day + days }

/-- The start of the billing cycle of `now`, for a cap that resets on `day`. -/
def cycleStart (now : Reading) (day : Int) : Int :=
  let day := if day < 1 then 1 else day
  let today := now.location.civil now.instant
  let anchor := now.location.instant ⟨today.year, today.month, day, 0⟩
  if now.instant < anchor then now.location.addDate anchor 0 (-1) 0 else anchor

def nanosPerDay : Int := 86400 * 1000000000

/-- Days from the epoch to a date of the proleptic Gregorian calendar. Years are counted from March,
so that the leap day is the last. -/
def daysFromCivil (year month day : Int) : Int :=
  let year := year + (month - 3).fdiv 12
  let shifted := (month - 3).fmod 12
  let era := year.fdiv 400
  let yearOfEra := year - era * 400
  let dayOfYear := (153 * shifted + 2) / 5 + day - 1
  era * 146097 + yearOfEra * 365 + yearOfEra / 4 - yearOfEra / 100 + dayOfYear - 719468

/-- The year, month and day that `days` after the epoch fall on. -/
def civilFromDays (days : Int) : Int × Int × Int :=
  let shifted := days + 719468
  let era := shifted.fdiv 146097
  let dayOfEra := shifted - era * 146097
  let yearOfEra := (dayOfEra - dayOfEra / 1460 + dayOfEra / 36524 - dayOfEra / 146096) / 365
  let dayOfYear := dayOfEra - (365 * yearOfEra + yearOfEra / 4 - yearOfEra / 100)
  let fromMarch := (5 * dayOfYear + 2) / 153
  let day := dayOfYear - (153 * fromMarch + 2) / 5 + 1
  let month := if fromMarch < 10 then fromMarch + 3 else fromMarch - 9
  (yearOfEra + era * 400 + (if month ≤ 2 then 1 else 0), month, day)

def utc : Location where
  civil instant :=
    let (year, month, day) := civilFromDays (instant.fdiv nanosPerDay)
    ⟨year, month, day, instant.fmod nanosPerDay⟩
  instant civil := daysFromCivil civil.year civil.month civil.day * nanosPerDay + civil.clock

/-- A reading of a UTC clock at midnight. -/
def midnight (year month day : Int) : Reading := ⟨utc.instant ⟨year, month, day, 0⟩, utc⟩

-- A cap that resets on the 15th: the 3rd of January is still in December's cycle.
example : cycleStart (midnight 2026 1 3) 15 = (midnight 2025 12 15).instant := by decide

/-- A decimal byte quantity, `uint64` in the source. -/
abbrev Bytes := UInt64

def maxFlushGranularity : Bytes := 16 * 1000000
def minFlushGranularity : Bytes := 64 * 1000

/-- Thirty seconds. -/
def flushInterval : Int := 30 * 1000000000

/-- The operator's declared limits, as far as the quota reads them. -/
structure Limits where
  monthlyQuota : Bytes
  cycleDay : Int

/-- The checkpoint. `limit` and `cycleDay` are for the human reader. -/
structure QuotaState where
  cycleStart : Int
  used : Bytes
  limit : Bytes
  cycleDay : Int

/-- What stands at the path of the checkpoint. -/
inductive StateFile where
  | missing
  | unreadable (cause : String)
  | corrupt (cause : String)
  | saved (state : QuotaState)

/-- `capacity.Quota`. -/
structure Quota where
  limit : Bytes
  cycleDay : Int
  used : Bytes := 0
  cycleStart : Int
  /-- Empty when the counter is kept in memory only. -/
  path : String
  /-- `used` as of the last successful checkpoint. -/
  flushedAt : Bytes := 0
  flushedTime : Int
  flushErr : Option String := none

/-- The quota beside the file it checkpoints to. -/
structure Ledger where
  quota : Quota
  file : StateFile
  /-- The error that a checkpoint write meets; none when writes succeed. -/
  fault : Option String := none

def Quota.granularity (quota : Quota) : Bytes :=
  let share := quota.limit / 64
  let share := if share < minFlushGranularity then minFlushGranularity else share
  if maxFlushGranularity < share then maxFlushGranularity else share

/-- Nothing used in the cycle of `now`. A cycle day of zero means the first. -/
def freshQuota (limits : Limits) (path : String) (now : Reading) : Quota :=
  let day := if limits.cycleDay = 0 then 1 else limits.cycleDay
  { limit := limits.monthlyQuota
    cycleDay := day
    cycleStart := cycleStart now day
    path
    flushedTime := now.instant }

/-- Without a declared quota there is none, and every operation does nothing. -/
def newQuota (limits : Limits) (path : String) (file : StateFile) (now : Reading) :
    Except String (Option Quota) :=
  if limits.monthlyQuota = 0 then .ok none
  else
    let quota := freshQuota limits path now
    if path = "" then .ok (some quota)
    else
      match file with
      | .missing => .ok (some quota)
      | .unreadable cause => .error s!"read quota state {path}: {cause}"
      | .corrupt cause =>
        .error (s!"parse quota state {path}: {cause} (delete it to start a fresh cycle, " ++
          "accepting that this forgets usage already spent)")
      | .saved state =>
        -- A checkpoint of a later cycle than the clock's is kept: the clock is wrong.
        if ¬ state.cycleStart < quota.cycleStart then
          .ok (some { quota with
            cycleStart := state.cycleStart
            used := state.used
            flushedAt := state.used })
        else .ok (some quota)

namespace Ledger

variable (ledger : Ledger) (now : Reading)

/-- Write the count to the file. -/
def checkpoint : Ledger :=
  let quota := ledger.quota
  if quota.path = "" then
    { ledger with quota := { quota with flushedAt := quota.used, flushedTime := now.instant } }
  else
    match ledger.fault with
    | some cause => { ledger with quota := { quota with flushErr := some cause } }
    | none =>
      { ledger with
        file := .saved ⟨quota.cycleStart, quota.used, quota.limit, quota.cycleDay⟩
        quota := { quota with
          flushedAt := quota.used
          flushedTime := now.instant
          flushErr := none } }

/-- The reading falls in a later cycle than the recorded one. -/
def LaterCycle : Prop := ledger.quota.cycleStart < cycleStart now ledger.quota.cycleDay

instance : Decidable (ledger.LaterCycle now) := inferInstanceAs (Decidable (_ < _))

/-- Start the cycle that `now` falls in, with nothing used. -/
def reset : Ledger :=
  { ledger with quota := { ledger.quota with
      cycleStart := cycleStart now ledger.quota.cycleDay
      used := 0
      flushedAt := 0 } }

/-- A new cycle starts from zero. -/
def rollover : Ledger :=
  if ¬ ledger.LaterCycle now then ledger
  else (ledger.reset now).checkpoint now

/-- `q.used += Bytes(n)`, in the arithmetic of `uint64`. -/
def charge (n : Bytes) : Ledger :=
  { ledger with quota := { ledger.quota with used := ledger.quota.used + n } }

/-- Count forwarded bytes, and checkpoint now and then. -/
def add (n : Bytes) : Ledger :=
  if n = 0 then ledger
  else
    let rolled := ledger.rollover now
    let charged := rolled.charge n
    let quota := charged.quota
    if rolled.quota.used < quota.limit ∧ quota.limit ≤ quota.used then charged.checkpoint now
    else if quota.granularity ≤ quota.used - quota.flushedAt ∨
        flushInterval ≤ now.instant - quota.flushedTime then charged.checkpoint now
    else charged

def exhausted : Bool × Ledger :=
  let rolled := ledger.rollover now
  (rolled.quota.limit ≤ rolled.quota.used, rolled)

def used : Bytes × Ledger :=
  let rolled := ledger.rollover now
  (rolled.quota.used, rolled)

def remaining : Bytes × Ledger :=
  let rolled := ledger.rollover now
  (if rolled.quota.limit ≤ rolled.quota.used then 0
    else rolled.quota.limit - rolled.quota.used, rolled)

def flush : Option String × Ledger :=
  let flushed := ledger.checkpoint now
  (flushed.quota.flushErr, flushed)

variable (n : Bytes)

/-- A checkpoint writes three fields: when it was made and how it went. -/
theorem checkpoint_quota : ∃ flushedAt flushedTime flushErr,
    (ledger.checkpoint now).quota = { ledger.quota with flushedAt, flushedTime, flushErr } := by
  unfold checkpoint
  dsimp only
  split_ifs
  · exact ⟨_, _, _, rfl⟩
  · split
    · exact ⟨_, _, _, rfl⟩
    · exact ⟨_, _, _, rfl⟩

/-- A checkpoint keeps the count. -/
@[simp] theorem checkpoint_used : (ledger.checkpoint now).quota.used = ledger.quota.used := by
  obtain ⟨_, _, _, same⟩ := ledger.checkpoint_quota now
  rw [same]

/-- A checkpoint keeps the limit. -/
@[simp] theorem checkpoint_limit : (ledger.checkpoint now).quota.limit = ledger.quota.limit := by
  obtain ⟨_, _, _, same⟩ := ledger.checkpoint_quota now
  rw [same]

@[simp] theorem checkpoint_cycleStart :
    (ledger.checkpoint now).quota.cycleStart = ledger.quota.cycleStart := by
  obtain ⟨_, _, _, same⟩ := ledger.checkpoint_quota now
  rw [same]

variable {ledger now}

/-- Nothing rolls over within a cycle. -/
theorem rollover_same (same : ¬ ledger.LaterCycle now) : ledger.rollover now = ledger := by
  unfold rollover
  rw [if_pos same]

theorem rollover_later (later : ledger.LaterCycle now) :
    ledger.rollover now = (ledger.reset now).checkpoint now := by
  unfold rollover
  rw [if_neg (not_not_intro later)]

/-- The limit outlives the cycle. -/
theorem rollover_limit (ledger : Ledger) (now : Reading) :
    (ledger.rollover now).quota.limit = ledger.quota.limit := by
  by_cases later : ledger.LaterCycle now
  · rw [rollover_later later, checkpoint_limit]
    rfl
  · rw [rollover_same later]

theorem le_rollover : ledger.quota.cycleStart ≤ (ledger.rollover now).quota.cycleStart := by
  by_cases later : ledger.LaterCycle now
  · rw [rollover_later later, checkpoint_cycleStart]
    exact Int.le_of_lt later
  · exact Int.le_of_eq (by rw [rollover_same later])

/-- A rollover adds nothing to the count. -/
theorem rollover_used_le : (ledger.rollover now).quota.used.toNat ≤ ledger.quota.used.toNat := by
  by_cases later : ledger.LaterCycle now
  · rw [rollover_later later, checkpoint_used]
    exact Nat.zero_le _
  · exact Nat.le_of_eq (by rw [rollover_same later])

theorem add_eq (some : n ≠ 0) :
    ledger.add now n = (ledger.rollover now).charge n ∧
        ¬ ((ledger.rollover now).quota.used < (ledger.rollover now).quota.limit ∧
          (ledger.rollover now).quota.limit ≤ (ledger.rollover now).quota.used + n) ∧
        (ledger.rollover now).quota.used + n - (ledger.rollover now).quota.flushedAt <
          (ledger.rollover now).quota.granularity ∨
      ledger.add now n = ((ledger.rollover now).charge n).checkpoint now := by
  unfold add
  rw [if_neg some]
  dsimp only
  split_ifs with spent due
  · exact .inr rfl
  · exact .inr rfl
  · rw [not_or] at due
    exact .inl ⟨rfl, spent, UInt64.not_le.mp due.1⟩

/-- Checkpointing or not, `Add` counts the bytes in the cycle it has rolled over to. -/
theorem add_quota (some : n ≠ 0) : ∃ flushedAt flushedTime flushErr,
    (ledger.add now n).quota =
      { ((ledger.rollover now).charge n).quota with flushedAt, flushedTime, flushErr } := by
  rcases add_eq n some with ⟨added, _, _⟩ | added
  · rw [added]
    exact ⟨_, _, _, rfl⟩
  · rw [added]
    exact checkpoint_quota _ now

/-- Counting keeps the limit. -/
theorem add_limit : (ledger.add now n).quota.limit = ledger.quota.limit := by
  by_cases nothing : n = 0
  · rw [add, if_pos nothing]
  · obtain ⟨_, _, _, added⟩ := add_quota n nothing
    rw [added]
    exact rollover_limit ledger now

theorem le_add : ledger.quota.cycleStart ≤ (ledger.add now n).quota.cycleStart := by
  by_cases nothing : n = 0
  · exact Int.le_of_eq (by rw [add, if_pos nothing])
  · obtain ⟨_, _, _, added⟩ := add_quota n nothing
    rw [added]
    exact le_rollover

/-- Within the cycle, a usage at the cap stays there unless the counter wraps. -/
theorem add_spent (same : ¬ ledger.LaterCycle now)
    (fits : ledger.quota.used.toNat + n.toNat < 2 ^ 64)
    (spent : ledger.quota.limit ≤ ledger.quota.used) :
    (ledger.add now n).quota.limit ≤ (ledger.add now n).quota.used := by
  rw [add_limit]
  by_cases nothing : n = 0
  · rw [add, if_pos nothing]
    exact spent
  · obtain ⟨_, _, _, added⟩ := add_quota n nothing
    rw [added, rollover_same same]
    change ledger.quota.limit ≤ ledger.quota.used + n
    rw [UInt64.le_iff_toNat_le] at spent ⊢
    rw [UInt64.toNat_add, Nat.mod_eq_of_lt fits]
    omega

end Ledger

inductive QuotaLabel where
  | add (n : Bytes) (now : Reading)
  | exhausted (now : Reading)
  | used (now : Reading)
  | remaining (now : Reading)
  | flush (now : Reading)
  /-- The process is lost and a new one builds the quota from the checkpoint. -/
  | crash (now : Reading)

def QuotaLabel.now : QuotaLabel → Reading
  | .add _ now | .exhausted now | .used now | .remaining now | .flush now | .crash now => now

/-- The quota of one operator at `path` under fixed limits, with writes that succeed. -/
def monthlyQuota (limits : Limits) (path : String) : Machine Ledger QuotaLabel where
  initial ledger :=
    path ≠ "" ∧ ledger.fault = none ∧
      ∃ now, newQuota limits path ledger.file now = .ok (some ledger.quota)
  step ledger
    | .add n now => some (ledger.add now n)
    | .exhausted now => some (ledger.exhausted now).2
    | .used now => some (ledger.used now).2
    | .remaining now => some (ledger.remaining now).2
    | .flush now => some (ledger.flush now).2
    | .crash now =>
      match newQuota limits path ledger.file now with
      | .ok (some quota) => some { ledger with quota }
      | _ => none

/-- What the checkpoint says about the counter in memory. -/
inductive Persisted (ledger : Ledger) : Prop where
  /-- No checkpoint has been written yet. -/
  | missing (absent : ledger.file = .missing) (unflushed : ledger.quota.flushedAt = 0)
  /-- The checkpoint is of the recorded cycle. -/
  | current {state : QuotaState} (held : ledger.file = .saved state)
      (same : state.cycleStart = ledger.quota.cycleStart)
      (flushed : state.used = ledger.quota.flushedAt)
  /-- The process started in a later cycle and has not written since. -/
  | stale {state : QuotaState} (held : ledger.file = .saved state)
      (older : state.cycleStart < ledger.quota.cycleStart)
      (unflushed : ledger.quota.flushedAt = 0)

/-- The quota was declared, and its file can be written. -/
structure Configured (limits : Limits) (path : String) (ledger : Ledger) : Prop where
  declared : limits.monthlyQuota ≠ 0
  limit : ledger.quota.limit = limits.monthlyQuota
  cycleDay : ledger.quota.cycleDay = if limits.cycleDay = 0 then 1 else limits.cycleDay
  located : ledger.quota.path = path
  persistent : path ≠ ""
  writable : ledger.fault = none

/-- The counter is ahead of its checkpoint by less than one granularity, and not at all when it
exhausts the quota. -/
structure Tallied (limits : Limits) (path : String) (ledger : Ledger) : Prop where
  configured : Configured limits path ledger
  persisted : Persisted ledger
  flushed : ledger.quota.flushedAt ≤ ledger.quota.used
  ahead : ledger.quota.used.toNat <
    ledger.quota.flushedAt.toNat + ledger.quota.granularity.toNat
  spent : ledger.quota.limit ≤ ledger.quota.used → ledger.quota.limit ≤ ledger.quota.flushedAt

theorem Quota.granularity_pos (quota : Quota) : 0 < quota.granularity.toNat := by
  unfold Quota.granularity
  dsimp only
  split_ifs with small large
  · decide
  · decide
  · decide
  · have least : minFlushGranularity ≤ quota.limit / 64 := UInt64.not_lt.mp small
    rw [UInt64.le_iff_toNat_le] at least
    have positive : 0 < minFlushGranularity.toNat := by decide
    omega

section

variable {limits : Limits} {path : String} {ledger : Ledger} {now : Reading} {n : Bytes}

/-- A checkpoint brings the file level with the counter. -/
theorem Configured.checkpoint (configured : Configured limits path ledger) :
    Tallied limits path (ledger.checkpoint now) := by
  have named : ledger.quota.path ≠ "" := by
    rw [configured.located]
    exact configured.persistent
  have written : ledger.checkpoint now = { ledger with
        file := .saved ⟨ledger.quota.cycleStart, ledger.quota.used, ledger.quota.limit,
          ledger.quota.cycleDay⟩
        quota := { ledger.quota with
          flushedAt := ledger.quota.used
          flushedTime := now.instant
          flushErr := none } } := by
    unfold Ledger.checkpoint
    rw [if_neg named]
    simp only [configured.writable]
  rw [written]
  constructor
  case configured => exact { configured with }
  case persisted => exact .current rfl rfl rfl
  case flushed => exact UInt64.le_refl _
  case ahead => exact Nat.lt_add_of_pos_right (Quota.granularity_pos _)
  case spent => exact id

/-- A reading of a later cycle starts it; any other changes nothing. -/
theorem Tallied.rollover (tallied : Tallied limits path ledger) :
    Tallied limits path (ledger.rollover now) := by
  by_cases later : ledger.LaterCycle now
  · rw [Ledger.rollover_later later]
    apply Configured.checkpoint
    exact { tallied.configured with }
  · rw [Ledger.rollover_same later]
    exact tallied

/-- Bytes that fit in the counter keep what the ledger says of itself. -/
theorem Tallied.add (tallied : Tallied limits path ledger)
    (fits : ledger.quota.used.toNat + n.toNat < 2 ^ 64) :
    Tallied limits path (ledger.add now n) := by
  by_cases nothing : n = 0
  · rw [Ledger.add, if_pos nothing]
    exact tallied
  have rolled : Tallied limits path (ledger.rollover now) := tallied.rollover
  have below : (ledger.rollover now).quota.used.toNat ≤ ledger.quota.used.toNat :=
    Ledger.rollover_used_le
  rcases Ledger.add_eq n nothing with ⟨added, crossed, small⟩ | added
  · rw [added]
    generalize ledger.rollover now = rolledOver at rolled below crossed small
    have sum : (rolledOver.quota.used + n).toNat = rolledOver.quota.used.toNat + n.toNat := by
      rw [UInt64.toNat_add, Nat.mod_eq_of_lt]
      omega
    have flushed := UInt64.le_iff_toNat_le.mp rolled.flushed
    have more : rolledOver.quota.flushedAt ≤ rolledOver.quota.used + n := by
      rw [UInt64.le_iff_toNat_le, sum]
      omega
    constructor
    case configured => exact { rolled.configured with }
    case persisted =>
      cases rolled.persisted with
      | missing absent unflushed => exact .missing absent unflushed
      | current held same flushed => exact .current held same flushed
      | stale held older unflushed => exact .stale held older unflushed
    case flushed => exact more
    case ahead =>
      rw [UInt64.lt_iff_toNat_lt, UInt64.toNat_sub_of_le _ _ more] at small
      change (rolledOver.quota.used + n).toNat <
        rolledOver.quota.flushedAt.toNat + rolledOver.quota.granularity.toNat
      omega
    case spent =>
      intro reached
      apply rolled.spent
      by_contra below
      exact crossed ⟨UInt64.not_le.mp below, reached⟩
  · rw [added]
    apply Configured.checkpoint
    exact { rolled.configured with }

variable {file : StateFile} {quota : Quota}

/-- What `NewQuota` makes of a file it can use. -/
theorem newQuota_cases (persistent : path ≠ "")
    (built : newQuota limits path file now = .ok (some quota)) :
    limits.monthlyQuota ≠ 0 ∧ (file = .missing ∧ quota = freshQuota limits path now ∨
        ∃ state, file = .saved state ∧ ((freshQuota limits path now).cycleStart ≤ state.cycleStart ∧
              quota = { freshQuota limits path now with
                cycleStart := state.cycleStart
                used := state.used
                flushedAt := state.used } ∨
            state.cycleStart < (freshQuota limits path now).cycleStart ∧
              quota = freshQuota limits path now)) := by
  unfold newQuota at built
  split_ifs at built with undeclared
  · cases built
  refine ⟨undeclared, ?_⟩
  cases file with
  | missing =>
    cases built
    exact .inl ⟨rfl, rfl⟩
  | unreadable | corrupt => cases built
  | saved state =>
    refine .inr ⟨state, rfl, ?_⟩
    dsimp only at built
    split_ifs at built with older
    · cases built
      exact .inr ⟨older, rfl⟩
    · cases built
      exact .inl ⟨Int.not_lt.mp older, rfl⟩

/-- A quota just built is level with its file. -/
theorem newQuota_tallied (persistent : path ≠ "")
    (built : newQuota limits path file now = .ok (some quota)) :
    Tallied limits path ⟨quota, file, none⟩ := by
  obtain ⟨declared, cases⟩ := newQuota_cases persistent built
  have ahead (used : Nat) := @Nat.lt_add_of_pos_right _ used quota.granularity_pos
  rcases cases with ⟨absent, rfl⟩ | ⟨state, held, ⟨_, rfl⟩ | ⟨older, rfl⟩⟩
  · exact ⟨⟨declared, rfl, rfl, rfl, persistent, rfl⟩, .missing absent rfl, UInt64.le_refl _,
      ahead _, id⟩
  · exact ⟨⟨declared, rfl, rfl, rfl, persistent, rfl⟩, .current held rfl rfl, UInt64.le_refl _,
      ahead _, id⟩
  · exact ⟨⟨declared, rfl, rfl, rfl, persistent, rfl⟩, .stale held older rfl, UInt64.le_refl _,
      ahead _, id⟩

theorem Configured.fresh_cycleStart (configured : Configured limits path ledger) :
    (freshQuota limits path now).cycleStart = cycleStart now ledger.quota.cycleDay := by
  rw [configured.cycleDay]
  rfl

/-- The file of a tallied ledger can always be used. -/
theorem Tallied.newQuota_ok (tallied : Tallied limits path ledger) (now : Reading) :
    ∃ quota, newQuota limits path ledger.file now = .ok (some quota) := by
  have declared := tallied.configured.declared
  have persistent := tallied.configured.persistent
  unfold newQuota
  rw [if_neg declared, if_neg persistent]
  cases tallied.persisted with
  | missing absent =>
    rw [absent]
    exact ⟨_, rfl⟩
  | current held | stale held =>
    rw [held]
    dsimp only
    split_ifs
    · exact ⟨_, rfl⟩
    · exact ⟨_, rfl⟩

/-- A restart that reads no later cycle takes up a checkpoint of the recorded one. -/
theorem newQuota_resumes {state : QuotaState} (persistent : path ≠ "")
    (built : newQuota limits path file now = .ok (some quota)) (held : file = .saved state)
    (within : (freshQuota limits path now).cycleStart ≤ state.cycleStart) :
    quota.cycleStart = state.cycleStart ∧ quota.used = state.used := by
  rcases (newQuota_cases persistent built).2 with ⟨absent, _⟩ | ⟨found, there, cases⟩
  · rw [held] at absent
    cases absent
  rw [held] at there
  cases there
  rcases cases with ⟨_, rfl⟩ | ⟨older, _⟩
  · exact ⟨rfl, rfl⟩
  · omega

/-- A restart records the later cycle of the clock's and the checkpoint's. -/
theorem newQuota_cycleStart (persistent : path ≠ "")
    (built : newQuota limits path file now = .ok (some quota)) :
    (freshQuota limits path now).cycleStart ≤ quota.cycleStart ∧
      ∀ state, file = .saved state → state.cycleStart ≤ quota.cycleStart := by
  rcases (newQuota_cases persistent built).2 with
    ⟨rfl, rfl⟩ | ⟨found, rfl, ⟨within, rfl⟩ | ⟨older, rfl⟩⟩
  · refine ⟨Int.le_refl _, ?_⟩
    intro state held
    cases held
  · refine ⟨within, ?_⟩
    intro state held
    cases held
    exact Int.le_refl _
  · refine ⟨Int.le_refl _, ?_⟩
    intro state held
    cases held
    exact Int.le_of_lt older

variable (tallied : Tallied limits path ledger)
include tallied

/-- In the recorded cycle, or before, a new process takes up what was checkpointed, if anything. -/
theorem Tallied.resumes
    (built : newQuota limits path ledger.file now = .ok (some quota))
    (same : ¬ ledger.LaterCycle now) :
    ledger.quota.flushedAt = 0 ∨ quota.used = ledger.quota.flushedAt := by
  cases tallied.persisted with
  | missing _ unflushed | stale _ _ unflushed => exact .inl unflushed
  | @current state held cycle flushed =>
    have within : (freshQuota limits path now).cycleStart ≤ state.cycleStart := by
      rw [tallied.configured.fresh_cycleStart, cycle]
      exact Int.not_lt.mp same
    have resumed := newQuota_resumes tallied.configured.persistent built held within
    exact .inr (resumed.2.trans flushed)

/-- It starts less than one granularity behind the process that was lost. -/
theorem Tallied.restart_used
    (built : newQuota limits path ledger.file now = .ok (some quota))
    (same : ¬ ledger.LaterCycle now) :
    ledger.quota.used.toNat < quota.used.toNat + ledger.quota.granularity.toNat := by
  have ahead := tallied.ahead
  rcases tallied.resumes built same with unflushed | resumed
  · rw [unflushed, UInt64.toNat_zero] at ahead
    omega
  · rw [resumed]
    exact ahead

/-- An exhausted quota is checkpointed as such, in its cycle. -/
theorem Tallied.restart_spent
    (built : newQuota limits path ledger.file now = .ok (some quota))
    (same : ¬ ledger.LaterCycle now) (spent : ledger.quota.limit ≤ ledger.quota.used) :
    ledger.quota.limit ≤ quota.used := by
  have written : ledger.quota.limit ≤ ledger.quota.flushedAt := tallied.spent spent
  rcases tallied.resumes built same with unflushed | resumed
  · rw [unflushed, UInt64.le_zero_iff, tallied.configured.limit] at written
    exact absurd written tallied.configured.declared
  · rw [resumed]
    exact written

omit tallied

end

/-- The cycle that the file holds a checkpoint of. -/
def StateFile.cycle : StateFile → Option Int
  | .saved state => some state.cycleStart
  | _ => none

/-- The bytes added fit in the counter, and a restart whose clock reads an earlier cycle than the
recorded one finds a checkpoint of that one. -/
def Steady (ledger : Ledger) : QuotaLabel → Prop
  | .add n _ => ledger.quota.used.toNat + n.toNat < 2 ^ 64
  | .crash now =>
    cycleStart now ledger.quota.cycleDay < ledger.quota.cycleStart →
      ledger.file.cycle = some ledger.quota.cycleStart
  | _ => True

instance (ledger : Ledger) : (label : QuotaLabel) → Decidable (Steady ledger label)
  | .add _ _ => inferInstanceAs (Decidable (_ < _))
  | .crash _ => inferInstanceAs (Decidable (_ < _ → _ = _))
  | .exhausted _ | .used _ | .remaining _ | .flush _ => inferInstanceAs (Decidable True)

section

variable {limits : Limits} {path : String} {ledger next : Ledger} {label : QuotaLabel}

theorem crash_cases {now : Reading}
    (moves : (monthlyQuota limits path).step ledger (.crash now) = some next) :
    ∃ quota, newQuota limits path ledger.file now = .ok (some quota) ∧
      next = { ledger with quota } := by
  simp only [monthlyQuota] at moves
  split at moves
  case h_1 quota built =>
    cases moves
    exact ⟨quota, built, rfl⟩
  case h_2 => cases moves

/-- Every step keeps counter and checkpoint together and the cycle from moving back. -/
theorem Tallied.step (tallied : Tallied limits path ledger) (steady : Steady ledger label)
    (moves : (monthlyQuota limits path).step ledger label = some next) :
    Tallied limits path next ∧ ledger.quota.cycleStart ≤ next.quota.cycleStart := by
  cases label with
  | add n =>
    cases moves
    exact ⟨tallied.add steady, Ledger.le_add n⟩
  | exhausted now | used now | remaining now =>
    cases moves
    exact ⟨tallied.rollover, Ledger.le_rollover⟩
  | flush =>
    cases moves
    refine ⟨tallied.configured.checkpoint, Int.le_of_eq ?_⟩
    rw [Ledger.flush, Ledger.checkpoint_cycleStart]
  | crash now =>
    obtain ⟨quota, built, rfl⟩ := crash_cases moves
    have persistent := tallied.configured.persistent
    have level := newQuota_tallied persistent built
    have latest := newQuota_cycleStart persistent built
    rw [tallied.configured.fresh_cycleStart] at latest
    refine ⟨?_, ?_⟩
    · rw [← tallied.configured.writable] at level
      exact level
    by_cases earlier : cycleStart now ledger.quota.cycleDay < ledger.quota.cycleStart
    · have held := steady earlier
      unfold StateFile.cycle at held
      split at held
      case h_1 state saved =>
        rw [← Option.some.inj held]
        exact latest.2 state saved
      case h_2 => cases held
    · exact Int.le_trans (Int.not_lt.mp earlier) latest.1

/-- Until a reading falls in a later cycle, an exhausted quota stays exhausted. -/
theorem Tallied.step_spent (tallied : Tallied limits path ledger) (steady : Steady ledger label)
    (same : ¬ ledger.LaterCycle label.now) (spent : ledger.quota.limit ≤ ledger.quota.used)
    (moves : (monthlyQuota limits path).step ledger label = some next) :
    next.quota.limit ≤ next.quota.used := by
  cases label with
  | add n =>
    cases moves
    exact Ledger.add_spent n same steady spent
  | exhausted now | used now | remaining now =>
    cases moves
    have unchanged : ledger.rollover now = ledger := Ledger.rollover_same same
    change (ledger.rollover now).quota.limit ≤ (ledger.rollover now).quota.used
    rw [unchanged]
    exact spent
  | flush =>
    cases moves
    rw [Ledger.flush, Ledger.checkpoint_limit, Ledger.checkpoint_used]
    exact spent
  | crash =>
    obtain ⟨quota, built, rfl⟩ := crash_cases moves
    have level := newQuota_tallied tallied.configured.persistent built
    rw [level.configured.limit, ← tallied.configured.limit]
    exact tallied.restart_spent built same spent

/-- What the quota and its checkpoint say of each other, without a wrap or a restart before an
unwritten cycle. -/
theorem quota_survives_crashes {labels : List QuotaLabel}
    (runs : (monthlyQuota limits path).Runs Steady labels ledger) :
    ledger.quota.flushedAt ≤ ledger.quota.used ∧ (∀ now, ∃ restarted,
        (monthlyQuota limits path).step ledger (.crash now) = some restarted ∧
          (¬ ledger.LaterCycle now → ledger.quota.used.toNat <
            restarted.quota.used.toNat + ledger.quota.granularity.toNat)) ∧
      ∀ {more final}, (monthlyQuota limits path).follow ledger more = some final →
        ((monthlyQuota limits path).Meets Steady ledger more →
          ledger.quota.cycleStart ≤ final.quota.cycleStart) ∧
        (ledger.quota.limit ≤ ledger.quota.used → (monthlyQuota limits path).Meets
            (fun state label => Steady state label ∧ ¬ state.LaterCycle label.now) ledger more →
          ∀ now, ¬ final.LaterCycle now → (final.exhausted now).1 = true) := by
  have tallied : Tallied limits path ledger := by
    apply runs.invariant
    · rintro state ⟨persistent, writable, now, built⟩
      have level := newQuota_tallied persistent built
      rw [← writable] at level
      exact level
    · intro state label next tallied steady transition
      exact (tallied.step steady transition).1
  refine ⟨tallied.flushed, ?_, ?_⟩
  · intro now
    obtain ⟨quota, built⟩ := tallied.newQuota_ok now
    refine ⟨{ ledger with quota }, ?_, tallied.restart_used built⟩
    simp only [monthlyQuota, built]
  intro more final followed
  constructor
  · intro steady
    have kept := @Machine.follow_related _ _ (monthlyQuota limits path) Steady
      (fun before after => before.quota.cycleStart ≤ after.quota.cycleStart)
      (Tallied limits path) (fun _ => Int.le_refl _) Int.le_trans Tallied.step
      more ledger final tallied followed steady
    exact kept.2
  · intro spent steady now same
    have kept := @Machine.follow_related _ _ (monthlyQuota limits path) _ (fun _ _ => True)
      (fun state => Tallied limits path state ∧ state.quota.limit ≤ state.quota.used)
      (fun _ => trivial) (fun _ _ => trivial)
      (fun holds met transition =>
        ⟨⟨(holds.1.step met.1 transition).1,
          holds.1.step_spent met.1 met.2 holds.2 transition⟩, trivial⟩)
      more ledger final ⟨tallied, spent⟩ followed steady
    rw [Ledger.exhausted, Ledger.rollover_same same]
    exact decide_eq_true kept.1.2

end

/-- A megabyte for each calendar month. -/
def megabyte : Limits := ⟨1000000, 1⟩

/-- The operator's quota as a first run builds it. -/
def firstRun (now : Reading) : Ledger := ⟨freshQuota megabyte "quota.json" now, .missing, none⟩

theorem firstRun_initial (now : Reading) :
    (monthlyQuota megabyte "quota.json").initial (firstRun now) :=
  ⟨by decide, rfl, now, rfl⟩

/-- The cap is spent in two days, with a crash between them. -/
def spending : List QuotaLabel :=
  [.add 600000 (midnight 2026 1 5), .crash (midnight 2026 1 6), .add 400000 (midnight 2026 1 7)]

/-- A ledger of January with the whole cap on file. -/
def spentCap : Ledger where
  quota :=
    { limit := 1000000
      cycleDay := 1
      used := 1000000
      cycleStart := (midnight 2026 1 1).instant
      path := "quota.json"
      flushedAt := 1000000
      flushedTime := (midnight 2026 1 7).instant }
  file := .saved ⟨(midnight 2026 1 1).instant, 1000000, 1000000, 1⟩

/-- The spent cap stays spent over a restart whose clock has lost the year. -/
theorem spent_cap_survives :
    ∃ final, (monthlyQuota megabyte "quota.json").Runs Steady spending spentCap ∧
      (monthlyQuota megabyte "quota.json").follow spentCap [.crash (midnight 1970 1 1)] =
        some final ∧
      (final.exhausted (midnight 2026 1 8)).1 = true := by
  have followed : (monthlyQuota megabyte "quota.json").follow (firstRun (midnight 2026 1 5))
      spending = some spentCap := rfl
  have runs : (monthlyQuota megabyte "quota.json").Runs Steady spending spentCap :=
    .ofFollow (firstRun_initial _) followed (by decide)
  have back : (monthlyQuota megabyte "quota.json").follow spentCap [.crash (midnight 1970 1 1)] =
      some { spentCap with quota := { spentCap.quota with
        flushedTime := (midnight 1970 1 1).instant } } := rfl
  have survives := (quota_survives_crashes runs).2.2 back
  exact ⟨_, runs, back, survives.2 (by decide) (by decide) _ (by decide)⟩

/-- A process that starts in February and writes nothing is followed by one whose clock reads
January: the recorded cycle moves back. And bytes past the end of the counter bring a spent cap
back. -/
theorem cycle_moves_back_and_cap_returns :
    (∃ started restarted, (monthlyQuota megabyte "quota.json").initial started ∧
      (monthlyQuota megabyte "quota.json").step started (.crash (midnight 2026 1 31)) =
        some restarted ∧
      restarted.quota.cycleStart < started.quota.cycleStart) ∧
    ∃ final, (monthlyQuota megabyte "quota.json").Runs Machine.free spending spentCap ∧
      (spentCap.exhausted (midnight 2026 1 7)).1 = true ∧
      (monthlyQuota megabyte "quota.json").step spentCap
        (.add 18446744073708551616 (midnight 2026 1 7)) = some final ∧
      (final.exhausted (midnight 2026 1 7)).1 = false := by
  constructor
  · have started : (monthlyQuota megabyte "quota.json").initial
        ⟨freshQuota megabyte "quota.json" (midnight 2026 2 3), spentCap.file, none⟩ :=
      ⟨by decide, rfl, midnight 2026 2 3, rfl⟩
    exact ⟨_, _, started, rfl, by decide⟩
  · have followed : (monthlyQuota megabyte "quota.json").follow (firstRun (midnight 2026 1 5))
        spending = some spentCap := rfl
    exact ⟨_, .ofFollow (firstRun_initial _) followed (Machine.meets_free _ _), by decide, rfl,
      by decide⟩

end Bacchus.Capacity
