import Bacchus.Capacity.Quota
import Mathlib.Order.Bounds.Basic

/-!
# Billing cycles

Where `CycleStart` puts the boundaries of a cycle in a zone of fixed offset. Months are
counted on one line from the year 0.
-/

namespace Bacchus.Capacity

/-- `time.FixedZone`, with the offset east of UTC in nanoseconds. -/
def fixedZone (offset : Int) : Location where
  civil instant := utc.civil (instant + offset)
  instant civil := utc.instant civil - offset

/-- Days before a year that is counted from March. -/
def yearStart (year : Int) : Int := 365 * year + year / 4 - year / 100 + year / 400

/-- The first day of a month, from the epoch. -/
def monthStart (months : Int) : Int :=
  yearStart ((months - 3) / 12) + (153 * ((months - 3) % 12) + 2) / 5 - 719468

theorem daysFromCivil_eq (year month day : Int) :
    daysFromCivil year month day = monthStart (12 * year + month) + day - 1 := by
  have wide : (0 : Int) ≤ 12 := by decide
  simp only [daysFromCivil, monthStart, yearStart, Int.fdiv_eq_ediv_of_nonneg _ wide,
    Int.fmod_eq_emod_of_nonneg _ wide,
      Int.fdiv_eq_ediv_of_nonneg _ (show (0 : Int) ≤ 400 by decide)]
  have whole : (12 * year + month - 3) / 12 = year + (month - 3) / 12 := by omega
  rw [whole]
  omega

theorem monthStart_eq {months : Int} (year month : Int) (split : months = 12 * year + month + 3)
    (low : 0 ≤ month) (high : month < 12) :
    monthStart months = yearStart year + (153 * month + 2) / 5 - 719468 := by
  have years : (months - 3) / 12 = year := by omega
  have rest : (months - 3) % 12 = month := by omega
  rw [monthStart, years, rest]

/-- A month has 28 days at least. -/
theorem monthStart_succ (months : Int) : monthStart months + 28 ≤ monthStart (months + 1) := by
  obtain ⟨year, month, low, high, split⟩ :
      ∃ year month : Int, 0 ≤ month ∧ month < 12 ∧ months = 12 * year + month + 3 :=
    ⟨(months - 3) / 12, (months - 3) % 12, by omega⟩
  rw [monthStart_eq year month split low high]
  by_cases turns : month = 11
  · rw [monthStart_eq (year + 1) 0 (by omega) (by omega) (by omega)]
    unfold yearStart
    omega
  · rw [monthStart_eq year (month + 1) (by omega) (by omega) (by omega)]
    omega

theorem monthStart_mono {first second : Int} (before : first ≤ second) :
    monthStart first ≤ monthStart second := by
  refine monotone_int_of_le_succ (fun months => ?_) before
  have := monthStart_succ months
  omega

/-- The year of a day in an era of four centuries. -/
theorem year_of_era {day year : Int} (low : 0 ≤ day) (high : day < 146097)
    (computed : year = (day - day / 1460 + day / 36524 - day / 146096) / 365) :
    0 ≤ year ∧ year < 400 ∧ yearStart year ≤ day ∧ day < yearStart (year + 1) := by
  obtain ⟨century, isCentury⟩ : ∃ century, century = day / 36524 - day / 146096 := ⟨_, rfl⟩
  obtain ⟨cycle, isCycle⟩ : ∃ cycle, cycle = (day - 36524 * century) / 1461 := ⟨_, rfl⟩
  obtain ⟨rest, isRest⟩ : ∃ rest, rest = day - 36524 * century - 1461 * cycle := ⟨_, rfl⟩
  have centuries : 0 ≤ century ∧ century ≤ 3 := by omega
  have cycles : 0 ≤ cycle ∧ cycle ≤ 24 := by omega
  have rests : 0 ≤ rest ∧ rest ≤ 1460 := by omega
  have last : cycle = 24 → rest = 1460 → century = 3 := by omega
  have leaps : day / 1460 =
      25 * century + cycle + if 1460 ≤ 24 * century + cycle + rest then 1 else 0 := by
    split <;> omega
  obtain ⟨part, isPart⟩ : ∃ part, part = year - 100 * century - 4 * cycle := ⟨_, rfl⟩
  have parts : 0 ≤ part ∧ part ≤ 3 ∧ 365 * part ≤ rest ∧ (part < 3 → rest < 365 * (part + 1)) := by
    rw [leaps] at computed
    clear leaps
    split at computed <;> omega
  clear computed isCycle isCentury leaps
  unfold yearStart
  have fourth : year / 4 = 25 * century + cycle := by omega
  have hundredth : year / 100 = century := by omega
  refine ⟨by omega, by omega, by omega, ?_⟩
  by_cases short : part < 3
  · have : (year + 1) / 4 = 25 * century + cycle := by omega
    have : (year + 1) / 100 = century := by omega
    omega
  · have : (year + 1) / 4 = 25 * century + cycle + 1 := by omega
    by_cases full : cycle = 24
    · have : (year + 1) / 100 = century + 1 := by omega
      omega
    · have : (year + 1) / 100 = century := by omega
      omega

theorem yearStart_succ_le (year : Int) : yearStart (year + 1) ≤ yearStart year + 366 := by
  unfold yearStart
  omega

theorem yearStart_era (era year : Int) :
    yearStart (year + era * 400) = yearStart year + era * 146097 := by
  unfold yearStart
  omega

theorem civilFromDays_spec {days year month day : Int}
    (civil : civilFromDays days = (year, month, day)) :
    monthStart (12 * year + month) ≤ days ∧ days < monthStart (12 * year + month + 1) ∧
      day = days - monthStart (12 * year + month) + 1 := by
  simp only [civilFromDays, Prod.mk.injEq,
    Int.fdiv_eq_ediv_of_nonneg _ (show (0 : Int) ≤ 146097 by decide)] at civil
  generalize isEra : (days + 719468) / 146097 = era at civil
  generalize isDay : days + 719468 - era * 146097 = dayOfEra at civil
  generalize isYear : (dayOfEra - dayOfEra / 1460 + dayOfEra / 36524 - dayOfEra / 146096) / 365 =
    yearOfEra at civil
  obtain ⟨_, _, begun, ends⟩ := year_of_era (by omega) (by omega) isYear.symm
  clear isYear
  have sameYear : 365 * yearOfEra + yearOfEra / 4 - yearOfEra / 100 = yearStart yearOfEra := by
    unfold yearStart
    omega
  rw [sameYear] at civil
  clear sameYear
  have long := yearStart_succ_le yearOfEra
  generalize isMonth : (5 * (dayOfEra - yearStart yearOfEra) + 2) / 153 = fromMarch at civil
  have months : 12 * year + month - 3 = 12 * (yearOfEra + era * 400) + fromMarch := by
    obtain ⟨rfl, rfl, -⟩ := civil
    split_ifs <;> omega
  have here := yearStart_era era yearOfEra
  rw [monthStart_eq (yearOfEra + era * 400) fromMarch (by omega) (by omega) (by omega)]
  by_cases turns : fromMarch = 11
  · have next := yearStart_era era (yearOfEra + 1)
    rw [monthStart_eq (yearOfEra + 1 + era * 400) 0 (by omega) (by omega) (by omega)]
    omega
  · rw [monthStart_eq (yearOfEra + era * 400) (fromMarch + 1) (by omega) (by omega) (by omega)]
    omega

/-- Midnight on `day` of month `months`, in a zone of fixed offset. -/
def anchor (offset day months : Int) : Int :=
  (monthStart months + day - 1) * nanosPerDay - offset

/-- An instant shown as midnight on that day of a month. -/
def Anchors (location : Location) (day start : Int) : Prop :=
  (location.civil start).day = day ∧ (location.civil start).clock = 0

variable {offset day : Int}

theorem instant_eq_anchor (offset year month day : Int) :
    (fixedZone offset).instant ⟨year, month, day, 0⟩ = anchor offset day (12 * year + month) := by
  simp [fixedZone, utc, daysFromCivil_eq, anchor]

/-- What the zone shows at an instant: a day of a month, and the time since midnight. -/
theorem civil_spec (offset now : Int) :
    ∃ year month day clock, (fixedZone offset).civil now = ⟨year, month, day, clock⟩ ∧
      now = anchor offset day (12 * year + month) + clock ∧ 0 ≤ clock ∧ clock < nanosPerDay ∧
      1 ≤ day ∧ monthStart (12 * year + month) + day ≤ monthStart (12 * year + month + 1) := by
  rcases shown : civilFromDays ((now + offset).fdiv nanosPerDay) with ⟨year, month, day⟩
  obtain ⟨begun, ends, isDay⟩ := civilFromDays_spec shown
  have positive : (0 : Int) < nanosPerDay := by decide
  have whole := Int.mul_fdiv_add_fmod (now + offset) nanosPerDay
  refine ⟨year, month, day, (now + offset).fmod nanosPerDay, ?_, ?_,
    Int.fmod_nonneg_of_pos _ positive, Int.fmod_lt_of_pos _ positive, by omega, by omega⟩
  · simp only [fixedZone, utc, shown]
  · unfold anchor nanosPerDay at *
    omega

theorem anchor_le_iff {first second : Int} :
    anchor offset day first ≤ anchor offset day second ↔ first ≤ second := by
  unfold anchor nanosPerDay
  constructor
  · intro before
    by_contra after
    have := monthStart_succ second
    have := monthStart_mono (Int.add_one_le_of_lt (Int.not_le.mp after))
    omega
  · intro before
    have := monthStart_mono before
    omega

theorem anchor_lt_iff {first second : Int} :
    anchor offset day first < anchor offset day second ↔ first < second :=
  lt_iff_lt_of_le_iff_le anchor_le_iff

variable (early : 1 ≤ day) (late : day ≤ 28)
include early late

theorem civil_anchor (offset months : Int) :
    ∃ year month, 12 * year + month = months ∧
      (fixedZone offset).civil (anchor offset day months) = ⟨year, month, day, 0⟩ := by
  obtain ⟨year, month, shownDay, clock, shown, whole, low, high, first, last⟩ :=
    civil_spec offset (anchor offset day months)
  have same : monthStart months + day = monthStart (12 * year + month) + shownDay ∧ clock = 0 := by
    unfold anchor nanosPerDay at *
    omega
  have month28 := monthStart_succ months
  have here : 12 * year + month = months := by
    rcases lt_trichotomy (12 * year + month) months with before | here | after
    · have := monthStart_mono (Int.add_one_le_of_lt before)
      omega
    · exact here
    · have := monthStart_mono (Int.add_one_le_of_lt after)
      omega
  rw [here] at same
  obtain rfl : shownDay = day := by omega
  exact ⟨year, month, here, same.2 ▸ shown⟩

theorem addDate_anchor (offset months step : Int) :
    (fixedZone offset).addDate (anchor offset day months) 0 step 0 =
      anchor offset day (months + step) := by
  obtain ⟨year, month, rfl, shown⟩ := civil_anchor early late offset months
  simp only [Location.addDate, shown, Int.add_zero, instant_eq_anchor, Int.add_assoc]

theorem anchors_iff {start : Int} :
    Anchors (fixedZone offset) day start ↔ ∃ months, start = anchor offset day months := by
  constructor
  · rintro ⟨isDay, midnight⟩
    obtain ⟨year, month, shownDay, clock, shown, whole, -⟩ := civil_spec offset start
    rw [shown] at isDay midnight
    dsimp only at isDay midnight
    rw [isDay, midnight, Int.add_zero] at whole
    exact ⟨_, whole⟩
  · rintro ⟨months, rfl⟩
    obtain ⟨year, month, -, shown⟩ := civil_anchor early late offset months
    rw [Anchors, shown]
    exact ⟨rfl, rfl⟩

/-- The cycle of `now` starts at the anchor of a month; the next one is ahead. -/
theorem cycleStart_eq_anchor (offset now : Int) :
    ∃ months, cycleStart ⟨now, fixedZone offset⟩ day = anchor offset day months ∧
      anchor offset day months ≤ now ∧ now < anchor offset day (months + 1) := by
  obtain ⟨year, month, today, clock, shown, whole, low, high, first, last⟩ := civil_spec offset now
  simp only [cycleStart, if_neg (Int.not_lt.mpr early), shown, instant_eq_anchor]
  generalize 12 * year + month = months at *
  split_ifs with ahead
  · refine ⟨months - 1, addDate_anchor early late offset months _, ?_, ?_⟩
    · have := monthStart_succ (months - 1)
      rw [Int.sub_add_cancel] at this
      unfold anchor nanosPerDay at *
      omega
    · rwa [Int.sub_add_cancel]
  · refine ⟨months, rfl, Int.not_lt.mp ahead, ?_⟩
    unfold anchor nanosPerDay at *
    omega

omit early late

/-- A cycle starts at the latest anchor reached, cycles follow in the order of time, and the next
starts a calendar month later. -/
theorem cycle_spec (offset day now : Int) (early : 1 ≤ day) (late : day ≤ 28) :
    IsGreatest {start | Anchors (fixedZone offset) day start ∧ start ≤ now}
      (cycleStart ⟨now, fixedZone offset⟩ day) ∧
    (∀ later, now ≤ later →
      cycleStart ⟨now, fixedZone offset⟩ day ≤ cycleStart ⟨later, fixedZone offset⟩ day) ∧
    IsLeast {next | cycleStart ⟨now, fixedZone offset⟩ day < next ∧
        ∃ later, cycleStart ⟨later, fixedZone offset⟩ day = next}
      ((fixedZone offset).addDate (cycleStart ⟨now, fixedZone offset⟩ day) 0 1 0) := by
  have greatest (now : Int) : IsGreatest
      {start | Anchors (fixedZone offset) day start ∧ start ≤ now}
      (cycleStart ⟨now, fixedZone offset⟩ day) := by
    obtain ⟨months, starts, reached, ahead⟩ := cycleStart_eq_anchor early late offset now
    rw [starts]
    refine ⟨⟨(anchors_iff early late).mpr ⟨months, rfl⟩, reached⟩, ?_⟩
    rintro start ⟨anchors, past⟩
    obtain ⟨other, rfl⟩ := (anchors_iff early late).mp anchors
    exact anchor_le_iff.mpr (Int.lt_add_one_iff.mp (anchor_lt_iff.mp (past.trans_lt ahead)))
  refine ⟨greatest now, ?_, ?_⟩
  · intro later after
    obtain ⟨anchors, reached⟩ := (greatest now).1
    exact (greatest later).2 ⟨anchors, reached.trans after⟩
  · obtain ⟨months, starts, -⟩ := cycleStart_eq_anchor early late offset now
    rw [starts, addDate_anchor early late]
    refine ⟨⟨anchor_lt_iff.mpr (Int.lt_succ _), anchor offset day (months + 1), ?_⟩, ?_⟩
    · have anchors := (@anchors_iff offset day early late _).mpr ⟨months + 1, rfl⟩
      exact (greatest _).unique ⟨⟨anchors, le_rfl⟩, fun _ other => other.2⟩
    · rintro next ⟨after, later, rfl⟩
      obtain ⟨other, starts, -⟩ := cycleStart_eq_anchor early late offset later
      rw [starts] at after ⊢
      exact anchor_le_iff.mpr (Int.add_one_le_of_lt (anchor_lt_iff.mp after))

/-- At the epoch the cycle of the fifteenth is the one of December. -/
theorem cycle_at_epoch :
    IsGreatest {start | Anchors (fixedZone 0) 15 start ∧ start ≤ 0} (-17 * nanosPerDay) := by
  have starts : cycleStart ⟨0, fixedZone 0⟩ 15 = -17 * nanosPerDay := by decide
  exact starts ▸ (cycle_spec 0 15 0 (by decide) (by decide)).1

end Bacchus.Capacity
