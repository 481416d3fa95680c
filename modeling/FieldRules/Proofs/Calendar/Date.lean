import FieldRules.Proofs.Calendar.MarchYear

set_option autoImplicit false

namespace FieldRules.Date

structure CycleDay (ofCycle centuries groups years days : Int) : Prop where
  sum : ofCycle = 36524 * centuries + 1461 * groups + 365 * years + days
  centuries_mem : 0 ≤ centuries ∧ centuries ≤ 3
  groups_mem : 0 ≤ groups ∧ groups ≤ 24
  years_mem : 0 ≤ years ∧ years ≤ 3
  days_mem : 0 ≤ days ∧ days ≤ 365
  -- A leap day ends a group, and that of a century's last group ends the cycle.
  leap : days = 365 → years = 3 ∧ (groups = 24 → centuries = 3)

theorem exists_cycleDay {ofCycle : Int} (mem : 0 ≤ ofCycle ∧ ofCycle < 146097) :
    ∃ centuries groups years days, CycleDay ofCycle centuries groups years days := by
  obtain ⟨centuries, ofCentury, centuriesMem, ofCenturyMem, lastCentury, sum⟩ :
      ∃ c r : Int, (0 ≤ c ∧ c ≤ 3) ∧ (0 ≤ r ∧ r ≤ 36524) ∧ (r = 36524 → c = 3) ∧
        ofCycle = 36524 * c + r := by
    by_cases last : ofCycle = 146096
    next => exact ⟨3, 36524, by omega, by omega, by omega, by omega⟩
    next => exact ⟨ofCycle / 36524, ofCycle % 36524, by omega, by omega, by omega, by omega⟩
  obtain ⟨groups, ofGroup, groupsMem, ofGroupMem, sum'⟩ :
      ∃ g r : Int, (0 ≤ g ∧ g ≤ 24) ∧ (0 ≤ r ∧ r ≤ 1460) ∧ ofCentury = 1461 * g + r :=
    ⟨ofCentury / 1461, ofCentury % 1461, by omega, by omega, by omega⟩
  obtain ⟨years, days, yearsMem, daysMem, lastYear, sum''⟩ :
      ∃ y r : Int, (0 ≤ y ∧ y ≤ 3) ∧ (0 ≤ r ∧ r ≤ 365) ∧ (r = 365 → y = 3) ∧
        ofGroup = 365 * y + r := by
    by_cases last : ofGroup = 1460
    next => exact ⟨3, 365, by omega, by omega, by omega, by omega⟩
    next => exact ⟨ofGroup / 365, ofGroup % 365, by omega, by omega, by omega, by omega⟩
  exact ⟨centuries, groups, years, days, by omega, centuriesMem, groupsMem, yearsMem, daysMem,
    fun leap => ⟨lastYear leap, by omega⟩⟩

namespace CycleDay

variable {ofCycle centuries groups years days : Int}

theorem year_eq (split : CycleDay ofCycle centuries groups years days) :
    (ofCycle - ofCycle / 1460 + ofCycle / 36524 - ofCycle / 146096) / 365 =
      100 * centuries + 4 * groups + years := by
  obtain ⟨sum, centuriesMem, groupsMem, yearsMem, daysMem, leap⟩ := split
  -- The last day of the cycle is the only one that is a century past its own.
  have whole : ofCycle / 36524 - ofCycle / 146096 = centuries := by
    by_cases last : ofCycle = 146096
    next =>
      subst last
      omega
    next =>
      have inCentury : 1461 * groups + 365 * years + days < 36524 := by omega
      omega
  have groupsBefore : ofCycle / 1460 =
      25 * centuries + groups + (24 * centuries + groups + 365 * years + days) / 1460 := by
    omega
  omega

theorem year_div (split : CycleDay ofCycle centuries groups years days) :
    (100 * centuries + 4 * groups + years) / 4 = 25 * centuries + groups ∧
      (100 * centuries + 4 * groups + years) / 100 = centuries ∧
      (100 * centuries + 4 * groups + years) / 400 = 0 := by
  obtain ⟨-, centuriesMem, groupsMem, yearsMem, -, -⟩ := split
  omega

theorem days_lt (split : CycleDay ofCycle centuries groups years days) (cycles : Int) :
    days < daysInYear (100 * centuries + 4 * groups + years + cycles * 400) := by
  have least := daysInYear_mem (100 * centuries + 4 * groups + years + cycles * 400)
  obtain ⟨-, centuriesMem, groupsMem, yearsMem, daysMem, leap⟩ := split
  by_cases last : days = 365
  next =>
    obtain ⟨rfl, cycle⟩ := leap last
    have four : (100 * centuries + 4 * groups + 3 + cycles * 400 + 1) % 4 = 0 := by omega
    have hundred : (100 * centuries + 4 * groups + 3 + cycles * 400 + 1) % 100 ≠ 0 ∨
        (100 * centuries + 4 * groups + 3 + cycles * 400 + 1) % 400 = 0 := by
      by_cases lastGroup : groups = 24
      next =>
        obtain rfl := cycle lastGroup
        omega
      next => omega
    have isLeap : isLeap (100 * centuries + 4 * groups + 3 + cycles * 400 + 1) = true := by
      simpa [isLeap, four] using hundred
    rw [daysInYear, if_pos isLeap, last]
    decide
  next => omega

end CycleDay

theorem daysBefore_add_cycles (year cycles : Int) :
    daysBefore (year + cycles * 400) = daysBefore year + cycles * 146097 := by
  simp only [daysBefore]
  omega

theorem exists_ofDayNumber (n : Int) :
    ∃ year day, (0 ≤ day ∧ day < daysInYear year) ∧ n + 719468 = daysBefore year + day ∧
      ofDayNumber n = ofMarch year day := by
  have mem : 0 ≤ (n + 719468) % 146097 ∧ (n + 719468) % 146097 < 146097 := by omega
  have cycles := Int.emod_add_mul_ediv (n + 719468) 146097
  obtain ⟨centuries, groups, years, days, split⟩ := exists_cycleDay mem
  obtain ⟨fours, hundreds, cycle⟩ := split.year_div
  have ofCycle : (n + 719468) % 146097 =
      daysBefore (100 * centuries + 4 * groups + years) + days := by
    rw [split.sum, daysBefore, fours, hundreds, cycle]
    omega
  have ofYear : (n + 719468) % 146097 - (365 * (100 * centuries + 4 * groups + years) +
      (100 * centuries + 4 * groups + years) / 4 -
      (100 * centuries + 4 * groups + years) / 100) = days := by
    rw [split.sum, fours, hundreds]
    omega
  refine ⟨_, days, ⟨split.days_mem.1, split.days_lt ((n + 719468) / 146097)⟩, ?_, ?_⟩
  · rw [daysBefore_add_cycles]
    omega
  · simp only [ofDayNumber, split.year_eq, ofYear, ofMarch]

theorem dayNumber_ofDayNumber (n : Int) : (ofDayNumber n).dayNumber = n := by
  obtain ⟨year, day, mem, sum, eq⟩ := exists_ofDayNumber n
  rw [eq, dayNumber_ofMarch mem]
  omega

theorem inMonth_ofDayNumber (n : Int) : (ofDayNumber n).InMonth := by
  obtain ⟨year, day, mem, -, eq⟩ := exists_ofDayNumber n
  exact eq ▸ inMonth_ofMarch mem

theorem year_le_of_dayNumber_le {year day year' day' : Int} (first : 0 ≤ day)
    (last : day' < daysInYear year') (le : daysBefore year + day ≤ daysBefore year' + day') :
    year ≤ year' := by
  refine Int.not_lt.1 fun later => ?_
  have next := daysBefore_succ year'
  have mono := daysBefore_mono (show year' + 1 ≤ year from later)
  omega

variable {d e : Date}

theorem dayNumber_inj (inMonth : d.InMonth) (inMonth' : e.InMonth)
    (same : d.dayNumber = e.dayNumber) : d = e := by
  obtain ⟨first, last⟩ := dayOfYear_mem inMonth
  obtain ⟨first', last'⟩ := dayOfYear_mem inMonth'
  rw [dayNumber_eq, dayNumber_eq] at same
  have year : d.marchYear = e.marchYear := Int.le_antisymm
    (year_le_of_dayNumber_le first last' (by omega))
    (year_le_of_dayNumber_le first' last (by omega))
  have day : d.dayOfYear = e.dayOfYear := by
    rw [year] at same
    omega
  rw [← ofMarch_dayOfYear inMonth, year, day, ofMarch_dayOfYear inMonth']

theorem dayNumber_january (year : Int) :
    (Date.mk year 1 1).dayNumber = daysBefore (year - 1) + 306 - 719468 := by
  simp [dayNumber_eq, marchYear, dayOfYear, daysBeforeMonth, sinceMarch]

theorem dayNumber_december (year : Int) :
    (Date.mk year 12 31).dayNumber = daysBefore year + 305 - 719468 := by
  simp [dayNumber_eq, marchYear, dayOfYear, daysBeforeMonth, sinceMarch]

theorem dayNumber_mem_year (inMonth : d.InMonth) :
    (Date.mk d.year 1 1).dayNumber ≤ d.dayNumber ∧
      d.dayNumber ≤ (Date.mk d.year 12 31).dayNumber := by
  have below := dayOfYear_lt_month inMonth
  obtain ⟨least, inYear⟩ := dayOfYear_mem inMonth
  obtain ⟨⟨one, twelve⟩, first, -⟩ := inMonth
  have length := daysInYear_mem (d.year - 1)
  have next := daysBefore_succ (d.year - 1)
  rw [Int.sub_add_cancel] at next
  rw [dayNumber_january, dayNumber_december, dayNumber_eq]
  by_cases winter : d.month ≤ 2
  next =>
    have marchYear : d.marchYear = d.year - 1 := if_pos winter
    have start : 306 ≤ d.dayOfYear := by
      simp only [dayOfYear, sinceMarch, daysBeforeMonth]
      omega
    rw [marchYear] at inYear ⊢
    omega
  next =>
    have marchYear : d.marchYear = d.year := if_neg winter
    have stop : d.dayOfYear ≤ 305 := by
      simp only [dayOfYear, sinceMarch, daysBeforeMonth] at below ⊢
      omega
    rw [marchYear]
    omega

theorem year_le_iff (inMonth : d.InMonth) (year : Int) :
    d.year ≤ year ↔ d.dayNumber ≤ (Date.mk year 12 31).dayNumber := by
  obtain ⟨first, last⟩ := dayNumber_mem_year inMonth
  rw [dayNumber_january] at first
  rw [dayNumber_december] at last ⊢
  constructor
  · intro le
    have := daysBefore_mono le
    omega
  · intro le
    refine Int.not_lt.1 fun later => ?_
    have := daysBefore_mono (show year ≤ d.year - 1 by omega)
    omega

theorem le_year_iff (inMonth : d.InMonth) (year : Int) :
    year ≤ d.year ↔ (Date.mk year 1 1).dayNumber ≤ d.dayNumber := by
  obtain ⟨first, last⟩ := dayNumber_mem_year inMonth
  rw [dayNumber_january] at first ⊢
  rw [dayNumber_december] at last
  constructor
  · intro le
    have := daysBefore_mono (show year - 1 ≤ d.year - 1 by omega)
    omega
  · intro le
    refine Int.not_lt.1 fun earlier => ?_
    have := daysBefore_mono (show d.year ≤ year - 1 by omega)
    omega

theorem isValid_ofDayNumber_iff (n : Int) :
    (ofDayNumber n).isValid = true ↔
      (Date.mk firstYear 1 1).dayNumber ≤ n ∧ n ≤ (Date.mk lastYear 12 31).dayNumber := by
  have inMonth := inMonth_ofDayNumber n
  rw [isValid_iff, le_year_iff inMonth, year_le_iff inMonth, dayNumber_ofDayNumber]
  exact and_iff_left inMonth

end FieldRules.Date
