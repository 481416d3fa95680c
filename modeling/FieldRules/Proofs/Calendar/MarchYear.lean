import Mathlib.Tactic.IntervalCases
import FieldRules.Calendar.Date

set_option autoImplicit false

namespace FieldRules.Date

-- Counted from the first of March of the year 0.
def daysBefore (year : Int) : Int := 365 * year + year / 4 - year / 100 + year / 400

-- The leap day at its end is that of the next year of the calendar.
def daysInYear (year : Int) : Int := if isLeap (year + 1) then 366 else 365

theorem daysInYear_mem (year : Int) : 365 ≤ daysInYear year ∧ daysInYear year ≤ 366 := by
  unfold daysInYear
  split <;> decide

theorem daysBefore_succ (year : Int) :
    daysBefore (year + 1) = daysBefore year + daysInYear year := by
  simp only [daysBefore, daysInYear, isLeap, Bool.and_eq_true, Bool.or_eq_true, beq_iff_eq,
    bne_iff_ne]
  split <;> omega

theorem daysBefore_mono {year later : Int} (le : year ≤ later) :
    daysBefore year ≤ daysBefore later := by
  simp only [daysBefore]
  omega

def sinceMarch (month : Nat) : Nat := (month + 9) % 12

def monthFromMarch (n : Nat) : Nat := if n < 10 then n + 3 else n - 9

def daysBeforeMonth (n : Nat) : Nat := (153 * n + 2) / 5

theorem sinceMarch_monthFromMarch {n : Nat} (lt : n < 12) :
    sinceMarch (monthFromMarch n) = n := by
  unfold sinceMarch monthFromMarch
  split <;> omega

theorem monthFromMarch_mem {n : Nat} (lt : n < 12) :
    1 ≤ monthFromMarch n ∧ monthFromMarch n ≤ 12 := by
  unfold monthFromMarch
  split <;> omega

theorem daysBeforeMonth_succ (year : Int) {month : Nat} (mem : 1 ≤ month ∧ month ≤ 12)
    (other : month ≠ 2) :
    daysBeforeMonth (sinceMarch month + 1) =
      daysBeforeMonth (sinceMarch month) + daysInMonth year month := by
  obtain ⟨one, twelve⟩ := mem
  interval_cases month <;> first | rfl | contradiction

theorem daysInMonth_le (year : Int) (month : Nat) : daysInMonth year month ≤ 31 := by
  unfold daysInMonth
  split
  · split <;> decide
  · split <;> decide

theorem daysBefore_february (year : Int) :
    daysInYear year = daysBeforeMonth 11 + daysInMonth (year + 1) 2 := by
  unfold daysInYear daysInMonth
  rw [if_pos rfl]
  split <;> rfl

theorem fromMarch_iff (n : Nat) (day : Int) :
    (5 * day + 2) / 153 = n ↔ daysBeforeMonth n ≤ day ∧ day < daysBeforeMonth (n + 1) := by
  simp only [daysBeforeMonth]
  omega

variable {d : Date}

structure InMonth (d : Date) : Prop where
  month_mem : 1 ≤ d.month ∧ d.month ≤ 12
  day_mem : 1 ≤ d.day ∧ d.day ≤ daysInMonth d.year d.month

theorem isValid_iff : d.isValid = true ↔ (firstYear ≤ d.year ∧ d.year ≤ lastYear) ∧ d.InMonth := by
  simp only [isValid, decide_eq_true_eq]
  constructor
  · rintro ⟨first, last, one, twelve, day⟩
    exact ⟨⟨first, last⟩, ⟨one, twelve⟩, day⟩
  · rintro ⟨⟨first, last⟩, ⟨one, twelve⟩, day⟩
    exact ⟨first, last, one, twelve, day⟩

def marchYear (d : Date) : Int := if d.month ≤ 2 then d.year - 1 else d.year

def dayOfYear (d : Date) : Int := (daysBeforeMonth (sinceMarch d.month) + d.day : Nat) - 1

theorem dayNumber_eq (d : Date) :
    d.dayNumber = daysBefore d.marchYear + d.dayOfYear - 719468 := by
  simp only [dayNumber, dayOfYear, daysBeforeMonth, marchYear, sinceMarch, daysBefore]
  generalize (if d.month ≤ 2 then d.year - 1 else d.year) = year
  generalize (((153 * ((d.month + 9) % 12) + 2) / 5 + d.day : Nat) : Int) = day
  omega

theorem marchYear_of_february (february : d.month = 2) : d.marchYear + 1 = d.year := by
  rw [marchYear, if_pos (by omega), Int.sub_add_cancel]

theorem dayOfYear_lt_month (inMonth : d.InMonth) :
    d.dayOfYear < daysBeforeMonth (sinceMarch d.month + 1) := by
  obtain ⟨month, day⟩ := inMonth
  unfold dayOfYear
  by_cases february : d.month = 2
  next =>
    have length := daysBefore_february d.marchYear
    have most := daysInYear_mem d.marchYear
    rw [marchYear_of_february february] at length
    rw [february] at day ⊢
    simp only [sinceMarch, daysBeforeMonth] at length ⊢
    omega
  next =>
    have next := daysBeforeMonth_succ d.year month february
    omega

theorem dayOfYear_mem (inMonth : d.InMonth) :
    0 ≤ d.dayOfYear ∧ d.dayOfYear < daysInYear d.marchYear := by
  have below := dayOfYear_lt_month inMonth
  obtain ⟨month, day⟩ := inMonth
  refine ⟨by unfold dayOfYear; omega, ?_⟩
  by_cases february : d.month = 2
  next =>
    have length := daysBefore_february d.marchYear
    have since : sinceMarch d.month = 11 := by rw [february]; rfl
    rw [marchYear_of_february february] at length
    rw [february] at day
    unfold dayOfYear
    rw [since]
    omega
  next =>
    have least := daysInYear_mem d.marchYear
    simp only [dayOfYear, sinceMarch, daysBeforeMonth] at below ⊢
    omega

def ofMarch (year day : Int) : Date :=
  let fromMarch := (5 * day + 2) / 153
  let month := if fromMarch < 10 then fromMarch + 3 else fromMarch - 9
  { year := year + if month ≤ 2 then 1 else 0
    month := month.toNat
    day := (day - (153 * fromMarch + 2) / 5 + 1).toNat }

theorem ofMarch_of_fromMarch (year : Int) {day : Int} {n : Nat}
    (fromMarch : (5 * day + 2) / 153 = n) :
    ofMarch year day =
      { year := year + if monthFromMarch n ≤ 2 then 1 else 0
        month := monthFromMarch n
        day := (day - daysBeforeMonth n + 1).toNat } := by
  have month : (if (n : Int) < 10 then (n : Int) + 3 else n - 9) = monthFromMarch n := by
    unfold monthFromMarch
    split <;> split <;> omega
  have winter : ((monthFromMarch n : Int) ≤ 2) = (monthFromMarch n ≤ 2) := by
    rw [eq_iff_iff]
    omega
  have before : (153 * (n : Int) + 2) / 5 = daysBeforeMonth n := by
    unfold daysBeforeMonth
    omega
  simp only [ofMarch, fromMarch, month, winter, before, Int.toNat_natCast]

theorem ofMarch_dayOfYear (inMonth : d.InMonth) : ofMarch d.marchYear d.dayOfYear = d := by
  have start : daysBeforeMonth (sinceMarch d.month) ≤ d.dayOfYear := by
    have one := inMonth.day_mem.1
    unfold dayOfYear
    omega
  have fromMarch := (fromMarch_iff _ _).2 ⟨start, dayOfYear_lt_month inMonth⟩
  have month : monthFromMarch (sinceMarch d.month) = d.month := by
    have mem := inMonth.month_mem
    unfold monthFromMarch sinceMarch
    split <;> omega
  have year : (d.marchYear + if d.month ≤ 2 then 1 else 0) = d.year := by
    unfold marchYear
    split <;> omega
  have day : (d.dayOfYear - daysBeforeMonth (sinceMarch d.month) + 1).toNat = d.day := by
    unfold dayOfYear
    omega
  rw [ofMarch_of_fromMarch _ fromMarch, month, year, day]

theorem exists_fromMarch {year day : Int} (mem : 0 ≤ day ∧ day < daysInYear year) :
    ∃ n : Nat, n < 12 ∧ (5 * day + 2) / 153 = n := by
  have most := daysInYear_mem year
  exact ⟨((5 * day + 2) / 153).toNat, by omega, by omega⟩

theorem inMonth_ofMarch {year day : Int} (mem : 0 ≤ day ∧ day < daysInYear year) :
    (ofMarch year day).InMonth := by
  obtain ⟨n, lt, fromMarch⟩ := exists_fromMarch mem
  obtain ⟨start, next⟩ := (fromMarch_iff _ _).1 fromMarch
  have month := monthFromMarch_mem lt
  have since := sinceMarch_monthFromMarch lt
  rw [ofMarch_of_fromMarch year fromMarch]
  refine ⟨month, ?_⟩
  dsimp only
  by_cases february : monthFromMarch n = 2
  next =>
    have length := daysBefore_february year
    rw [february] at since ⊢
    obtain rfl : 11 = n := since
    rw [if_pos (Nat.le_refl 2)]
    omega
  next =>
    have length :=
      daysBeforeMonth_succ (year + if monthFromMarch n ≤ 2 then 1 else 0) month february
    rw [since] at length
    omega

theorem dayNumber_ofMarch {year day : Int} (mem : 0 ≤ day ∧ day < daysInYear year) :
    (ofMarch year day).dayNumber = daysBefore year + day - 719468 := by
  obtain ⟨n, lt, fromMarch⟩ := exists_fromMarch mem
  obtain ⟨start, next⟩ := (fromMarch_iff _ _).1 fromMarch
  have back : (if monthFromMarch n ≤ 2 then (year + if monthFromMarch n ≤ 2 then 1 else 0) - 1
      else year + if monthFromMarch n ≤ 2 then 1 else 0) = year := by
    split <;> omega
  rw [dayNumber_eq, ofMarch_of_fromMarch year fromMarch]
  simp only [marchYear, dayOfYear, sinceMarch_monthFromMarch lt, back]
  omega

end FieldRules.Date
