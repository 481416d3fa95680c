set_option autoImplicit false

namespace FieldRules

structure Date where
  year : Int
  month : Nat
  day : Nat
deriving DecidableEq, Repr

namespace Date

def isLeap (year : Int) : Bool := year % 4 == 0 && (year % 100 != 0 || year % 400 == 0)

def daysInMonth (year : Int) (month : Nat) : Nat :=
  if month = 2 then if isLeap year then 29 else 28
  else if month = 4 ∨ month = 6 ∨ month = 9 ∨ month = 11 then 30
  else 31

def firstYear : Int := -262143
def lastYear : Int := 262142

def isValid (d : Date) : Bool :=
  firstYear ≤ d.year ∧ d.year ≤ lastYear ∧ 1 ≤ d.month ∧ d.month ≤ 12 ∧
    1 ≤ d.day ∧ d.day ≤ daysInMonth d.year d.month

def dayNumber (d : Date) : Int :=
  -- Years are counted from March, so that a leap day ends its year, and in cycles of 400 with
  -- 146097 days.
  let year := if d.month ≤ 2 then d.year - 1 else d.year
  let ofCycle := year % 400
  let ofYear : Int := ((153 * ((d.month + 9) % 12) + 2) / 5 + d.day : Nat) - 1
  year / 400 * 146097 + (ofCycle * 365 + ofCycle / 4 - ofCycle / 100 + ofYear) - 719468

def ofDayNumber (n : Int) : Date :=
  let fromMarch := n + 719468
  let ofEra := fromMarch % 146097
  let ofCycle := (ofEra - ofEra / 1460 + ofEra / 36524 - ofEra / 146096) / 365
  let ofYear := ofEra - (365 * ofCycle + ofCycle / 4 - ofCycle / 100)
  let fromMarchMonth := (5 * ofYear + 2) / 153
  let month := if fromMarchMonth < 10 then fromMarchMonth + 3 else fromMarchMonth - 9
  { year := ofCycle + fromMarch / 146097 * 400 + (if month ≤ 2 then 1 else 0)
    month := month.toNat
    day := (ofYear - (153 * fromMarchMonth + 2) / 5 + 1).toNat }

end Date

end FieldRules
