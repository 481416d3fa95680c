import FieldRules.Calendar.Date

set_option autoImplicit false

namespace FieldRules

-- A day counted from 1970-01-01, a second of the day and a nanosecond of the second.
structure Moment where
  day : Int
  second : Nat
  nano : Nat
  second_lt : second < 86400
  nano_lt : nano < 2000000000
deriving DecidableEq

namespace Moment

-- Two thousand million ticks a second make room for leap seconds.
def ticks (m : Moment) : Int := (m.day * 86400 + m.second) * 2000000000 + m.nano

instance : LE Moment := ⟨fun m n => m.ticks ≤ n.ticks⟩
instance (m n : Moment) : Decidable (m ≤ n) := inferInstanceAs (Decidable (m.ticks ≤ n.ticks))

instance : LT Moment := ⟨fun m n => m.ticks < n.ticks⟩
instance (m n : Moment) : Decidable (m < n) := inferInstanceAs (Decidable (m.ticks < n.ticks))

def midnight (day : Int) : Moment := ⟨day, 0, 0, by decide, by decide⟩

def addSeconds (m : Moment) (seconds : Int) : Moment where
  day := m.day + (m.second + seconds) / 86400
  second := ((m.second + seconds) % 86400).toNat
  nano := m.nano
  second_lt := by omega
  nano_lt := m.nano_lt

def ofMillis? (n : Int) : Option Moment :=
  -- Only moments whose year has dates.
  let day := n / 86400000
  if (Date.mk Date.firstYear 1 1).dayNumber ≤ day ∧
      day ≤ (Date.mk Date.lastYear 12 31).dayNumber then
    some
      { day
        second := (n % 86400000 / 1000).toNat
        nano := (n % 1000).toNat * 1000000
        second_lt := by omega
        nano_lt := by omega }
  else none

end Moment

end FieldRules
