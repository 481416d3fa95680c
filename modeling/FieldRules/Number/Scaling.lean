import FieldRules.Number.Binary64

set_option autoImplicit false

namespace FieldRules

-- In units; rounded from `10 ^ 23` on.
def tenPower (n : Nat) : Nat := nearestUnits (10 ^ n * unitsPerOne) 1

namespace Binary64

def scaled? (x : Binary64) (exponent : Int) : Option Binary64 :=
  -- There is no power of ten above `10 ^ 308`, so a small number is divided more than once.
  if exponent.natAbs ≤ 308 then
    if 0 ≤ exponent then
      ofQuotient? x.negative (x.units * tenPower exponent.natAbs) unitsPerOne
    else ofQuotient? x.negative (x.units * unitsPerOne) (tenPower exponent.natAbs)
  else if x.units = 0 then some x
  else if 0 ≤ exponent then none
  else do
    let x ← ofQuotient? x.negative (x.units * unitsPerOne) (tenPower 308)
    x.scaled? (exponent + 308)
termination_by exponent.natAbs

def ofParts? (negative : Bool) (significand : Nat) (exponent : Int) : Option Binary64 := do
  let x ← ofQuotient? negative (significand * unitsPerOne) 1
  x.scaled? exponent

end Binary64

end FieldRules
