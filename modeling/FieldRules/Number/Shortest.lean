import FieldRules.Number.Binary64

set_option autoImplicit false

namespace FieldRules

def stepsPerUnit : Nat := 5 ^ 1074

def readsBack (units steps : Nat) : Bool := nearestUnits steps stepsPerUnit == units

-- Of two neighbours the nearer is taken, and on a tie the one with the even digit.
def neighbour? (passes : Nat → Bool) (value grid : Nat) : Option Nat :=
  let low := value / grid * grid
  let high := low + grid
  match passes low, passes high with
  | true, true =>
    if 2 * value < low + high then some low
    else if low + high < 2 * value then some high
    else if value / grid % 2 = 0 then some low else some high
  | true, false => some low
  | false, true => some high
  | false, false => none

-- The decimal on a grid that reads back.
def candidate? (units grid : Nat) : Option Nat :=
  neighbour? (readsBack units) (units * stepsPerUnit) grid

def shortestSteps (units : Nat) : Nat :=
  -- One digit is tried, then two and so on; seventeen are always enough.
  let exact := units * stepsPerUnit
  let width := (Nat.toDigits 10 exact).length
  ((List.range 17).findSome? fun n => candidate? units (10 ^ (width - 1 - n))).getD exact

-- Significant digits, and the power of ten of the first one.
structure Decimal where
  digits : List Char
  leading : Int
deriving DecidableEq

namespace Decimal

def ofSteps (steps : Nat) : Decimal :=
  let digits := Nat.toDigits 10 steps
  { digits := (digits.reverse.dropWhile (· == '0')).reverse
    leading := (digits.length : Int) - 1 - 1074 }

def whole (d : Decimal) : List Char :=
  if d.leading < 0 then ['0']
  else
    let width := d.leading.toNat + 1
    d.digits.take width ++ List.replicate (width - d.digits.length) '0'

def fraction (d : Decimal) : List Char :=
  if d.leading < 0 then List.replicate ((-d.leading).toNat - 1) '0' ++ d.digits
  else
    match d.digits.drop (d.leading.toNat + 1) with
    | [] => ['0']
    | digits => digits

def positional (d : Decimal) : List Char := d.whole ++ '.' :: d.fraction

def scientific (d : Decimal) : List Char :=
  let mantissa := match d.digits with
    | first :: second :: rest => first :: '.' :: second :: rest
    | digits => digits
  mantissa ++ 'e' :: (if d.leading < 0 then '-' else '+') :: Nat.toDigits 10 d.leading.natAbs

end Decimal

def Binary64.shortest (x : Binary64) : Decimal :=
  if x.units = 0 then ⟨['0'], 0⟩ else Decimal.ofSteps (shortestSteps x.units)

end FieldRules
