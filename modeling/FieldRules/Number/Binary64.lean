import FieldRules.Number.Power

set_option autoImplicit false

namespace FieldRules

def unitsPerOne : Nat := 2 ^ 1074

-- The units in `2^1024`, which is too large.
def unitLimit : Nat := 2 ^ 2098

def Representable (units : Nat) : Prop :=
  2 ^ (units.log2 - 52) ∣ units ∧ units < unitLimit

instance (units : Nat) : Decidable (Representable units) :=
  inferInstanceAs (Decidable (2 ^ (units.log2 - 52) ∣ units ∧ units < unitLimit))

theorem representable_zero : Representable 0 := by
  refine ⟨Nat.dvd_zero _, ?_⟩
  unfold unitLimit
  exact Nat.two_pow_pos 2098

-- A finite number: its sign and the count of units in its magnitude.
structure Binary64 where
  negative : Bool
  units : Nat
  representable : Representable units
deriving DecidableEq

def roundHalfEven (num den : Nat) : Nat :=
  let low := num / den
  let rest := num % den
  if 2 * rest < den then low
  else if den < 2 * rest then low + 1
  else low + low % 2

def nearestUnits (num den : Nat) : Nat :=
  let dropped := (num / den).log2 - 52
  roundHalfEven num (den * 2 ^ dropped) * 2 ^ dropped

theorem roundHalfEven_le (num den : Nat) : roundHalfEven num den ≤ num / den + 1 := by
  have := Nat.mod_lt (num / den) (y := 2) (by decide)
  unfold roundHalfEven
  dsimp only
  split
  · omega
  · split <;> omega

theorem le_roundHalfEven (num den : Nat) : num / den ≤ roundHalfEven num den := by
  unfold roundHalfEven
  dsimp only
  split
  · omega
  · split <;> omega

theorem div_dropped_lt (num den : Nat) :
    num / (den * 2 ^ ((num / den).log2 - 52)) < 2 ^ 53 := by
  rw [← Nat.div_div_eq_div_mul, Nat.div_lt_iff_lt_mul (Nat.two_pow_pos _), ← Nat.pow_add]
  refine Nat.lt_of_lt_of_le Nat.lt_log2_self (Nat.pow_le_pow_right (by decide) ?_)
  omega

theorem pow_dvd_of_le {r s : Nat} (h : r ≤ 2 ^ 53) :
    2 ^ ((r * 2 ^ s).log2 - 52) ∣ r * 2 ^ s := by
  by_cases zero : r = 0
  · simp [zero]
  rcases Nat.lt_or_eq_of_le h with h | rfl
  · refine Nat.dvd_trans (Nat.pow_dvd_pow 2 ?_) (Nat.dvd_mul_left _ _)
    have : (r * 2 ^ s).log2 < 53 + s := by
      rw [Nat.log2_lt (Nat.mul_ne_zero zero (Nat.ne_of_gt (Nat.two_pow_pos s))), Nat.pow_add]
      exact Nat.mul_lt_mul_of_pos_right h (Nat.two_pow_pos _)
    omega
  · rw [← Nat.pow_add]
    exact Nat.pow_dvd_pow 2 (by rw [Nat.log2_two_pow]; omega)

theorem pow_dvd_nearestUnits (num den : Nat) :
    2 ^ ((nearestUnits num den).log2 - 52) ∣ nearestUnits num den := by
  have rounded := roundHalfEven_le num (den * 2 ^ ((num / den).log2 - 52))
  have quotient := div_dropped_lt num den
  exact pow_dvd_of_le (by omega)

theorem representable_nearestUnits {num den : Nat} (h : nearestUnits num den < unitLimit) :
    Representable (nearestUnits num den) := ⟨pow_dvd_nearestUnits num den, h⟩

theorem nearestUnits_le (num den : Nat) : nearestUnits num den ≤ 2 * (num / den) + 1 := by
  have h := roundHalfEven_le num (den * 2 ^ ((num / den).log2 - 52))
  rw [← Nat.div_div_eq_div_mul] at h
  have h' := Nat.mul_le_mul_right (2 ^ ((num / den).log2 - 52)) h
  unfold nearestUnits
  dsimp only
  generalize roundHalfEven _ _ = r at *
  generalize num / den = q at *
  have floor := Nat.div_mul_le_self q (2 ^ (q.log2 - 52))
  by_cases zero : q = 0
  · subst zero; simp at h' ⊢; exact h'
  · have := Nat.log2_self_le zero
    have : 2 ^ (q.log2 - 52) ≤ 2 ^ q.log2 := Nat.pow_le_pow_right (by decide) (by omega)
    have e : (q / 2 ^ (q.log2 - 52) + 1) * 2 ^ (q.log2 - 52) =
      q / 2 ^ (q.log2 - 52) * 2 ^ (q.log2 - 52) + 2 ^ (q.log2 - 52) := by
      rw [Nat.add_mul, Nat.one_mul]
    omega

namespace Binary64

def zero : Binary64 := ⟨false, 0, representable_zero⟩

-- Both zeros have the same count.
def toUnits (x : Binary64) : Int := if x.negative then -x.units else x.units

def same (x y : Binary64) : Bool := x.toUnits == y.toUnits

instance : LE Binary64 := ⟨fun x y => x.toUnits ≤ y.toUnits⟩
instance (x y : Binary64) : Decidable (x ≤ y) :=
  inferInstanceAs (Decidable (x.toUnits ≤ y.toUnits))

def ofQuotient? (negative : Bool) (num den : Nat) : Option Binary64 :=
  if h : nearestUnits num den < unitLimit then
    some ⟨negative, nearestUnits num den, representable_nearestUnits h⟩
  else none

def ofInt (n : Int) (small : n.natAbs ≤ 2 ^ 64) : Binary64 where
  negative := decide (n < 0)
  units := nearestUnits (n.natAbs * unitsPerOne) 1
  representable := representable_nearestUnits <| by
    have h := nearestUnits_le (n.natAbs * unitsPerOne) 1
    rw [Nat.div_one] at h
    have : n.natAbs * unitsPerOne ≤ 2 ^ 64 * unitsPerOne := Nat.mul_le_mul_right _ small
    have : 2 * (2 ^ 64 * unitsPerOne) + 1 < unitLimit := by decide +kernel
    omega

def ofDecimal? (negative : Bool) (digits : Nat) (exponent : Int) : Option Binary64 :=
  -- The first two cases only spare the arithmetic on exponents far out of range.
  if digits = 0 ∨ exponent + (digits.log2 / 3 + 1 : Nat) < -330 then
    some ⟨negative, 0, representable_zero⟩
  else if 310 < exponent then none
  else if 0 ≤ exponent then
    ofQuotient? negative (digits * 10 ^ exponent.toNat * unitsPerOne) 1
  else ofQuotient? negative (digits * unitsPerOne) (10 ^ (-exponent).toNat)

def isWhole (x : Binary64) : Bool := x.units % unitsPerOne == 0

def truncate (x : Binary64) : Int :=
  let n : Int := (x.units / unitsPerOne : Nat)
  if x.negative then -n else n

end Binary64

end FieldRules
