import FieldRules.Number.Scaling
import FieldRules.Proofs.Number.Integer

set_option autoImplicit false

namespace FieldRules

theorem nearestUnits_nearestUnits (n : Nat) :
    nearestUnits (nearestUnits n 1) 1 = nearestUnits n 1 := by
  have kept := nearestUnits_of_dvd (pow_dvd_nearestUnits n 1) Nat.one_pos
  rwa [Nat.mul_one] at kept

theorem nearestInt_nearestInt (n : Int) : nearestInt (nearestInt n) = nearestInt n := by
  obtain ⟨k, rfl | rfl⟩ := n.eq_nat_or_neg
  next => rw [nearestInt_natCast, nearestInt_natCast, nearestUnits_nearestUnits]
  next => rw [nearestInt_neg_natCast, nearestInt_neg_natCast, nearestUnits_nearestUnits]

theorem tenPower_eq (n : Nat) : tenPower n = nearestUnits (10 ^ n) 1 * unitsPerOne :=
  nearestUnits_mul_unitsPerOne _

theorem one_le_nearestUnits {n : Nat} (positive : 0 < n) : 1 ≤ nearestUnits n 1 := by
  have large : 2 ^ 0 ≤ n / 1 := by
    rw [Nat.div_one]
    exact positive
  exact two_pow_le_nearestUnits large

theorem nearestUnits_lt_of_word {n : Nat} (word : n < 2 ^ 64) : nearestUnits n 1 < 2 ^ 1024 := by
  have near : HasNearest n := hasNearest_of_le (Nat.le_of_lt word)
  rwa [HasNearest, Int.natAbs_natCast] at near

namespace Binary64

variable {x : Binary64} {m k : Nat}

theorem scaled?_of_le (whole : x.units = m * unitsPerOne) (inRange : k ≤ 308) :
    x.scaled? k = ofQuotient? x.negative (m * nearestUnits (10 ^ k) 1 * unitsPerOne) 1 := by
  have size : (k : Int).natAbs = k := Int.natAbs_natCast k
  have positive : (0 : Int) ≤ k := Int.natCast_nonneg k
  rw [scaled?, if_pos (size ▸ inRange), if_pos positive, size, tenPower_eq, whole]
  refine ofQuotient?_congr _ (nearestUnits_congr unitsPerOne_pos Nat.one_pos ?_)
  simp only [Nat.mul_assoc, Nat.mul_one, Nat.mul_left_comm]

theorem scaled?_of_lt (nonzero : x.units ≠ 0) (outOfRange : 308 < k) : x.scaled? k = none := by
  have size : (k : Int).natAbs = k := Int.natAbs_natCast k
  have positive : (0 : Int) ≤ k := Int.natCast_nonneg k
  rw [scaled?, if_neg (by omega), if_neg nonzero, if_pos positive]

theorem ofParts?_of_le (negative : Bool) (word : m < 2 ^ 64) (inRange : k ≤ 308) :
    ofParts? negative m k =
      ofQuotient? negative (nearestUnits m 1 * nearestUnits (10 ^ k) 1 * unitsPerOne) 1 := by
  obtain ⟨x, read, sign, units⟩ := exists_ofQuotient? negative (nearestUnits_lt_of_word word)
  rw [ofParts?, read, ← sign]
  exact scaled?_of_le units inRange

theorem ofParts?_of_lt (negative : Bool) (word : m < 2 ^ 64) (nonzero : 0 < m)
    (outOfRange : 308 < k) : ofParts? negative m k = none := by
  obtain ⟨x, read, -, units⟩ := exists_ofQuotient? negative (nearestUnits_lt_of_word word)
  have positive := one_le_nearestUnits nonzero
  rw [ofParts?, read]
  refine scaled?_of_lt ?_ outOfRange
  rw [units]
  exact Nat.mul_ne_zero (by omega) (Nat.ne_of_gt unitsPerOne_pos)

end Binary64

-- How many digits an integer has behind those that fit 64 bits.
def excessDigits (n : Nat) : Nat := if n < 2 ^ 64 then 0 else excessDigits (n / 10) + 1

theorem excessDigits_of_lt {n : Nat} (small : n < 2 ^ 64) : excessDigits n = 0 := by
  rw [excessDigits, if_pos small]

theorem excessDigits_of_le {n : Nat} (large : 2 ^ 64 ≤ n) :
    excessDigits n = excessDigits (n / 10) + 1 := by
  rw [excessDigits, if_neg (Nat.not_lt.2 large)]

theorem div_ten_pow_succ (n k : Nat) : n / 10 ^ (k + 1) = n / 10 / 10 ^ k := by
  rw [Nat.pow_succ', Nat.div_div_eq_div_mul]

theorem div_excess_lt (n : Nat) : n / 10 ^ excessDigits n < 2 ^ 64 := by
  induction n using excessDigits.induct with
  | case1 n small => simpa [excessDigits_of_lt small] using small
  | case2 n large ih =>
    rw [excessDigits_of_le (Nat.not_lt.1 large), div_ten_pow_succ]
    exact ih

theorem le_div_excess {n : Nat} (large : 2 ^ 60 ≤ n) : 2 ^ 60 ≤ n / 10 ^ excessDigits n := by
  induction n using excessDigits.induct with
  | case1 n small => simpa [excessDigits_of_lt small] using large
  | case2 n above ih =>
    rw [excessDigits_of_le (Nat.not_lt.1 above), div_ten_pow_succ]
    exact ih (by omega)

-- The digits that fit and a power of ten are each rounded before they are multiplied.
def partsProduct (n : Int) : Int :=
  nearestInt (n.tdiv (10 ^ excessDigits n.natAbs)) * nearestInt (10 ^ excessDigits n.natAbs)

def HasParts (n : Int) : Prop := excessDigits n.natAbs ≤ 308 ∧ HasNearest (partsProduct n)

instance (n : Int) : Decidable (HasParts n) := inferInstanceAs (Decidable (_ ∧ _))

theorem partsProduct_natCast (n : Nat) :
    partsProduct n =
      (nearestUnits (n / 10 ^ excessDigits n) 1 * nearestUnits (10 ^ excessDigits n) 1 : Nat) := by
  have power : (10 : Int) ^ excessDigits n = (10 ^ excessDigits n : Nat) := by simp
  rw [partsProduct, Int.natAbs_natCast, power, ← Int.ofNat_tdiv, nearestInt_natCast,
    nearestInt_natCast, Int.natCast_mul]

theorem partsProduct_neg (n : Int) : partsProduct (-n) = -partsProduct n := by
  rw [partsProduct, partsProduct, Int.natAbs_neg, Int.neg_tdiv, nearestInt_neg, Int.neg_mul]

theorem partsProduct_of_lt {n : Int} (small : n.natAbs < 2 ^ 64) :
    partsProduct n = nearestInt n := by
  have one : nearestInt 1 = 1 := nearestInt_of_small (by decide)
  simp [partsProduct, excessDigits_of_lt small, one]

theorem hasParts_of_lt {n : Int} (small : n.natAbs < 2 ^ 64) : HasParts n := by
  have near : HasNearest n := hasNearest_of_le (Nat.le_of_lt small)
  refine ⟨by simp [excessDigits_of_lt small], ?_⟩
  rwa [partsProduct_of_lt small, HasNearest, natAbs_nearestInt, nearestUnits_nearestUnits]

theorem partsProduct_eq (n : Int) :
    partsProduct n = if n < 0 then -partsProduct n.natAbs else partsProduct n.natAbs := by
  split
  next negative =>
    have same : -(n.natAbs : Int) = n := by omega
    rw [← partsProduct_neg, same]
  next positive =>
    have same : (n.natAbs : Int) = n := by omega
    rw [same]

theorem natAbs_partsProduct (n : Int) :
    (partsProduct n).natAbs = (partsProduct n.natAbs).natAbs := by
  rw [partsProduct_eq]
  split
  · exact Int.natAbs_neg _
  · rfl

theorem le_natAbs_nearestInt_partsProduct {n : Int} (large : 2 ^ 60 ≤ n.natAbs) :
    2 ^ 60 ≤ (nearestInt (partsProduct n)).natAbs := by
  have kept : 2 ^ 60 ≤ nearestUnits (n.natAbs / 10 ^ excessDigits n.natAbs) 1 := by
    refine two_pow_le_nearestUnits ?_
    rw [Nat.div_one]
    exact le_div_excess large
  have power : 1 ≤ nearestUnits (10 ^ excessDigits n.natAbs) 1 :=
    one_le_nearestUnits (Nat.pow_pos (by decide))
  rw [natAbs_nearestInt, natAbs_partsProduct, partsProduct_natCast, Int.natAbs_natCast]
  refine two_pow_le_nearestUnits ?_
  rw [Nat.div_one]
  exact Nat.le_trans kept (Nat.le_mul_of_pos_right _ power)

theorem nearestInt_eq_parts_iff_of_small {m n : Int}
    (small : m.natAbs < 2 ^ 53 ∨ n.natAbs < 2 ^ 53) :
    nearestInt m = nearestInt (partsProduct n) ↔ m = n := by
  by_cases word : n.natAbs < 2 ^ 64
  next =>
    rw [partsProduct_of_lt word, nearestInt_nearestInt]
    exact nearestInt_eq_iff_of_small small
  next =>
    -- Whatever is lost of `n`, it stays far above `m`.
    have below : m.natAbs < 2 ^ 53 := by omega
    have above := le_natAbs_nearestInt_partsProduct (n := n) (by omega)
    rw [nearestInt_of_small (Nat.le_of_lt below)]
    constructor
    · intro same
      rw [← same] at above
      omega
    · intro same
      omega

end FieldRules
