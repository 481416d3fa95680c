import FieldRules.Proofs.Number.Rounding

set_option autoImplicit false

namespace FieldRules

theorem roundHalfEven_mono {a b : Nat} (le : a ≤ b) (den : Nat) :
    roundHalfEven a den ≤ roundHalfEven b den := by
  rcases Nat.lt_or_eq_of_le (Nat.div_le_div_right (c := den) le) with below | same
  next =>
    calc
      roundHalfEven a den ≤ a / den + 1 := roundHalfEven_le a den
      _ ≤ b / den := below
      _ ≤ roundHalfEven b den := le_roundHalfEven b den
  next =>
    have rests : a % den ≤ b % den := by
      have left := Nat.div_add_mod a den
      have right := Nat.div_add_mod b den
      rw [same] at left
      omega
    unfold roundHalfEven
    dsimp only
    rw [same]
    split
    · split
      · exact Nat.le_refl _
      · split <;> omega
    · split
      · split
        · omega
        · split <;> omega
      · split
        · omega
        · split <;> omega

theorem log2_mono {a b : Nat} (le : a ≤ b) : a.log2 ≤ b.log2 := by
  by_cases zero : a = 0
  next => simp [zero]
  next => exact (Nat.le_log2 (by omega)).2 (Nat.le_trans (Nat.log2_self_le zero) le)

theorem nearestUnits_le_two_pow (num den : Nat) :
    nearestUnits num den ≤ 2 ^ ((num / den).log2 + 1) := by
  have rounded := roundHalfEven_le num (den * 2 ^ ((num / den).log2 - 52))
  rw [← Nat.div_div_eq_div_mul] at rounded
  unfold nearestUnits
  dsimp only
  generalize roundHalfEven _ _ = r at *
  generalize num / den = q at *
  have split : 2 ^ (q.log2 + 1) = 2 ^ (q.log2 + 1 - (q.log2 - 52)) * 2 ^ (q.log2 - 52) := by
    rw [← Nat.pow_add]
    congr 1
    omega
  have quotient : q / 2 ^ (q.log2 - 52) < 2 ^ (q.log2 + 1 - (q.log2 - 52)) := by
    rw [Nat.div_lt_iff_lt_mul (Nat.two_pow_pos _), ← split]
    exact Nat.lt_log2_self
  calc
    r * 2 ^ (q.log2 - 52) ≤ 2 ^ (q.log2 + 1 - (q.log2 - 52)) * 2 ^ (q.log2 - 52) :=
      Nat.mul_le_mul_right _ (Nat.le_trans rounded quotient)
    _ = 2 ^ (q.log2 + 1) := split.symm

theorem nearestUnits_mono {a b : Nat} (le : a ≤ b) (den : Nat) :
    nearestUnits a den ≤ nearestUnits b den := by
  have quotients : a / den ≤ b / den := Nat.div_le_div_right le
  rcases Nat.lt_or_eq_of_le (log2_mono quotients) with below | same
  next =>
    -- A power of two lies between the quotients, and rounding does not cross it.
    have above : 2 ^ (b / den).log2 ≤ b / den := by
      apply Nat.log2_self_le
      intro zero
      simp [zero] at below
    calc
      nearestUnits a den ≤ 2 ^ ((a / den).log2 + 1) := nearestUnits_le_two_pow a den
      _ ≤ 2 ^ (b / den).log2 := Nat.pow_le_pow_right (by decide) below
      _ ≤ nearestUnits b den := two_pow_le_nearestUnits above
  next =>
    simp only [nearestUnits, same]
    exact Nat.mul_le_mul_right _ (roundHalfEven_mono le _)

theorem log2_mul_two_pow {n : Nat} (some : n ≠ 0) (k : Nat) : (n * 2 ^ k).log2 = n.log2 + k := by
  have some' : n * 2 ^ k ≠ 0 := Nat.mul_ne_zero some (Nat.ne_of_gt (Nat.two_pow_pos k))
  apply Nat.le_antisymm
  next =>
    apply Nat.le_of_lt_succ
    rw [Nat.log2_lt some', Nat.succ_eq_add_one, Nat.add_right_comm, Nat.pow_add]
    exact Nat.mul_lt_mul_of_pos_right Nat.lt_log2_self (Nat.two_pow_pos k)
  next =>
    rw [Nat.le_log2 some', Nat.pow_add]
    exact Nat.mul_le_mul_right _ (Nat.log2_self_le some)

theorem nearestUnits_mul_two_pow (n k : Nat) :
    nearestUnits (n * 2 ^ k) 1 = nearestUnits n 1 * 2 ^ k := by
  by_cases small : n ≤ 2 ^ 53
  next =>
    have kept := nearestUnits_of_dvd (pow_dvd_of_le (s := 0) small) Nat.one_pos
    have scaled := nearestUnits_of_dvd (pow_dvd_of_le (s := k) small) Nat.one_pos
    simp only [Nat.pow_zero, Nat.mul_one] at kept scaled
    rw [kept, scaled]
  next =>
    have some : n ≠ 0 := by omega
    have large : 53 ≤ n.log2 := (Nat.le_log2 some).2 (by omega)
    have dropped : (n * 2 ^ k).log2 - 52 = n.log2 - 52 + k := by
      rw [log2_mul_two_pow some]
      omega
    have rounded : roundHalfEven (n * 2 ^ k) (2 ^ (n.log2 - 52) * 2 ^ k) =
        roundHalfEven n (2 ^ (n.log2 - 52)) :=
      roundHalfEven_mul_right n _ (Nat.two_pow_pos k)
    simp only [nearestUnits, Nat.div_one, Nat.one_mul, dropped, Nat.pow_add, rounded,
      Nat.mul_assoc]

theorem unitsPerOne_pos : 0 < unitsPerOne := by
  obtain ⟨k, one⟩ : ∃ k, unitsPerOne = 2 ^ k := ⟨1074, rfl⟩
  rw [one]
  exact Nat.two_pow_pos k

theorem nearestUnits_mul_unitsPerOne (n : Nat) :
    nearestUnits (n * unitsPerOne) 1 = nearestUnits n 1 * unitsPerOne := by
  obtain ⟨k, one⟩ : ∃ k, unitsPerOne = 2 ^ k := ⟨1074, rfl⟩
  rw [one, nearestUnits_mul_two_pow]

def nearestInt (n : Int) : Int :=
  if n < 0 then -(nearestUnits n.natAbs 1 : Int) else nearestUnits n.natAbs 1

theorem nearestInt_natCast (n : Nat) : nearestInt n = nearestUnits n 1 := by
  have positive : ¬ (n : Int) < 0 := by omega
  simp [nearestInt, positive]

theorem nearestInt_neg_natCast (n : Nat) : nearestInt (-(n : Int)) = -(nearestUnits n 1 : Int) := by
  by_cases zero : n = 0
  next =>
    have none : nearestUnits 0 1 = 0 := nearestUnits_eq_zero (by decide)
    simp [zero, nearestInt, none]
  next =>
    have negative : -(n : Int) < 0 := by omega
    rw [nearestInt, if_pos negative, Int.natAbs_neg, Int.natAbs_natCast]

theorem nearestInt_neg (n : Int) : nearestInt (-n) = -nearestInt n := by
  obtain ⟨k, rfl | rfl⟩ := n.eq_nat_or_neg
  next => rw [nearestInt_neg_natCast, nearestInt_natCast]
  next => rw [Int.neg_neg, nearestInt_neg_natCast, nearestInt_natCast, Int.neg_neg]

theorem natAbs_nearestInt (n : Int) : (nearestInt n).natAbs = nearestUnits n.natAbs 1 := by
  unfold nearestInt
  split <;> omega

theorem nearestInt_mono {m n : Int} (le : m ≤ n) : nearestInt m ≤ nearestInt n := by
  unfold nearestInt
  split
  next negative =>
    split
    next =>
      have := nearestUnits_mono (a := n.natAbs) (b := m.natAbs) (by omega) 1
      omega
    next => omega
  next =>
    rw [if_neg (by omega)]
    have := nearestUnits_mono (a := m.natAbs) (b := n.natAbs) (by omega) 1
    omega

theorem nearestInt_le_iff {m n : Int} :
    nearestInt m ≤ nearestInt n ↔ m ≤ n ∨ nearestInt m = nearestInt n := by
  constructor
  · intro rounded
    by_cases le : m ≤ n
    · exact .inl le
    · have crossed : nearestInt n ≤ nearestInt m := nearestInt_mono (by omega)
      exact .inr (by omega)
  · rintro (le | same)
    · exact nearestInt_mono le
    · omega

theorem nearestInt_of_small {n : Int} (small : n.natAbs ≤ 2 ^ 53) : nearestInt n = n := by
  have kept := nearestUnits_of_dvd (pow_dvd_of_le (s := 0) small) Nat.one_pos
  simp only [Nat.pow_zero, Nat.mul_one] at kept
  unfold nearestInt
  rw [kept]
  split <;> omega

theorem eq_of_nearestInt_eq {m n : Int} (same : nearestInt m = nearestInt n)
    (small : m.natAbs < 2 ^ 53) : m = n := by
  rw [nearestInt_of_small (Nat.le_of_lt small)] at same
  by_cases large : 2 ^ 53 ≤ n.natAbs
  next =>
    have above : 2 ^ 53 ≤ nearestUnits n.natAbs 1 :=
      two_pow_le_nearestUnits (by simpa using large)
    rw [← natAbs_nearestInt, ← same] at above
    omega
  next =>
    rw [nearestInt_of_small (by omega)] at same
    exact same

theorem nearestInt_eq_iff_of_small {m n : Int} (small : m.natAbs < 2 ^ 53 ∨ n.natAbs < 2 ^ 53) :
    nearestInt m = nearestInt n ↔ m = n := by
  refine ⟨fun same => ?_, fun same => by rw [same]⟩
  rcases small with small | small
  · exact eq_of_nearestInt_eq same small
  · exact (eq_of_nearestInt_eq same.symm small).symm

namespace Binary64

theorem toUnits_ofInt (n : Int) (small : n.natAbs ≤ 2 ^ 64) :
    (ofInt n small).toUnits = nearestInt n * unitsPerOne := by
  by_cases negative : n < 0
  next =>
    simp only [toUnits, ofInt, nearestInt, negative, decide_true, if_true,
      nearestUnits_mul_unitsPerOne, Int.natCast_mul, Int.neg_mul]
  next =>
    simp only [toUnits, ofInt, nearestInt, negative, decide_false, Bool.false_eq_true, if_false,
      nearestUnits_mul_unitsPerOne, Int.natCast_mul]

end Binary64

end FieldRules
