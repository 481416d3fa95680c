import FieldRules.Number.Binary64

set_option autoImplicit false

namespace FieldRules

theorem roundHalfEven_mul_right (num den : Nat) {k : Nat} (pos : 0 < k) :
    roundHalfEven (num * k) (den * k) = roundHalfEven num den := by
  have low : num * k / (den * k) = num / den := Nat.mul_div_mul_right num den pos
  have rest : num * k % (den * k) = num % den * k := Nat.mul_mod_mul_right k num den
  have below : 2 * (num % den * k) < den * k ↔ 2 * (num % den) < den := by
    rw [← Nat.mul_assoc]
    exact Nat.mul_lt_mul_right pos
  have above : den * k < 2 * (num % den * k) ↔ den < 2 * (num % den) := by
    rw [← Nat.mul_assoc]
    exact Nat.mul_lt_mul_right pos
  simp only [roundHalfEven, low, rest, below, above]

theorem roundHalfEven_mul_self (n : Nat) {den : Nat} (pos : 0 < den) :
    roundHalfEven (n * den) den = n := by
  simp [roundHalfEven, Nat.mul_div_cancel n pos, pos]

theorem nearestUnits_mul_right (num den : Nat) {k : Nat} (pos : 0 < k) :
    nearestUnits (num * k) (den * k) = nearestUnits num den := by
  simp only [nearestUnits, Nat.mul_div_mul_right num den pos, Nat.mul_right_comm den k,
    roundHalfEven_mul_right _ _ pos]

theorem nearestUnits_congr {num den num' den' : Nat} (pos : 0 < den) (pos' : 0 < den')
    (same : num * den' = num' * den) : nearestUnits num den = nearestUnits num' den' := by
  rw [← nearestUnits_mul_right num den pos', same, Nat.mul_comm den den',
    nearestUnits_mul_right num' den' pos]

theorem nearestUnits_of_dvd {units : Nat} (onGrid : 2 ^ (units.log2 - 52) ∣ units) {den : Nat}
    (pos : 0 < den) : nearestUnits (units * den) den = units := by
  have whole : units / 2 ^ (units.log2 - 52) * 2 ^ (units.log2 - 52) = units :=
    Nat.div_mul_cancel onGrid
  have grid : 0 < den * 2 ^ (units.log2 - 52) := Nat.mul_pos pos (Nat.two_pow_pos _)
  have steps : units * den =
      units / 2 ^ (units.log2 - 52) * (den * 2 ^ (units.log2 - 52)) := by
    rw [Nat.mul_left_comm, whole, Nat.mul_comm]
  rw [nearestUnits, Nat.mul_div_cancel units pos, steps, roundHalfEven_mul_self _ grid, whole]

theorem nearestUnits_of_representable {units : Nat} (representable : Representable units)
    {den : Nat} (pos : 0 < den) : nearestUnits (units * den) den = units :=
  nearestUnits_of_dvd representable.1 pos

theorem nearestUnits_eq_zero {num den : Nat} (small : 2 * num < den) :
    nearestUnits num den = 0 := by
  have low : num / den = 0 := Nat.div_eq_of_lt (by omega)
  have rest : num % den = num := Nat.mod_eq_of_lt (by omega)
  simp [nearestUnits, roundHalfEven, low, rest, small]

theorem two_pow_le_nearestUnits {num den k : Nat} (large : 2 ^ k ≤ num / den) :
    2 ^ k ≤ nearestUnits num den := by
  have rounded := le_roundHalfEven num (den * 2 ^ ((num / den).log2 - 52))
  rw [← Nat.div_div_eq_div_mul] at rounded
  have above : 2 ^ (num / den).log2 ≤ num / den :=
    Nat.log2_self_le (Nat.ne_of_gt (Nat.lt_of_lt_of_le (Nat.two_pow_pos k) large))
  have top : k ≤ (num / den).log2 :=
    (Nat.le_log2 (Nat.ne_of_gt (Nat.lt_of_lt_of_le (Nat.two_pow_pos k) large))).2 large
  unfold nearestUnits
  dsimp only
  generalize roundHalfEven _ _ = r at *
  generalize num / den = q at *
  have split : 2 ^ q.log2 = 2 ^ (q.log2 - (q.log2 - 52)) * 2 ^ (q.log2 - 52) := by
    rw [← Nat.pow_add]
    congr 1
    omega
  have quotient : 2 ^ (q.log2 - (q.log2 - 52)) ≤ q / 2 ^ (q.log2 - 52) := by
    rw [Nat.le_div_iff_mul_le (Nat.two_pow_pos _), ← split]
    exact above
  calc
    2 ^ k ≤ 2 ^ q.log2 := Nat.pow_le_pow_right (by decide) top
    _ = 2 ^ (q.log2 - (q.log2 - 52)) * 2 ^ (q.log2 - 52) := split
    _ ≤ r * 2 ^ (q.log2 - 52) := Nat.mul_le_mul_right _ (Nat.le_trans quotient rounded)

-- The decimal `digits * 10 ^ exponent` is this quotient of units.
def IsQuotient (digits : Nat) (exponent : Int) (num den : Nat) : Prop :=
  digits * 10 ^ exponent.toNat * unitsPerOne * den = num * 10 ^ (-exponent).toNat

theorem isQuotient_iff {digits : Nat} {exponent : Int} {num den a b : Nat}
    (difference : exponent = a - b) :
    IsQuotient digits exponent num den ↔ digits * 10 ^ a * unitsPerOne * den = num * 10 ^ b := by
  have sums : a + (-exponent).toNat = exponent.toNat + b := by omega
  have up : 0 < 10 ^ (-exponent).toNat := Nat.pow_pos (by decide)
  have down : 0 < 10 ^ b := Nat.pow_pos (by decide)
  have scaled : digits * 10 ^ a * unitsPerOne * den * 10 ^ (-exponent).toNat =
      digits * 10 ^ exponent.toNat * unitsPerOne * den * 10 ^ b := by
    calc
      _ = digits * 10 ^ (a + (-exponent).toNat) * unitsPerOne * den := by
        simp only [Nat.pow_add, Nat.mul_assoc, Nat.mul_left_comm, Nat.mul_comm]
      _ = digits * 10 ^ (exponent.toNat + b) * unitsPerOne * den := by rw [sums]
      _ = _ := by simp only [Nat.pow_add, Nat.mul_left_comm, Nat.mul_comm]
  rw [IsQuotient, ← Nat.mul_left_inj (Nat.ne_of_gt down), ← scaled, Nat.mul_right_comm num,
    Nat.mul_left_inj (Nat.ne_of_gt up)]

theorem IsQuotient.shift {digits : Nat} {exponent : Int} {num den : Nat}
    (value : IsQuotient digits exponent num den) (k : Nat) :
    IsQuotient (digits * 10 ^ k) (exponent - k) num den := by
  refine (isQuotient_iff (a := exponent.toNat) (b := (-exponent).toNat + k) (by omega)).2 ?_
  calc
    digits * 10 ^ k * 10 ^ exponent.toNat * unitsPerOne * den
      = digits * 10 ^ exponent.toNat * unitsPerOne * den * 10 ^ k := by
        simp only [Nat.mul_assoc, Nat.mul_left_comm, Nat.mul_comm]
    _ = num * 10 ^ (-exponent).toNat * 10 ^ k := by rw [value]
    _ = num * 10 ^ ((-exponent).toNat + k) := by rw [Nat.pow_add, Nat.mul_assoc]

theorem lt_ten_pow_of_log2 (digits : Nat) : digits < 10 ^ (digits.log2 / 3 + 1) :=
  calc
    digits < 2 ^ (digits.log2 + 1) := Nat.lt_log2_self
    _ ≤ 2 ^ (3 * (digits.log2 / 3 + 1)) := Nat.pow_le_pow_right (by decide) (by omega)
    _ = 8 ^ (digits.log2 / 3 + 1) := Nat.pow_mul ..
    _ ≤ 10 ^ (digits.log2 / 3 + 1) := Nat.pow_le_pow_left (by decide) _

theorem two_mul_lt_of_tiny {digits : Nat} {exponent : Int} {num den : Nat} (pos : 0 < den)
    (value : IsQuotient digits exponent num den)
    (tiny : exponent + (digits.log2 / 3 + 1 : Nat) < -330) : 2 * num < den := by
  have below := lt_ten_pow_of_log2 digits
  generalize digits.log2 / 3 + 1 = width at below tiny
  have negative : exponent.toNat = 0 := by omega
  obtain ⟨k, least, size⟩ : ∃ k, 2 * unitsPerOne < 10 ^ k ∧ k = 331 :=
    ⟨331, by decide +kernel, rfl⟩
  obtain ⟨m, places, room⟩ : ∃ m, (-exponent).toNat = m ∧ width + k ≤ m := ⟨_, rfl, by omega⟩
  rw [IsQuotient, negative, places, Nat.pow_zero, Nat.mul_one] at value
  have product : digits * (2 * unitsPerOne) < 10 ^ m := by
    refine Nat.lt_of_lt_of_le (Nat.mul_lt_mul'' below least) ?_
    rw [← Nat.pow_add]
    exact Nat.pow_le_pow_right (by decide) room
  refine Nat.lt_of_mul_lt_mul_right (a := 10 ^ m) ?_
  calc
    2 * num * 10 ^ m = digits * (2 * unitsPerOne) * den := by
      rw [Nat.mul_assoc, ← value]
      simp only [Nat.mul_assoc, Nat.mul_left_comm]
    _ < 10 ^ m * den := Nat.mul_lt_mul_of_pos_right product pos
    _ = den * 10 ^ m := Nat.mul_comm ..

theorem unitLimit_le_of_huge {digits : Nat} {exponent : Int} {num den : Nat} (pos : 0 < den)
    (value : IsQuotient digits exponent num den) (some : digits ≠ 0) (huge : 310 < exponent) :
    unitLimit ≤ num / den := by
  have positive : (-exponent).toNat = 0 := by omega
  obtain ⟨k, limit, size⟩ : ∃ k, unitLimit ≤ 10 ^ k * unitsPerOne ∧ k = 311 :=
    ⟨311, by decide +kernel, rfl⟩
  obtain ⟨m, zeros, large⟩ : ∃ m, exponent.toNat = m ∧ k ≤ m := ⟨_, rfl, by omega⟩
  rw [IsQuotient, positive, zeros, Nat.pow_zero, Nat.mul_one] at value
  rw [Nat.le_div_iff_mul_le pos, ← value]
  refine Nat.mul_le_mul_right _ (Nat.le_trans limit (Nat.mul_le_mul_right _ ?_))
  calc
    10 ^ k ≤ 10 ^ m := Nat.pow_le_pow_right (by decide) large
    _ ≤ digits * 10 ^ m := Nat.le_mul_of_pos_left _ (Nat.pos_of_ne_zero some)

namespace Binary64

theorem ofQuotient?_congr (negative : Bool) {num den num' den' : Nat}
    (same : nearestUnits num den = nearestUnits num' den') :
    ofQuotient? negative num den = ofQuotient? negative num' den' := by
  simp only [ofQuotient?, same]

theorem ofQuotient?_of_zero (negative : Bool) {num den : Nat}
    (zero : nearestUnits num den = 0) :
    ofQuotient? negative num den = some ⟨negative, 0, representable_zero⟩ := by
  have below : 0 < unitLimit := representable_zero.2
  simp [ofQuotient?, zero, below]

theorem ofQuotient?_of_large (negative : Bool) {num den : Nat} (large : unitLimit ≤ num / den) :
    ofQuotient? negative num den = none := by
  obtain ⟨k, limit⟩ : ∃ k, unitLimit = 2 ^ k := ⟨2098, rfl⟩
  rw [limit] at large
  have above : unitLimit ≤ nearestUnits num den := limit ▸ two_pow_le_nearestUnits large
  simp [ofQuotient?, Nat.not_lt.2 above]

theorem ofDecimal?_eq_ofQuotient? (negative : Bool) {digits : Nat} {exponent : Int}
    {num den : Nat} (pos : 0 < den) (value : IsQuotient digits exponent num den) :
    ofDecimal? negative digits exponent = ofQuotient? negative num den := by
  unfold ofDecimal?
  split
  next vanishing =>
    refine (ofQuotient?_of_zero negative (nearestUnits_eq_zero ?_)).symm
    rcases vanishing with rfl | tiny
    · have product : num * 10 ^ (-exponent).toNat = 0 := by simpa [IsQuotient] using value.symm
      have zero : num = 0 :=
        (Nat.mul_eq_zero.1 product).resolve_right (Nat.ne_of_gt (Nat.pow_pos (by decide)))
      omega
    · exact two_mul_lt_of_tiny pos value tiny
  next inRange =>
    split
    next huge =>
      exact (ofQuotient?_of_large negative
        (unitLimit_le_of_huge pos value (fun zero => inRange (.inl zero)) huge)).symm
    next =>
      split
      next whole =>
        have positive : (-exponent).toNat = 0 := by omega
        refine ofQuotient?_congr negative (nearestUnits_congr (by decide) pos ?_)
        simpa [IsQuotient, positive] using value
      next parts =>
        have negative : exponent.toNat = 0 := by omega
        refine ofQuotient?_congr _ (nearestUnits_congr (Nat.pow_pos (by decide)) pos ?_)
        simpa [IsQuotient, negative] using value

end Binary64

end FieldRules
