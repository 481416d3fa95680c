import FieldRules.Proofs.Number.Integer
import FieldRules.Proofs.Number.ReadBack

set_option autoImplicit false

namespace FieldRules

namespace Decimal

variable {d : Decimal}

theorem length_fraction (written : d.Written) :
    d.fraction.length = max 1 (d.digits.length - 1 - d.leading).toNat := by
  have some := List.length_pos_iff.2 written.some
  unfold fraction
  split
  next small =>
    rw [List.length_append, List.length_replicate]
    omega
  next large =>
    split
    next short =>
      have short := List.drop_eq_nil_iff.1 short
      rw [List.length_singleton]
      omega
    next long =>
      have long := mt List.drop_eq_nil_iff.2 long
      rw [List.length_drop]
      omega

theorem length_digits_ofSteps_le (steps : Nat) :
    (ofSteps steps).digits.length ≤ (Nat.toDigits 10 steps).length := by
  obtain ⟨k, digits⟩ := toDigits_eq_digits_append_zeros steps
  rw [digits, List.length_append]
  exact Nat.le_add_right _ _

def fullDigits (d : Decimal) : Nat := d.whole.length + d.fraction.length

def scientificDigits (d : Decimal) : Nat :=
  d.digits.length + (Nat.toDigits 10 d.leading.natAbs).length

theorem countP_positional (written : d.Written) :
    d.positional.countP Char.isDigit = d.fullDigits := by
  rw [positional, List.countP_append, List.countP_cons_of_neg (by decide),
    List.countP_eq_length.2 (allDigits_whole written),
    List.countP_eq_length.2 (allDigits_fraction written), fullDigits]

def exponentText (d : Decimal) : List Char :=
  'e' :: (if d.leading < 0 then '-' else '+') :: Nat.toDigits 10 d.leading.natAbs

theorem exists_scientific (written : d.Written) :
    ∃ first others, d.digits = first :: others ∧
      (others = [] ∧ d.scientific = [first] ++ d.exponentText ∨
        d.scientific = [first] ++ '.' :: (others ++ d.exponentText)) := by
  obtain ⟨digits, leading⟩ := d
  rcases digits with _ | ⟨first, _ | ⟨second, others⟩⟩
  · exact absurd rfl written.some
  · exact ⟨first, [], rfl, .inl ⟨rfl, rfl⟩⟩
  · exact ⟨first, second :: others, rfl, .inr rfl⟩

theorem countP_exponentText (d : Decimal) :
    d.exponentText.countP Char.isDigit = (Nat.toDigits 10 d.leading.natAbs).length := by
  have sign : ¬ Char.isDigit (if d.leading < 0 then '-' else '+') = true := by split <;> decide
  rw [exponentText, List.countP_cons_of_neg (by decide), List.countP_cons_of_neg sign,
    List.countP_eq_length.2 (allDigits_toDigits _)]

theorem countP_scientific (written : d.Written) :
    d.scientific.countP Char.isDigit = d.scientificDigits := by
  obtain ⟨first, others, digits, text⟩ := exists_scientific written
  have all : AllDigits (first :: others) := digits ▸ written.digits
  obtain ⟨front, behind⟩ := List.forall_mem_cons.1 all
  rw [scientificDigits, digits, List.length_cons]
  rcases text with ⟨rfl, text⟩ | text
  · rw [text, List.countP_append, List.countP_singleton, if_pos front, countP_exponentText,
      List.length_nil]
  · rw [text, List.countP_append, List.countP_singleton, if_pos front,
      List.countP_cons_of_neg (by decide), List.countP_append, List.countP_eq_length.2 behind,
      countP_exponentText]
    omega

end Decimal

theorem countP_signed (negative : Bool) (cs : List Char) :
    (signed negative cs).countP Char.isDigit = cs.countP Char.isDigit := by
  cases negative with
  | true => exact List.countP_cons_of_neg (by decide)
  | false => rfl

theorem shortestSteps_lt {units : Nat} (representable : Representable units) :
    ∃ k, shortestSteps units < 10 ^ k ∧ k = 2098 := by
  obtain ⟨k, m, limit, fives, le, size⟩ :
      ∃ k m, unitLimit = 2 ^ k ∧ stepsPerUnit = 5 ^ m ∧ m ≤ k ∧ k = 2098 :=
    ⟨2098, 1074, rfl, rfl, by decide, rfl⟩
  have below : shortestSteps units / stepsPerUnit < 2 ^ k := by
    apply Nat.lt_of_not_le
    intro large
    have reached := two_pow_le_nearestUnits large
    rw [nearestUnits_shortestSteps representable, ← limit] at reached
    exact Nat.not_le.2 representable.2 reached
  refine ⟨k, ?_, size⟩
  calc
    shortestSteps units < 2 ^ k * stepsPerUnit := (Nat.div_lt_iff_lt_mul stepsPerUnit_pos).1 below
    _ = 2 ^ k * 5 ^ m := by rw [fives]
    _ ≤ 2 ^ k * 5 ^ k := Nat.mul_le_mul_left _ (Nat.pow_le_pow_right (by decide) le)
    _ = 10 ^ k := by rw [← Nat.mul_pow]

theorem Binary64.length_shortest_le (x : Binary64) : x.shortest.digits.length ≤ 2098 := by
  unfold shortest
  split
  next zero =>
    rw [List.length_singleton]
    decide
  next nonzero =>
    obtain ⟨k, small, size⟩ := shortestSteps_lt x.representable
    have width : (Nat.toDigits 10 (shortestSteps x.units)).length ≤ k :=
      (Nat.length_toDigits_le_iff (by decide) (by omega)).2 small
    have kept := Decimal.length_digits_ofSteps_le (shortestSteps x.units)
    omega

end FieldRules
