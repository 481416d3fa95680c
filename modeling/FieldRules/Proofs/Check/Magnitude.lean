import FieldRules.Proofs.Check.Interval
import FieldRules.Proofs.Number.Integer

set_option autoImplicit false

namespace FieldRules

theorem toUnits_le_iff {x y : Binary64} {m n : Int} (left : x.toUnits = nearestInt m * unitsPerOne)
    (right : y.toUnits = nearestInt n * unitsPerOne) :
    x.toUnits ≤ y.toUnits ↔ nearestInt m ≤ nearestInt n := by
  rw [left, right]
  exact Int.mul_le_mul_right (Int.natCast_pos.2 unitsPerOne_pos)

namespace Kind

variable (now : Moment) {n : Int} (inRange : -2 ^ 63 ≤ n ∧ n < 2 ^ 64)

theorem check_min_of_int {text : String} {bound : Int}
    (written : IntegerText text.toList bound) (near : HasNearest bound) :
    check now .min (.number (.int n inRange)) (some text) = .pass ↔
      bound ≤ n ∨ nearestInt bound = nearestInt n := by
  obtain ⟨x, read, units⟩ := exists_readNumber?_of_integerText written near
  have size := Binary64.toUnits_ofInt n (by omega)
  rw [check_min_of_number now _ read, ← nearestInt_le_iff, ← toUnits_le_iff units size]
  simp [Number.value]

theorem check_max_of_int {text : String} {bound : Int}
    (written : IntegerText text.toList bound) (near : HasNearest bound) :
    check now .max (.number (.int n inRange)) (some text) = .pass ↔
      n ≤ bound ∨ nearestInt n = nearestInt bound := by
  obtain ⟨x, read, units⟩ := exists_readNumber?_of_integerText written near
  have size := Binary64.toUnits_ofInt n (by omega)
  rw [check_max_of_number now _ read, ← nearestInt_le_iff, ← toUnits_le_iff size units]
  simp [Number.value]

theorem check_numberBetween_of_int {low high : String} {a b : Int}
    (writtenLow : IntegerText low.toList a) (writtenHigh : IntegerText high.toList b)
    (nearLow : HasNearest a) (nearHigh : HasNearest b) :
    check now .numberBetween (.number (.int n inRange)) (some ("[" ++ low ++ "," ++ high ++ "]")) =
        .pass ↔
      (a ≤ n ∨ nearestInt a = nearestInt n) ∧ (n ≤ b ∨ nearestInt n = nearestInt b) := by
  obtain ⟨x, readLow, -⟩ := exists_readNumber?_of_integerText writtenLow nearLow
  obtain ⟨y, readHigh, -⟩ := exists_readNumber?_of_integerText writtenHigh nearHigh
  obtain ⟨-, range⟩ := rangeParam_of_numbers readLow readHigh
  rw [check_numberBetween_of_range now range, ← check_min_of_number now _ readLow,
    ← check_max_of_number now _ readHigh, check_min_of_int now inRange writtenLow nearLow,
    check_max_of_int now inRange writtenHigh nearHigh]

theorem check_bounds_of_int :
    (∀ (text : String) (bound : Int), IntegerText text.toList bound →
      (-2 ^ 63 ≤ bound ∧ bound < 2 ^ 64) →
      (check now .min (.number (.int n inRange)) (some text) = .pass ↔
        bound ≤ n ∨ nearestInt bound = nearestInt n) ∧
      (check now .max (.number (.int n inRange)) (some text) = .pass ↔
        n ≤ bound ∨ nearestInt n = nearestInt bound)) ∧
    (∀ (low high : String) (a b : Int), IntegerText low.toList a → IntegerText high.toList b →
      (-2 ^ 63 ≤ a ∧ a < 2 ^ 64) → (-2 ^ 63 ≤ b ∧ b < 2 ^ 64) →
      (check now .numberBetween (.number (.int n inRange))
          (some ("[" ++ low ++ "," ++ high ++ "]")) = .pass ↔
        (a ≤ n ∨ nearestInt a = nearestInt n) ∧ (n ≤ b ∨ nearestInt n = nearestInt b))) ∧
    ∀ m : Int, m.natAbs < 2 ^ 53 ∨ n.natAbs < 2 ^ 53 →
      (nearestInt n = nearestInt m ↔ n = m) := by
  refine ⟨fun text bound written small => ?_, fun low high a b writtenLow writtenHigh smallLow
    smallHigh => ?_, fun m small => nearestInt_eq_iff_of_small small.symm⟩
  · have near : HasNearest bound := hasNearest_of_le (by omega)
    exact ⟨check_min_of_int now inRange written near, check_max_of_int now inRange written near⟩
  · exact check_numberBetween_of_int now inRange writtenLow writtenHigh
      (hasNearest_of_le (by omega)) (hasNearest_of_le (by omega))

-- One past `2 ^ 53` is rounded down to it, and the next odd number up.
theorem check_bounds_of_int_of_large :
    let n : Int := 9007199254740993
    let v : Json := .number (.int n (by decide))
    IntegerText "9007199254740995".toList 9007199254740995 ∧ IntegerText "-01".toList (-1) ∧
      check (.midnight 0) .min v (some "9007199254740995") ≠ .pass ∧
      check (.midnight 0) .max v (some "-01") ≠ .pass ∧
      check (.midnight 0) .numberBetween v (some ("[" ++ "-01" ++ "," ++ "9007199254740995" ++ "]")) =
        .pass := by
  intro n v
  have large : IntegerText "9007199254740995".toList 9007199254740995 :=
    (by decide +kernel : integerDigits 9007199254740995 = "9007199254740995".toList) ▸
      integerText_integerDigits _
  have small : IntegerText "-01".toList (-1) :=
    IntegerText.minus (List.cons_ne_nil '0' ['1']) (by decide +kernel)
  obtain ⟨bounds, ranges, -⟩ := check_bounds_of_int (.midnight 0) (n := n) (by decide)
  obtain ⟨least, -⟩ := bounds _ _ large (by decide)
  obtain ⟨-, most⟩ := bounds _ _ small (by decide)
  have between := ranges _ _ _ _ small large (by decide) (by decide)
  refine ⟨large, small, fun passes => ?_, fun passes => ?_, between.2 ?_⟩
  · exact absurd (least.1 passes) (by decide +kernel)
  · exact absurd (most.1 passes) (by decide +kernel)
  · decide +kernel

-- A number past its bound that is rounded to it, above and below.
theorem check_bounds_of_rounded :
    let even : Int := 9007199254740992
    let odd : Int := 9007199254740993
    ¬ odd ≤ even ∧
      check (.midnight 0) .max (.number (.int odd (by decide))) (some "9007199254740992") = .pass ∧
      check (.midnight 0) .min (.number (.int even (by decide))) (some "9007199254740993") = .pass ∧
      check (.midnight 0) .numberBetween (.number (.int odd (by decide)))
        (some "[0,9007199254740992]") = .pass := by
  decide +kernel

end Kind

end FieldRules
