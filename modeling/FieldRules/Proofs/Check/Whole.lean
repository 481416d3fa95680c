import FieldRules.Proofs.Check.Places
import Mathlib.Algebra.Order.Field.Rat
import Mathlib.Algebra.Order.Ring.Int
import Mathlib.Data.Int.Cast.Lemmas

set_option autoImplicit false

namespace FieldRules

theorem nearestInt_pos_iff (n : Int) : 0 < nearestInt n ↔ 0 < n := by
  have zero : nearestInt 0 = 0 := nearestInt_of_small (by decide)
  have one : nearestInt 1 = 1 := nearestInt_of_small (by decide)
  constructor
  · intro rounded
    by_contra below
    have crossed := nearestInt_mono (Int.not_lt.1 below)
    omega
  · intro positive
    have above : nearestInt 1 ≤ nearestInt n := nearestInt_mono positive
    omega

theorem Binary64.positive_isWhole_iff (x : Binary64) :
    0 < x.toUnits ∧ x.isWhole = true ↔ ∃ k : Int, 0 < k ∧ x.toUnits = k * unitsPerOne := by
  have one : (0 : Int) < unitsPerOne := Int.natCast_pos.2 unitsPerOne_pos
  constructor
  · rintro ⟨positive, whole⟩
    obtain ⟨k, units⟩ := x.exists_nat_of_isWhole whole (Int.not_lt.2 positive.le)
    rw [units, mul_pos_iff_of_pos_right one] at positive
    exact ⟨k, positive, units⟩
  · rintro ⟨k, positive, units⟩
    exact ⟨units ▸ Int.mul_pos positive one, isWhole_of_toUnits units⟩

namespace Number

def exact : Number → ℚ
  | .int n _ => n
  | .float x => x.toUnits / unitsPerOne

theorem exact_float_eq_intCast_iff (x : Binary64) (k : Int) :
    (float x).exact = k ↔ x.toUnits = k * unitsPerOne := by
  have one : (unitsPerOne : ℚ) ≠ 0 := Nat.cast_ne_zero.2 unitsPerOne_pos.ne'
  rw [exact, div_eq_iff one]
  exact_mod_cast Iff.rfl

theorem exists_value_iff_exact (n : Number) :
    (∃ k : Int, 0 < k ∧ n.value.toUnits = k * unitsPerOne) ↔ ∃ k : Int, 0 < k ∧ n.exact = k := by
  cases n with
  | int n inRange =>
    have one : (unitsPerOne : Int) ≠ 0 := Int.natCast_ne_zero.2 unitsPerOne_pos.ne'
    simp only [value, Binary64.toUnits_ofInt, exact, Int.cast_inj, mul_left_inj' one,
      exists_eq_right', nearestInt_pos_iff]
  | float x => simp only [value, exact_float_eq_intCast_iff]

end Number

theorem Json.isPositiveInteger_number_iff (n : Number) :
    (Json.number n).isPositiveInteger = true ↔ ∃ k : Int, 0 < k ∧ n.exact = k := by
  rw [← n.exists_value_iff_exact, ← Binary64.positive_isWhole_iff, isPositiveInteger,
    Bool.and_eq_true, decide_eq_true_eq]

theorem exists_readNumber?_one :
    ∃ x, readNumber? "1".toList = some x ∧ x.toUnits = unitsPerOne := by
  have text : IntegerText ['1'] 1 := .plain (by decide) (by decide)
  obtain ⟨x, read, units⟩ := exists_readNumber?_of_integerText text (hasNearest_of_le (by decide))
  rw [nearestInt_of_small (by decide), Int.one_mul] at units
  exact ⟨x, read, units⟩

namespace Kind

variable (now : Moment) (param : Option String)

theorem check_integer_of_exact :
    (∀ v, check now .integer v param = .pass ↔
      ∃ (n : Number) (k : Int), v = .number n ∧ 0 < k ∧ n.exact = k) ∧
    (∀ m n : Number, m.exact = n.exact →
      check now .integer (.number m) param = check now .integer (.number n) param) ∧
    ∀ v, check now .integer v param = .pass → check now .min v (some "1") = .pass := by
  have reads : condition now param .integer = .ok Json.isPositiveInteger := rfl
  have passes (v : Json) : check now .integer v param = .pass ↔
      ∃ (n : Number) (k : Int), v = .number n ∧ 0 < k ∧ n.exact = k := by
    rw [check_eq_pass_iff reads]
    cases v with
    | number n => simp [Json.isPositiveInteger_number_iff]
    | null | bool | text | array | object => simp [Json.isPositiveInteger]
  refine ⟨passes, ?_, ?_⟩
  next =>
    intro m n same
    have tests : (Json.number m).isPositiveInteger = (Json.number n).isPositiveInteger := by
      rw [Bool.eq_iff_iff, Json.isPositiveInteger_number_iff, Json.isPositiveInteger_number_iff,
        same]
    simp only [check, reads, tests]
  next =>
    intro v passed
    obtain ⟨n, k, rfl, positive, whole⟩ := (passes v).1 passed
    obtain ⟨k, positive, units⟩ := n.exists_value_iff_exact.2 ⟨k, positive, whole⟩
    obtain ⟨x, read, one⟩ := exists_readNumber?_one
    rw [check_min_of_number now _ read]
    intro size measured
    rw [Json.hasSize_number_iff] at measured
    rw [measured, units, one]
    exact le_mul_of_one_le_left (Int.natCast_nonneg _) positive

theorem check_integer_of_exact_of_two_pow :
    let m := Number.int (2 ^ 53) (by decide)
    let n := Number.float (.ofInt (2 ^ 53) (by decide))
    m.exact = n.exact ∧ check (.midnight 0) .integer (.number m) none = .pass ∧
      check (.midnight 0) .integer (.number n) none = .pass ∧
      check (.midnight 0) .min (.number n) (some "1") = .pass := by
  intro m n
  have whole : n.exact = (2 ^ 53 : Int) := by
    rw [Number.exact_float_eq_intCast_iff, Binary64.toUnits_ofInt, nearestInt_of_small (by decide)]
  obtain ⟨passes, equal, least⟩ := check_integer_of_exact (.midnight 0) none
  have pass : check (.midnight 0) .integer (.number m) none = .pass :=
    (passes _).2 ⟨m, 2 ^ 53, rfl, by decide, rfl⟩
  have pass' := (equal m n whole.symm).symm.trans pass
  exact ⟨whole.symm, pass, pass', least _ pass'⟩

end Kind

end FieldRules
