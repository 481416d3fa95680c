import FieldRules.Proofs.Number.Nearest
import FieldRules.Proofs.Number.Reading

set_option autoImplicit false

namespace FieldRules

inductive IntegerText : List Char → Int → Prop
  | plain {digits : List Char} (some : digits ≠ []) (all : AllDigits digits) :
      IntegerText digits (digitsValue digits)
  | plus {digits : List Char} (some : digits ≠ []) (all : AllDigits digits) :
      IntegerText ('+' :: digits) (digitsValue digits)
  | minus {digits : List Char} (some : digits ≠ []) (all : AllDigits digits) :
      IntegerText ('-' :: digits) (-(digitsValue digits : Int))

theorem toDigits_ne_zero_cons (n : Nat) (c : Char) (cs : List Char) :
    Nat.toDigits 10 n ≠ '0' :: c :: cs := by
  induction n using Nat.strongRecOn generalizing c cs with
  | ind n ih =>
    intro zero
    by_cases small : n < 10
    next => simp [Nat.toDigits_of_lt_base small] at zero
    next =>
      rw [Nat.toDigits_of_base_le (by decide) (by omega)] at zero
      have value := digitsValue_toDigits (n / 10)
      match front : Nat.toDigits 10 (n / 10) with
      | [] => exact Nat.toDigits_ne_nil front
      | [d] =>
        obtain rfl : d = '0' := by simpa [front] using congrArg List.head? zero
        rw [front] at value
        have zero : n / 10 = 0 := value.symm.trans rfl
        omega
      | d :: e :: ds =>
        obtain rfl : d = '0' := by simpa [front] using congrArg List.head? zero
        exact ih (n / 10) (by omega) e ds front

-- No zeros in front, and no sign but that of a negative number.
def integerDigits (n : Int) : List Char := signed (decide (n < 0)) (Nat.toDigits 10 n.natAbs)

theorem integerText_integerDigits (n : Int) : IntegerText (integerDigits n) n := by
  have all := allDigits_toDigits n.natAbs
  have value := digitsValue_toDigits n.natAbs
  by_cases negative : n < 0
  next =>
    have same : -(n.natAbs : Int) = n := by omega
    have text := IntegerText.minus Nat.toDigits_ne_nil all
    rw [value, same] at text
    simpa only [integerDigits, signed, negative, decide_true, if_true] using text
  next =>
    have same : (n.natAbs : Int) = n := by omega
    have text := IntegerText.plain Nat.toDigits_ne_nil all
    rw [value, same] at text
    simpa only [integerDigits, signed, negative, decide_false, Bool.false_eq_true, if_false]
      using text

theorem exists_integerDigits (n : Int) :
    ∃ c cs, integerDigits n = c :: cs ∧ (c.isDigit = true ∨ c = '-') := by
  obtain ⟨c, cs, digits⟩ :=
    List.exists_cons_of_ne_nil (Nat.toDigits_ne_nil (n := n.natAbs) (b := 10))
  have digit := allDigits_toDigits n.natAbs c (by simp [digits])
  by_cases negative : n < 0
  next => exact ⟨'-', c :: cs, by simp [integerDigits, signed, negative, digits], .inr rfl⟩
  next => exact ⟨c, cs, by simp [integerDigits, signed, negative, digits], .inl digit⟩

def HasNearest (n : Int) : Prop := nearestUnits n.natAbs 1 < 2 ^ 1024

instance (n : Int) : Decidable (HasNearest n) := inferInstanceAs (Decidable (_ < _))

theorem hasNearest_of_le {n : Int} (small : n.natAbs ≤ 2 ^ 64) : HasNearest n := by
  have rounded := nearestUnits_le n.natAbs 1
  rw [Nat.div_one] at rounded
  have limit : 2 * 2 ^ 64 + 1 < 2 ^ 1024 := by decide +kernel
  have small : nearestUnits n.natAbs 1 ≤ 2 * 2 ^ 64 + 1 := by omega
  exact Nat.lt_of_le_of_lt small limit

namespace Binary64

theorem exists_ofQuotient? (negative : Bool) {n : Nat} (small : nearestUnits n 1 < 2 ^ 1024) :
    ∃ x, ofQuotient? negative (n * unitsPerOne) 1 = some x ∧ x.negative = negative ∧
      x.units = nearestUnits n 1 * unitsPerOne := by
  have below : nearestUnits (n * unitsPerOne) 1 < unitLimit := by
    obtain ⟨k, limit, size⟩ : ∃ k, unitLimit = 2 ^ k * unitsPerOne ∧ k = 1024 :=
      ⟨1024, by decide +kernel, rfl⟩
    rw [← size] at small
    rw [nearestUnits_mul_unitsPerOne, limit]
    exact Nat.mul_lt_mul_of_pos_right small unitsPerOne_pos
  exact ⟨_, by rw [ofQuotient?, dif_pos below], rfl, nearestUnits_mul_unitsPerOne n⟩

theorem ofQuotient?_units_of_lt (negative : Bool) {n : Nat} (small : nearestUnits n 1 < 2 ^ 1024) :
    ∃ x, ofQuotient? negative (n * unitsPerOne) 1 = some x ∧
      x.toUnits = nearestInt (if negative then -(n : Int) else n) * unitsPerOne := by
  obtain ⟨x, read, sign, units⟩ := exists_ofQuotient? negative small
  refine ⟨x, read, ?_⟩
  rw [toUnits, sign, units]
  cases negative with
  | true =>
    simp only [if_true, nearestInt_neg_natCast, Int.natCast_mul, Int.neg_mul]
  | false =>
    simp only [Bool.false_eq_true, if_false, nearestInt_natCast, Int.natCast_mul]

theorem ofQuotient?_units_of_not_lt (negative : Bool) {n : Nat}
    (large : ¬ nearestUnits n 1 < 2 ^ 1024) : ofQuotient? negative (n * unitsPerOne) 1 = none := by
  have above : ¬ nearestUnits (n * unitsPerOne) 1 < unitLimit := by
    obtain ⟨k, limit, size⟩ : ∃ k, unitLimit = 2 ^ k * unitsPerOne ∧ k = 1024 :=
      ⟨1024, by decide +kernel, rfl⟩
    rw [← size] at large
    rw [nearestUnits_mul_unitsPerOne, limit]
    exact fun below => large (Nat.lt_of_mul_lt_mul_right below)
  rw [ofQuotient?, dif_neg above]

theorem ofText?_signed_digits {digits : List Char} (some : digits ≠ []) (all : AllDigits digits)
    (negative : Bool) :
    ofText? (signed negative digits) =
      ofQuotient? negative (digitsValue digits * unitsPerOne) 1 := by
  have stop : NoDigitFirst [] := by simp [NoDigitFirst]
  have read := ofText?_signed some all stop rfl rfl negative
  have quotient : IsQuotient (digitsValue digits) 0 (digitsValue digits * unitsPerOne) 1 := by
    simp [IsQuotient]
  simp only [List.append_nil, List.length_nil, Int.sub_zero, Int.natCast_zero] at read
  rw [read, ofDecimal?_eq_ofQuotient? negative Nat.one_pos quotient]

theorem ofText?_plus {digits : List Char} (some : digits ≠ []) (all : AllDigits digits) :
    ofText? ('+' :: digits) = ofText? digits := by
  have sign := takeSign_signed some all false []
  rw [List.append_nil] at sign
  have plus : takeSign ('+' :: digits) = takeSign digits := sign.symm
  simp only [ofText?, plus]

theorem units_of_toUnits {x : Binary64} {n : Int} (whole : x.toUnits = n * unitsPerOne) :
    x.units = n.natAbs * unitsPerOne := by
  have size : x.toUnits.natAbs = x.units := by
    rw [toUnits]
    split <;> omega
  rw [← size, whole, Int.natAbs_mul, Int.natAbs_natCast]

theorem isWhole_of_toUnits {x : Binary64} {n : Int} (whole : x.toUnits = n * unitsPerOne) :
    x.isWhole = true := by
  rw [isWhole, units_of_toUnits whole, Nat.mul_mod_left]
  rfl

theorem truncate_of_toUnits {x : Binary64} {n : Int} (whole : x.toUnits = n * unitsPerOne) :
    x.truncate = n := by
  have one : (unitsPerOne : Int) ≠ 0 := Int.natCast_ne_zero.2 (Nat.ne_of_gt unitsPerOne_pos)
  apply Int.eq_of_mul_eq_mul_right one
  rw [← whole, truncate, toUnits, units_of_toUnits whole, Nat.mul_div_cancel _ unitsPerOne_pos,
    Int.natCast_mul]
  split
  · exact Int.neg_mul ..
  · rfl

end Binary64

theorem IntegerText.char {cs : List Char} {n : Int} (text : IntegerText cs n) :
    ∀ c ∈ cs, c.isDigit = true ∨ c = '+' ∨ c = '-' := by
  intro c member
  cases text with
  | plain some all => exact .inl (all c member)
  | plus some all =>
    rcases List.mem_cons.1 member with sign | member
    · exact .inr (.inl sign)
    · exact .inl (all c member)
  | minus some all =>
    rcases List.mem_cons.1 member with sign | member
    · exact .inr (.inr sign)
    · exact .inl (all c member)

theorem IntegerText.solid {cs : List Char} {n : Int} (text : IntegerText cs n) :
    ∀ c ∈ cs, isBlank c = false := by
  intro c member
  rcases text.char c member with digit | rfl | rfl
  · exact isBlank_of_isDigit digit
  · decide
  · decide

theorem IntegerText.not_mem {cs : List Char} {n : Int} (text : IntegerText cs n) {c : Char}
    (other : c.isDigit = false ∧ c ≠ '+' ∧ c ≠ '-') : c ∉ cs := by
  intro member
  rcases text.char c member with digit | sign
  · simp [other.1] at digit
  · simp [other.2] at sign

theorem exists_readNumber?_of_integerText {cs : List Char} {n : Int} (text : IntegerText cs n)
    (near : HasNearest n) :
    ∃ x, readNumber? cs = some x ∧ x.toUnits = nearestInt n * unitsPerOne := by
  rw [readNumber?, trimBlanks_eq_self text.solid]
  cases text with
  | plain some all =>
    have read := Binary64.ofText?_signed_digits some all false
    rw [signed, if_neg Bool.false_ne_true] at read
    rw [read]
    exact Binary64.ofQuotient?_units_of_lt false near
  | plus some all =>
    have read := Binary64.ofText?_signed_digits some all false
    rw [signed, if_neg Bool.false_ne_true] at read
    rw [Binary64.ofText?_plus some all, read]
    exact Binary64.ofQuotient?_units_of_lt false near
  | minus some all =>
    have read := Binary64.ofText?_signed_digits some all true
    rw [signed, if_pos rfl] at read
    rw [HasNearest, Int.natAbs_neg] at near
    rw [read]
    exact Binary64.ofQuotient?_units_of_lt true near

theorem readNumber?_toString (n : Nat) :
    readNumber? (toString n).toList = Binary64.ofQuotient? false (n * unitsPerOne) 1 := by
  have all := allDigits_toDigits n
  have read := Binary64.ofText?_signed_digits Nat.toDigits_ne_nil all false
  rw [signed, if_neg Bool.false_ne_true, digitsValue_toDigits] at read
  rw [Nat.toString_eq_ofList_toDigits, String.toList_ofList, readNumber?,
    trimBlanks_eq_self fun c member => isBlank_of_isDigit (all c member), read]

end FieldRules
