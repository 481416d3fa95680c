import FieldRules.Text.Hex
import Mathlib.Tactic.SplitIfs

set_option autoImplicit false

namespace FieldRules

def IsHex (c : Char) : Prop := c.isDigit = true ∨ 'a' ≤ c ∧ c ≤ 'f' ∨ 'A' ≤ c ∧ c ≤ 'F'

instance (c : Char) : Decidable (IsHex c) := inferInstanceAs (Decidable (_ ∨ _))

theorem isHex_iff_toNat (c : Char) :
    IsHex c ↔ 48 ≤ c.toNat ∧ c.toNat ≤ 57 ∨ 97 ≤ c.toNat ∧ c.toNat ≤ 102 ∨
      65 ≤ c.toNat ∧ c.toNat ≤ 70 := by
  simp [IsHex, Char.isDigit, Char.le_def, UInt32.le_iff_toNat_le]

theorem hexDigit?_eq_some_iff {c : Char} {n : Nat} :
    hexDigit? c = some n ↔
      (48 ≤ c.toNat ∧ c.toNat ≤ 57 ∧ n = c.toNat - 48) ∨
        (97 ≤ c.toNat ∧ c.toNat ≤ 102 ∧ n = c.toNat - 87) ∨
        (65 ≤ c.toNat ∧ c.toNat ≤ 70 ∧ n = c.toNat - 55) := by
  simp only [hexDigit?, Char.isDigit, Char.le_def, UInt32.le_iff_toNat_le, Bool.and_eq_true,
    decide_eq_true_eq, Char.toNat_val, Char.reduceToNat, ge_iff_le]
  split_ifs <;> simp only [Option.some.injEq, false_iff] <;> omega

theorem exists_hexDigit? {c : Char} (hex : IsHex c) : ∃ n, hexDigit? c = some n := by
  simp only [hexDigit?_eq_some_iff]
  rcases (isHex_iff_toNat c).1 hex with digit | lower | upper
  · exact ⟨_, .inl ⟨digit.1, digit.2, rfl⟩⟩
  · exact ⟨_, .inr (.inl ⟨lower.1, lower.2, rfl⟩)⟩
  · exact ⟨_, .inr (.inr ⟨upper.1, upper.2, rfl⟩)⟩

theorem isHex_of_hexDigit? {c : Char} {n : Nat} (digit : hexDigit? c = some n) : IsHex c := by
  rw [hexDigit?_eq_some_iff] at digit
  rw [isHex_iff_toNat]
  omega

theorem hexDigit?_lt {c : Char} {n : Nat} (digit : hexDigit? c = some n) : n < 16 := by
  rw [hexDigit?_eq_some_iff] at digit
  omega

end FieldRules
