import FieldRules.Pattern.Term
import FieldRules.Proofs.Text.Letter
import FieldRules.Proofs.Text.Split

set_option autoImplicit false

namespace FieldRules

namespace CharSet

theorem contains_nil (c : Char) : contains ⟨[]⟩ c = false := rfl

theorem contains_cons_iff (c : Char) (lo hi : Nat) (ranges : List (Nat × Nat)) :
    contains ⟨(lo, hi) :: ranges⟩ c = true ↔
      lo ≤ c.toNat ∧ (c.toNat ≤ hi ∨ contains ⟨ranges⟩ c = true) := by
  by_cases above : c.toNat < lo
  · simp [contains, within, above, Nat.not_le.2 above]
  · simp [contains, within, above, Nat.not_lt.1 above]

theorem contains_single_iff (c d : Char) : (single d).contains c = true ↔ c = d := by
  simp only [single, contains_cons_iff, contains_nil, ← Char.toNat_inj,
    Bool.false_eq_true, or_false]
  omega

theorem contains_append_of_lt {c : Char} {lo hi : Nat} (below : c.toNat < lo)
    (front back : List (Nat × Nat)) :
    contains ⟨front ++ (lo, hi) :: back⟩ c = contains ⟨front⟩ c := by
  induction front with
  | nil => simp [contains, within, below]
  | cons range front ih =>
    obtain ⟨first, last⟩ := range
    simp only [contains] at ih
    simp only [contains, List.cons_append, within, ih]

theorem tablePieces_append {front : String} (line : '\n' ∉ front.toList) (back : String) :
    tablePieces (front ++ " " ++ back) = tablePieces front ++ tablePieces back := by
  obtain ⟨piece, pieces, split⟩ := List.exists_cons_of_ne_nil (splitAt_ne_nil '\n' back.toList)
  have joined : (front ++ " " ++ back).toList = front.toList ++ [' '] ++ back.toList := by
    simp [String.toList_append]
  have free : '\n' ∉ front.toList ++ [' '] := by simp [line]
  have between : front.toList ++ [' '] ++ piece = front.toList ++ ' ' :: piece := by simp
  rw [tablePieces, joined, splitAt_append_left free split, List.flatMap_cons, between,
    splitAt_append, tablePieces, tablePieces, split, splitAt_of_not_mem line]
  simp

theorem contains_ofTable_append {front : String} (line : '\n' ∉ front.toList)
    {ranges : List (Nat × Nat)} {lo hi : Nat} (read : (ofTable front).ranges = ranges ++ [(lo, hi)])
    (back : String) {c : Char} (below : c.toNat < lo) :
    contains (ofTable (front ++ " " ++ back)) c = contains ⟨ranges⟩ c := by
  have whole : (ofTable (front ++ " " ++ back)).ranges =
      ranges ++ (lo, hi) :: (ofTable back).ranges := by
    rw [← List.singleton_append, ← List.append_assoc, ← read]
    simp [ofTable, tablePieces_append line]
  rw [← contains_append_of_lt below ranges (ofTable back).ranges, ← whole]

end CharSet

-- The tables are too long to be looked through, but what is in ASCII stands in front.
theorem contains_wordSet_of_ascii {c : Char} (ascii : c.toNat < 128) :
    wordSet.contains c = true ↔ c.isAlphanum = true ∨ c = '_' := by
  have line : '\n' ∉ "30-39 41-5A 5F 61-7A AA".toList := by simp
  have read : (CharSet.ofTable "30-39 41-5A 5F 61-7A AA").ranges =
      [(0x30, 0x39), (0x41, 0x5A), (0x5F, 0x5F), (0x61, 0x7A)] ++ [(0xAA, 0xAA)] := by
    decide +kernel
  have front : wordSet.contains c =
      CharSet.contains ⟨[(0x30, 0x39), (0x41, 0x5A), (0x5F, 0x5F), (0x61, 0x7A)]⟩ c :=
    CharSet.contains_ofTable_append line read _ (by omega)
  simp only [front, CharSet.contains_cons_iff, CharSet.contains_nil, isAlphanum_iff, isAlpha_iff,
    ← Char.toNat_inj, Char.reduceToNat, Bool.false_eq_true, or_false]
  omega

def digitSet : CharSet := (Pattern.category? ['n', 'd']).getD .empty

theorem contains_digitSet_of_ascii {c : Char} (ascii : c.toNat < 128) :
    digitSet.contains c = true ↔ c.isDigit = true := by
  have line : '\n' ∉ "30-39 660-669".toList := by simp
  have read : (CharSet.ofTable "30-39 660-669").ranges = [(0x30, 0x39)] ++ [(0x660, 0x669)] := by
    decide +kernel
  have table : ∃ back, digitSet = CharSet.ofTable ("30-39 660-669" ++ " " ++ back) := ⟨_, rfl⟩
  obtain ⟨back, table⟩ := table
  have below : c.toNat < 0x660 := by omega
  rw [table, CharSet.contains_ofTable_append line read back below, CharSet.contains_cons_iff,
    CharSet.contains_nil, isDigit_iff]
  simp

def lineSet : CharSet := (CharSet.single '\n').compl

theorem contains_lineSet_iff (c : Char) : lineSet.contains c = true ↔ c ≠ '\n' := by
  have ranges : lineSet = ⟨[(0x0, 0x9), (0xB, 0xD7FF), (0xE000, 0x10FFFF)]⟩ := by decide
  have valid : c.toNat < 0xD800 ∨ 0xDFFF < c.toNat ∧ c.toNat < 0x110000 := c.valid
  simp only [ranges, CharSet.contains_cons_iff, CharSet.contains_nil, Ne, ← Char.toNat_inj,
    Char.reduceToNat, Bool.false_eq_true, or_false]
  omega

theorem isWord_eq_contains (c : Char) : isWord c = wordSet.contains c := by
  by_cases ascii : c.toNat < 128
  · rw [isWord, if_pos ascii, Bool.eq_iff_iff, contains_wordSet_of_ascii ascii]
    simp
  · rw [isWord, if_neg ascii]

end FieldRules
