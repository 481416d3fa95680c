import FieldRules.Calendar.Format
import FieldRules.Proofs.Number.Reading

set_option autoImplicit false

namespace FieldRules

section

variable {width n : Nat} {cs rest digits : List Char}

theorem takeDigits?_run (some : digits ≠ []) (all : AllDigits digits)
    (short : digits.length ≤ width) (stop : NoDigitFirst rest) :
    takeDigits? width (digits ++ rest) = .some (digitsValue digits, rest) := by
  unfold takeDigits?
  rw [takeWhile_run all stop, List.take_of_length_le short]
  cases digits with
  | nil => contradiction
  | cons c cs => simp only [List.drop_left]

theorem exists_digits_of_takeDigits? (taken : takeDigits? width cs = some (n, rest)) :
    ∃ digits, cs = digits ++ rest ∧ AllDigits digits ∧ digits ≠ [] ∧ digits.length ≤ width ∧
      digitsValue digits = n := by
  have whole : (cs.takeWhile Char.isDigit).take width <+: cs :=
    (List.take_prefix _ _).trans (List.takeWhile_prefix _)
  have short : ((cs.takeWhile Char.isDigit).take width).length ≤ width := List.length_take_le _ _
  have all : AllDigits ((cs.takeWhile Char.isDigit).take width) := fun c member =>
    List.all_eq_true.1 List.all_takeWhile c (List.mem_of_mem_take member)
  unfold takeDigits? at taken
  generalize (cs.takeWhile Char.isDigit).take width = digits at taken whole short all
  cases digits with
  | nil => simp at taken
  | cons c cs =>
    obtain ⟨rfl, rfl⟩ := Prod.mk.inj (Option.some.inj taken)
    exact ⟨_, (List.prefix_iff_eq_append.1 whole).symm, all, by simp, short, rfl⟩

theorem takeNanos?_run (some : digits ≠ []) (all : AllDigits digits)
    (stop : NoDigitFirst rest) :
    takeNanos? (digits ++ rest) =
      .some (digitsValue (digits.take 9) * 10 ^ (9 - (digits.take 9).length), rest) := by
  unfold takeNanos?
  rw [takeWhile_run all stop]
  cases digits with
  | nil => contradiction
  | cons c cs => simp only [List.drop_left]

theorem exists_digits_of_takeNanos? (taken : takeNanos? cs = some (n, rest)) :
    ∃ digits, cs = digits ++ rest ∧ AllDigits digits := by
  refine ⟨cs.takeWhile Char.isDigit, ?_, List.all_eq_true.1 List.all_takeWhile⟩
  have whole := List.prefix_iff_eq_append.1 (List.takeWhile_prefix (l := cs) Char.isDigit)
  unfold takeNanos? at taken
  generalize cs.takeWhile Char.isDigit = digits at taken whole ⊢
  cases digits with
  | nil => simp at taken
  | cons c cs =>
    obtain ⟨-, rfl⟩ := Prod.mk.inj (Option.some.inj taken)
    exact whole.symm

theorem takeYear?_of_isDigit {c : Char} (digit : c.isDigit = true) (cs : List Char) :
    takeYear? (c :: cs) = (takeDigits? 4 (c :: cs)).map fun (n, cs) => ((n : Int), cs) := by
  have minus : c ≠ '-' := by rintro rfl; simp at digit
  have plus : c ≠ '+' := by rintro rfl; simp at digit
  simp [takeYear?, minus, plus]

end

namespace FormatItem

theorem take?_exactly_iff {c : Char} {p q : DateParts} {cs rest : List Char} :
    (exactly c).take? p cs = some (q, rest) ↔ cs = c :: rest ∧ p = q := by
  cases cs with
  | nil => simp [take?]
  | cons d ds =>
    simp only [take?]
    split
    next same => simp [same, and_comm]
    next other => simp [Ne.symm other]

end FormatItem

namespace DateFormat

theorem parts?_append_fraction {format : DateFormat} {p q : DateParts} {cs : List Char}
    (read : format.parts? p cs = some q) : parts? (format ++ [.fraction]) p cs = some q := by
  induction format generalizing p cs with
  | nil =>
    cases cs with
    | nil => exact read
    | cons => simp [parts?] at read
  | cons item items ih =>
    obtain ⟨⟨p', rest⟩, taken, read⟩ := Option.bind_eq_some_iff.1 read
    exact Option.bind_eq_some_iff.2 ⟨(p', rest), taken, ih read⟩

end DateFormat

structure IsMark (c : Char) : Prop where
  noDigit : c.isDigit = false
  solid : isBlank c = false
  noSign : c ≠ '-' ∧ c ≠ '+' ∧ c ≠ '.'

def marks : List Char := [':', 'T', '/']

theorem isMark_of_mem {c : Char} (mem : c ∈ marks) : IsMark c := by
  simp only [marks, List.mem_cons, List.not_mem_nil, or_false] at mem
  rcases mem with rfl | rfl | rfl <;> exact ⟨by decide, by decide, by decide⟩

namespace IsMark

variable {c : Char} (mark : IsMark c) {n : Nat} {cs rest : List Char}

include mark

theorem count_append_digits {digits : List Char} (all : AllDigits digits) :
    (digits ++ rest).count c = rest.count c := by
  have absent : digits.count c = 0 := List.count_eq_zero_of_not_mem fun member =>
    Bool.false_ne_true (mark.noDigit.symm.trans (all c member))
  rw [List.count_append, absent, Nat.zero_add]

theorem count_skipBlanks (cs : List Char) : (skipBlanks cs).count c = cs.count c := by
  have absent : (cs.takeWhile isBlank).count c = 0 := List.count_eq_zero_of_not_mem fun member =>
    Bool.false_ne_true (mark.solid.symm.trans (List.all_eq_true.1 List.all_takeWhile c member))
  rw [← Nat.zero_add ((skipBlanks cs).count c), ← absent, skipBlanks, ← List.count_append,
    List.takeWhile_append_dropWhile]

theorem count_takeDigits? {width : Nat} (taken : takeDigits? width cs = some (n, rest)) :
    cs.count c = rest.count c := by
  obtain ⟨digits, rfl, all, -⟩ := exists_digits_of_takeDigits? taken
  exact mark.count_append_digits all

theorem count_takeYear? {year : Int} (taken : takeYear? cs = some (year, rest)) :
    cs.count c = rest.count c := by
  obtain ⟨minus, plus, -⟩ := mark.noSign
  unfold takeYear? at taken
  split at taken <;>
    simp only [Option.map_eq_some_iff, Prod.exists, Prod.mk.injEq] at taken <;>
    obtain ⟨n, rest, taken, -, rfl⟩ := taken
  · rw [List.count_cons_of_ne minus.symm, mark.count_takeDigits? taken]
  · rw [List.count_cons_of_ne plus.symm, mark.count_takeDigits? taken]
  · exact mark.count_takeDigits? taken

theorem count_take? {item : FormatItem} {p q : DateParts}
    (taken : item.take? p cs = some (q, rest)) :
    cs.count c = [item].count (.exactly c) + rest.count c := by
  cases item with
  | year =>
    simp only [FormatItem.take?, Option.map_eq_some_iff, Prod.exists, Prod.mk.injEq] at taken
    obtain ⟨n, rest, taken, -, rfl⟩ := taken
    rw [← mark.count_skipBlanks cs, mark.count_takeYear? taken]
    simp
  | month | day | hour | minute | second =>
    simp only [FormatItem.take?, Option.map_eq_some_iff, Prod.exists, Prod.mk.injEq] at taken
    obtain ⟨n, rest, taken, -, rfl⟩ := taken
    rw [← mark.count_skipBlanks cs, mark.count_takeDigits? taken]
    simp
  | fraction =>
    simp only [FormatItem.take?] at taken
    split at taken
    next cs =>
      simp only [Option.map_eq_some_iff, Prod.exists, Prod.mk.injEq] at taken
      obtain ⟨n, rest, taken, -, rfl⟩ := taken
      obtain ⟨digits, rfl, all⟩ := exists_digits_of_takeNanos? taken
      rw [List.count_cons_of_ne mark.noSign.2.2.symm, mark.count_append_digits all]
      simp
    next =>
      obtain ⟨-, rfl⟩ := Prod.mk.inj (Option.some.inj taken)
      simp
  | blanks =>
    obtain ⟨-, rfl⟩ := Prod.mk.inj (Option.some.inj taken)
    rw [mark.count_skipBlanks]
    simp
  | exactly d =>
    obtain ⟨rfl, rfl⟩ := FormatItem.take?_exactly_iff.1 taken
    simp [List.count_cons, Nat.add_comm]

theorem count_parts? {format : DateFormat} {p q : DateParts}
    (read : format.parts? p cs = some q) : cs.count c = format.count (.exactly c) := by
  induction format generalizing p cs with
  | nil =>
    cases cs with
    | nil => rfl
    | cons => simp [DateFormat.parts?] at read
  | cons item items ih =>
    obtain ⟨⟨p', rest⟩, taken, read⟩ := Option.bind_eq_some_iff.1 read
    rw [mark.count_take? taken, ih read, ← List.count_append, List.singleton_append]

end IsMark

end FieldRules
