import FieldRules.Number.Reading
import FieldRules.Proofs.Number.Rounding
import FieldRules.Proofs.Text.Blank
import FieldRules.Proofs.Text.Run

set_option autoImplicit false

namespace FieldRules

def AllDigits (cs : List Char) : Prop := ∀ c ∈ cs, c.isDigit = true

instance (cs : List Char) : Decidable (AllDigits cs) :=
  List.decidableBAll (fun c : Char => c.isDigit = true) cs

def NoDigitFirst (cs : List Char) : Prop := ∀ c ∈ cs.head?, c.isDigit = false

theorem noDigitFirst_nil : NoDigitFirst [] := by simp [NoDigitFirst]

theorem noDigitFirst_cons {c : Char} (noDigit : c.isDigit = false) (cs : List Char) :
    NoDigitFirst (c :: cs) := by simpa [NoDigitFirst] using noDigit

theorem AllDigits.append {xs ys : List Char} (left : AllDigits xs) (right : AllDigits ys) :
    AllDigits (xs ++ ys) := by
  intro c member
  rcases List.mem_append.1 member with member | member
  · exact left c member
  · exact right c member

theorem allDigits_replicate_zero (n : Nat) : AllDigits (List.replicate n '0') := by
  intro c member
  rw [List.eq_of_mem_replicate member]
  decide

theorem allDigits_toDigits (n : Nat) : AllDigits (Nat.toDigits 10 n) := fun _ =>
  Nat.isDigit_of_mem_toDigits (by decide) (by decide)

theorem AllDigits.all_isDigit {cs : List Char} (digits : AllDigits cs) :
    cs.all Char.isDigit = true := List.all_eq_true.2 digits

theorem takeFraction_point {digits rest : List Char} (all : AllDigits digits)
    (stop : NoDigitFirst rest) : takeFraction ('.' :: (digits ++ rest)) = (digits, rest) := by
  simp [takeFraction, takeWhile_run all stop, dropWhile_run all stop]

theorem takeSign_of_isDigit {c : Char} (digit : c.isDigit = true) (cs : List Char) :
    takeSign (c :: cs) = (false, c :: cs) := by
  have minus : c ≠ '-' := by rintro rfl; simp at digit
  have plus : c ≠ '+' := by rintro rfl; simp at digit
  simp [takeSign, minus, plus]

theorem digitsValue_append (xs ys : List Char) :
    digitsValue (xs ++ ys) = Nat.ofDigitChars 10 ys (digitsValue xs) :=
  Nat.ofDigitChars_append 0

theorem digitsValue_toDigits (n : Nat) : digitsValue (Nat.toDigits 10 n) = n :=
  Nat.ofDigitChars_toDigits (by decide) (by decide)

theorem ofDigitChars_zeros (n k : Nat) :
    Nat.ofDigitChars 10 (List.replicate k '0') n = n * 10 ^ k := by
  rw [Nat.ofDigitChars_replicate_zero, Nat.mul_comm]

theorem digitsValue_append_zeros (cs : List Char) (k : Nat) :
    digitsValue (cs ++ List.replicate k '0') = digitsValue cs * 10 ^ k := by
  rw [digitsValue_append, ofDigitChars_zeros]

theorem digitsValue_zeros_append (k : Nat) (cs : List Char) :
    digitsValue (List.replicate k '0' ++ cs) = digitsValue cs := by
  have zero : digitsValue (List.replicate k '0') = 0 :=
    (ofDigitChars_zeros 0 k).trans (Nat.zero_mul _)
  rw [digitsValue_append, zero]
  rfl

-- A minus sign stands in front of a negative number, and nothing in front of another.
def signed (negative : Bool) (cs : List Char) : List Char := if negative then '-' :: cs else cs

theorem takeSign_signed {whole : List Char} (some : whole ≠ []) (digits : AllDigits whole)
    (negative : Bool) (rest : List Char) :
    takeSign (signed negative (whole ++ rest)) = (negative, whole ++ rest) := by
  cases negative with
  | true => rfl
  | false =>
    obtain ⟨c, cs, rfl⟩ := List.exists_cons_of_ne_nil some
    exact takeSign_of_isDigit (digits c (by simp)) _

theorem ofText?_signed {whole rest fraction tail : List Char} {exponent : Int} (some : whole ≠ [])
    (digits : AllDigits whole) (stop : NoDigitFirst rest)
    (split : takeFraction rest = (fraction, tail))
    (power : readExponent? tail = .some exponent) (negative : Bool) :
    Binary64.ofText? (signed negative (whole ++ rest)) =
      Binary64.ofDecimal? negative (digitsValue (whole ++ fraction))
        (exponent - fraction.length) := by
  simp [Binary64.ofText?, takeSign_signed some digits, takeWhile_run digits stop,
    dropWhile_run digits stop, split, power, some]

-- The characters that numbers are written with.
def IsNumeral (c : Char) : Prop := c.isDigit = true ∨ c ∈ ['+', '-', '.', 'e', 'E']

instance (c : Char) : Decidable (IsNumeral c) := instDecidableOr

theorem isBlank_of_isNumeral {c : Char} (numeral : IsNumeral c) : isBlank c = false := by
  rcases numeral with digit | mark
  · exact isBlank_of_isDigit digit
  · have solid : ∀ c ∈ ['+', '-', '.', 'e', 'E'], isBlank c = false := by
      simp [isBlank, blankRanges]
    exact solid c mark

theorem isNumeral_of_takeSign {c : Char} {cs : List Char} (member : c ∈ cs) :
    IsNumeral c ∨ c ∈ (takeSign cs).2 := by
  unfold takeSign
  split
  · exact (List.mem_cons.1 member).imp_left fun sign => .inr (by simp [sign])
  · exact (List.mem_cons.1 member).imp_left fun sign => .inr (by simp [sign])
  · exact .inr member

theorem isNumeral_of_takeFraction {c : Char} {cs : List Char} (member : c ∈ cs) :
    IsNumeral c ∨ c ∈ (takeFraction cs).2 := by
  unfold takeFraction
  split
  next behind =>
    rcases List.mem_cons.1 member with rfl | member
    · exact .inl (.inr (by simp))
    · rw [← List.takeWhile_append_dropWhile (p := Char.isDigit) (l := behind)] at member
      exact (List.mem_append.1 member).imp_left fun digit =>
        .inl (List.all_eq_true.1 List.all_takeWhile c digit)
  next => exact .inr member

theorem isNumeral_of_readExponent? {cs : List Char} {n : Int} (read : readExponent? cs = some n) :
    ∀ c ∈ cs, IsNumeral c := by
  intro c member
  unfold readExponent? at read
  split at read
  next => simp at member
  next letter behind =>
    dsimp only at read
    split at read
    next exponent =>
      obtain ⟨isLetter, -, digits⟩ := exponent
      rcases List.mem_cons.1 member with rfl | member
      · rcases isLetter with rfl | rfl <;> exact .inr (by simp)
      · rcases isNumeral_of_takeSign member with sign | member
        · exact sign
        · exact .inl (List.all_eq_true.1 digits c member)
    next => contradiction

theorem isNumeral_of_ofText? {cs : List Char} {x : Binary64} (read : Binary64.ofText? cs = some x) :
    ∀ c ∈ cs, IsNumeral c := by
  intro c member
  unfold Binary64.ofText? at read
  dsimp only at read
  split at read
  next => contradiction
  next =>
    simp only [bind, Option.bind_eq_some_iff] at read
    obtain ⟨exponent, power, -⟩ := read
    rcases isNumeral_of_takeSign member with sign | member
    · exact sign
    · rw [← List.takeWhile_append_dropWhile (p := Char.isDigit) (l := (takeSign cs).2)] at member
      rcases List.mem_append.1 member with digit | member
      · exact .inl (List.all_eq_true.1 List.all_takeWhile c digit)
      · rcases isNumeral_of_takeFraction member with numeral | member
        · exact numeral
        · exact isNumeral_of_readExponent? power c member

theorem trimBlanks_ne_nil_of_readNumber? {cs : List Char} {x : Binary64}
    (read : readNumber? cs = some x) : trimBlanks cs ≠ [] := by
  intro empty
  have none : Binary64.ofText? [] = none := rfl
  simp [readNumber?, empty, none] at read

theorem not_mem_of_readNumber? {cs : List Char} {x : Binary64} (read : readNumber? cs = some x)
    {c : Char} (other : ¬ IsNumeral c) (solid : isBlank c = false) : c ∉ cs := by
  intro member
  exact other (isNumeral_of_ofText? read c (mem_trimBlanks member solid))

-- Blanks in front go, and a numeral stays.
theorem exists_head?_trimBlanks {cs : List Char} {x : Binary64} (read : readNumber? cs = some x)
    (rest : List Char) : ∃ c, (trimBlanks (cs ++ rest)).head? = some c ∧ IsNumeral c := by
  obtain ⟨front, back, blank, -, whole⟩ := exists_trimBlanks cs
  obtain ⟨c, inside, kept⟩ := List.exists_cons_of_ne_nil (trimBlanks_ne_nil_of_readNumber? read)
  have numeral : IsNumeral c := isNumeral_of_ofText? read c (by simp [kept])
  refine ⟨c, ?_, numeral⟩
  rw [whole, kept, List.append_assoc, List.append_assoc, trimBlanks_append_left blank,
    List.cons_append, head?_trimBlanks (isBlank_of_isNumeral numeral)]

theorem length_pos_of_readNumber? {cs : List Char} (number : (readNumber? cs).isSome = true) :
    0 < cs.length := by
  obtain ⟨x, read⟩ := Option.isSome_iff_exists.1 number
  refine Nat.lt_of_lt_of_le ?_ (length_trimBlanks_le cs)
  exact List.length_pos_iff.2 (trimBlanks_ne_nil_of_readNumber? read)

theorem signed_solid (negative : Bool) {cs : List Char} (solid : ∀ c ∈ cs, isBlank c = false) :
    ∀ c ∈ signed negative cs, isBlank c = false := by
  cases negative with
  | true => exact List.forall_mem_cons.2 ⟨by decide, solid⟩
  | false => exact solid

end FieldRules
