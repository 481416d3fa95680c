import FieldRules.Json.Reader
import FieldRules.Proofs.Number.Scaling
import Mathlib.Data.List.Forall2

set_option autoImplicit false

namespace FieldRules.Document

theorem isGap_iff {c : Char} : isGap c = true ↔ c = ' ' ∨ c = '\t' ∨ c = '\n' ∨ c = '\r' := by
  simp [isGap, or_assoc]

theorem isBlank_of_isGap {c : Char} (gap : isGap c = true) : isBlank c = true := by
  rcases isGap_iff.1 gap with rfl | rfl | rfl | rfl <;> decide

theorem skipGap_of_solid {c : Char} (solid : isGap c = false) (cs : List Char) :
    skipGap (c :: cs) = c :: cs := by
  simp [skipGap, solid]

theorem skipGap_append {gap : List Char} (gaps : ∀ c ∈ gap, isGap c = true) (cs : List Char) :
    skipGap (gap ++ cs) = skipGap cs := List.dropWhile_append_of_pos gaps

theorem skipGap_skipGap (cs : List Char) : skipGap (skipGap cs) = skipGap cs := by
  induction cs with
  | nil => rfl
  | cons c cs ih =>
    cases gap : isGap c with
    | true => simpa [skipGap, gap] using ih
    | false => rw [skipGap_of_solid gap, skipGap_of_solid gap]

theorem takeValue_skipGap (fuel room : Nat) (cs : List Char) :
    takeValue fuel room (skipGap cs) = takeValue fuel room cs := by
  cases fuel with
  | zero => simp [takeValue]
  | succ fuel => rw [takeValue, takeValue, skipGap_skipGap]

theorem takeItems_skipGap (fuel room : Nat) (cs : List Char) :
    takeItems fuel room (skipGap cs) = takeItems fuel room cs := by
  cases fuel with
  | zero => simp [takeItems]
  | succ fuel => rw [takeItems, takeItems, takeValue_skipGap]

theorem takeWhole_toDigits (n : Nat) {rest : List Char} (stop : NoDigitFirst rest) :
    takeWhole (Nat.toDigits 10 n ++ rest) = some (Nat.toDigits 10 n, rest) := by
  have all := allDigits_toDigits n
  unfold takeWhole
  rw [takeWhile_run all stop, dropWhile_run all stop]
  split
  next none => exact absurd none Nat.toDigits_ne_nil
  next zero => exact absurd zero (toDigits_ne_zero_cons n _ _)
  next => rfl

def EndsNumber (cs : List Char) : Prop :=
  ∀ c ∈ cs.head?, c.isDigit = false ∧ c ≠ '.' ∧ c ≠ 'e' ∧ c ≠ 'E'

theorem takeFraction_of_ends {cs : List Char} (ends : EndsNumber cs) :
    takeFraction cs = ([], cs) := by
  cases cs with
  | nil => rfl
  | cons c cs =>
    obtain ⟨-, point, -, -⟩ := ends c rfl
    simp [takeFraction, point]

theorem takeExponent_of_ends {cs : List Char} (ends : EndsNumber cs) :
    takeExponent cs = some (none, cs) := by
  cases cs with
  | nil => rfl
  | cons c cs =>
    obtain ⟨-, -, small, large⟩ := ends c rfl
    simp [takeExponent, small, large]

theorem fillWord_append {n m : Nat} {xs left : List Char} (filled : fillWord n xs = (m, left))
    (ys : List Char) :
    fillWord n (xs ++ ys) = if left = [] then fillWord m ys else (m, left ++ ys) := by
  induction xs generalizing n with
  | nil =>
    simp only [fillWord, Prod.mk.injEq] at filled
    obtain ⟨rfl, rfl⟩ := filled
    simp
  | cons x xs ih =>
    simp only [fillWord, List.cons_append] at filled ⊢
    split
    next fits =>
      rw [if_pos fits] at filled
      exact ih filled
    next overflow =>
      rw [if_neg overflow, Prod.mk.injEq] at filled
      obtain ⟨rfl, rfl⟩ := filled
      simp

theorem fillWord_digit (n : Nat) {d : Nat} (digit : d < 10) :
    fillWord n [d.digitChar] =
      if 10 * n + d < 2 ^ 64 then (10 * n + d, []) else (n, [d.digitChar]) := by
  have value : d.digitChar.toNat - '0'.toNat = d := Nat.toNat_digitChar_sub_48_of_lt_ten digit
  simp only [fillWord, value]

theorem fillWord_toDigits (n : Nat) :
    ∃ left, fillWord 0 (Nat.toDigits 10 n) = (n / 10 ^ excessDigits n, left) ∧
      left.length = excessDigits n := by
  induction n using Nat.strongRecOn with
  | ind n ih =>
    by_cases digit : n < 10
    next =>
      have word : n < 2 ^ 64 := by omega
      refine ⟨[], ?_, by rw [excessDigits_of_lt word]; rfl⟩
      rw [Nat.toDigits_of_lt_base digit, fillWord_digit 0 digit, excessDigits_of_lt word]
      simp [word]
    next =>
      obtain ⟨left, filled, count⟩ := ih (n / 10) (by omega)
      have last : n % 10 < 10 := Nat.mod_lt n (by decide)
      have whole : 10 * (n / 10) + n % 10 = n := Nat.div_add_mod n 10
      rw [Nat.toDigits_of_base_le (by decide) (by omega), fillWord_append filled]
      by_cases word : n < 2 ^ 64
      next =>
        have word' : n / 10 < 2 ^ 64 := by omega
        rw [excessDigits_of_lt word', List.length_eq_zero_iff] at count
        refine ⟨[], ?_, by rw [excessDigits_of_lt word]; rfl⟩
        rw [if_pos count, excessDigits_of_lt word', excessDigits_of_lt word, Nat.pow_zero,
          Nat.div_one, Nat.div_one, fillWord_digit _ last, whole, if_pos word]
      next =>
        rw [excessDigits_of_le (Nat.not_lt.1 word), div_ten_pow_succ]
        refine ⟨left ++ [(n % 10).digitChar], ?_, by simp [count]⟩
        split
        next none =>
          -- The last digit is the first that does not fit.
          subst none
          have word' : n / 10 < 2 ^ 64 := by
            by_cases above : n / 10 < 2 ^ 64
            · exact above
            · rw [excessDigits_of_le (Nat.not_lt.1 above)] at count
              simp at count
          rw [excessDigits_of_lt word', Nat.pow_zero, Nat.div_one, fillWord_digit _ last, whole,
            if_neg word, List.nil_append]
        next => rfl

theorem takeNumber_signed (n : Nat) {rest : List Char} (ends : EndsNumber rest) (negative : Bool) :
    takeNumber (signed negative (Nat.toDigits 10 n ++ rest)) =
      some (integer? negative (n / 10 ^ excessDigits n) (excessDigits n), rest) := by
  have stop : NoDigitFirst rest := fun c first => (ends c first).1
  have whole := takeWhole_toDigits n stop
  have point : rest.head? ≠ some '.' := by
    intro first
    obtain ⟨-, other, -⟩ := ends '.' first
    contradiction
  have fraction := takeFraction_of_ends ends
  have exponent := takeExponent_of_ends ends
  obtain ⟨left, filled, count⟩ := fillWord_toDigits n
  unfold takeNumber
  cases negative with
  | true =>
    simp only [signed, if_true, whole, fraction, exponent, filled, count, Option.bind_eq_bind,
      Option.bind_some, beq_eq_false_iff_ne.2 point, Bool.false_and, Bool.not_false,
      Option.isNone_none, Bool.and_self, Bool.false_eq_true, if_false]
  | false =>
    obtain ⟨c, cs, text⟩ := List.exists_cons_of_ne_nil (Nat.toDigits_ne_nil (n := n) (b := 10))
    have digit := allDigits_toDigits n c (by simp [text])
    have minus : c ≠ '-' := by
      rintro rfl
      simp at digit
    rw [text] at whole filled ⊢
    rw [List.cons_append] at whole
    simp [signed, minus, whole, fraction, exponent, point, filled, count]

-- What is read of an integer that is written without point and exponent.
def writtenInteger? (n : Int) : Option Number :=
  integer? (decide (n < 0)) (n.natAbs / 10 ^ excessDigits n.natAbs) (excessDigits n.natAbs)

theorem takeNumber_integerDigits (n : Int) {rest : List Char} (ends : EndsNumber rest) :
    takeNumber (integerDigits n ++ rest) = some (writtenInteger? n, rest) := by
  have read := takeNumber_signed n.natAbs ends (decide (n < 0))
  by_cases negative : n < 0
  next => simpa [writtenInteger?, integerDigits, signed, negative] using read
  next => simpa [writtenInteger?, integerDigits, signed, negative] using read

theorem isGap_of_number {c : Char} (first : c.isDigit = true ∨ c = '-') : isGap c = false := by
  apply Bool.eq_false_iff.2
  intro gap
  rcases isGap_iff.1 gap with rfl | rfl | rfl | rfl <;> exact absurd first (by decide)

theorem takeValue_of_number {c : Char} (first : c.isDigit = true ∨ c = '-')
    {text cs left : List Char} (solid : skipGap text = c :: cs) {number : Option Number}
    (read : takeNumber (c :: cs) = some (number, left)) (fuel room : Nat) :
    takeValue (fuel + 1) room text = some ((number.map .number).getD .unreadable, left) := by
  have opens : c ≠ 'n' ∧ c ≠ 't' ∧ c ≠ 'f' ∧ c ≠ '"' ∧ c ≠ '[' ∧ c ≠ '{' := by
    refine ⟨?_, ?_, ?_, ?_, ?_, ?_⟩ <;>
      (rintro rfl; exact absurd first (by decide))
  simp only [takeValue, solid]
  simp [opens, read]

theorem exists_integer? (negative : Bool) {m k p : Nat} (word : m < 2 ^ 64) (inRange : k ≤ 308)
    (product : nearestUnits m 1 * nearestUnits (10 ^ k) 1 = p)
    (near : nearestUnits p 1 < 2 ^ 1024) :
    ∃ number, integer? negative m k = some number ∧
      number.value.toUnits = nearestInt (if negative then -(p : Int) else p) * unitsPerOne := by
  have exact (none : k = 0) : nearestInt p = nearestInt m := by
    have one : nearestUnits 1 1 = 1 := by decide +kernel
    rw [none, Nat.pow_zero, one, Nat.mul_one] at product
    rw [← product, ← nearestInt_natCast, nearestInt_nearestInt]
  unfold integer?
  split
  next small =>
    obtain ⟨none, rfl, -⟩ := small
    refine ⟨_, rfl, ?_⟩
    rw [Number.value, Binary64.toUnits_ofInt, if_pos rfl, nearestInt_neg, nearestInt_neg,
      exact none]
  next =>
    split
    next small =>
      obtain ⟨none, rfl, -⟩ := small
      refine ⟨_, rfl, ?_⟩
      rw [Number.value, Binary64.toUnits_ofInt, if_neg Bool.false_ne_true, exact none]
    next =>
      obtain ⟨x, read, units⟩ := Binary64.ofQuotient?_units_of_lt negative near
      refine ⟨.float x, ?_, units⟩
      rw [Binary64.ofParts?_of_le negative word inRange, product, read, Option.map_some]

theorem exists_writtenInteger? {n : Int} (parts : HasParts n) :
    ∃ number, writtenInteger? n = some number ∧
      number.value.toUnits = nearestInt (partsProduct n) * unitsPerOne := by
  obtain ⟨inRange, near⟩ := parts
  have product := partsProduct_natCast n.natAbs
  rw [HasNearest, natAbs_partsProduct, product, Int.natAbs_natCast] at near
  obtain ⟨number, read, units⟩ :=
    exists_integer? (decide (n < 0)) (div_excess_lt n.natAbs) inRange rfl near
  refine ⟨number, read, ?_⟩
  rw [units, partsProduct_eq, product]
  simp only [decide_eq_true_iff]

theorem writtenInteger?_of_not_hasParts {n : Int} (tooLarge : ¬ HasParts n) :
    writtenInteger? n = none := by
  have some : 2 ^ 64 ≤ n.natAbs := by
    by_cases large : 2 ^ 64 ≤ n.natAbs
    · exact large
    · exact absurd (hasParts_of_lt (Nat.not_le.1 large)) tooLarge
  have left : excessDigits n.natAbs ≠ 0 := by
    rw [excessDigits_of_le some]
    exact Nat.succ_ne_zero _
  have word := div_excess_lt n.natAbs
  rw [writtenInteger?, integer?, dif_neg (by simp [left]), dif_neg (by simp [left]),
    Option.map_eq_none_iff]
  by_cases inRange : excessDigits n.natAbs ≤ 308
  next =>
    have large : ¬ HasNearest (partsProduct n) := fun near => tooLarge ⟨inRange, near⟩
    rw [HasNearest, natAbs_partsProduct, partsProduct_natCast, Int.natAbs_natCast] at large
    rw [Binary64.ofParts?_of_le _ word inRange]
    exact Binary64.ofQuotient?_units_of_not_lt _ large
  next =>
    have nonzero := le_div_excess (n := n.natAbs) (by omega)
    exact Binary64.ofParts?_of_lt _ word (by omega) (Nat.not_le.1 inRange)

theorem joinPairs?_toNat_cons (c : Char) (ns : List Nat) :
    joinPairs? (c.toNat :: ns) = (joinPairs? ns).map (c :: ·) := by
  -- No character is half of a pair.
  have valid : c.toNat < 0xD800 ∨ 0xDFFF < c.toNat ∧ c.toNat < 0x110000 := c.valid
  have high : ¬ (0xD800 ≤ c.toNat ∧ c.toNat < 0xDC00) := by omega
  have low : ¬ (0xDC00 ≤ c.toNat ∧ c.toNat < 0xE000) := by omega
  rw [joinPairs?.eq_def]
  simp only [if_neg high, if_neg low, Char.ofNat_toNat]

-- The text of an item, with gaps. It ends at a comma or a bracket, whichever is put behind it.
def ItemText (piece : List Char) (d : Document) : Prop :=
  ∀ (fuel room : Nat) (stop : Char) (rest : List Char), stop = ',' ∨ stop = ']' →
    ∃ left, takeValue (fuel + 1) room (piece ++ stop :: rest) = some (d, left) ∧
      skipGap left = stop :: rest

theorem skipGap_append_stop {back : List Char} (gaps : ∀ c ∈ back, isGap c = true) {stop : Char}
    (stops : stop = ',' ∨ stop = ']') (rest : List Char) :
    skipGap (back ++ stop :: rest) = stop :: rest := by
  rw [skipGap_append gaps]
  rcases stops with rfl | rfl <;> exact skipGap_of_solid (by decide) rest

theorem endsNumber_of_stop {back : List Char} (gaps : ∀ c ∈ back, isGap c = true) {stop : Char}
    (stops : stop = ',' ∨ stop = ']') (rest : List Char) : EndsNumber (back ++ stop :: rest) := by
  intro c first
  have between : isGap c = true ∨ c = ',' ∨ c = ']' := by
    cases back with
    | nil =>
      obtain rfl : stop = c := by simpa using first
      exact .inr stops
    | cons d back =>
      obtain rfl : d = c := by simpa using first
      exact .inl (gaps d (by simp))
  rcases between with gap | rfl | rfl
  · rcases isGap_iff.1 gap with rfl | rfl | rfl | rfl <;> decide
  · decide
  · decide

theorem itemText_integer {front back : List Char} (gapFront : ∀ c ∈ front, isGap c = true)
    (gapBack : ∀ c ∈ back, isGap c = true) (n : Int) :
    ItemText (front ++ integerDigits n ++ back)
      (((writtenInteger? n).map .number).getD .unreadable) := by
  intro fuel room stop rest stops
  refine ⟨back ++ stop :: rest, ?_, skipGap_append_stop gapBack stops rest⟩
  have ends := endsNumber_of_stop gapBack stops rest
  obtain ⟨c, cs, text, first⟩ := exists_integerDigits n
  have number := takeNumber_integerDigits n ends
  have solid : skipGap (front ++ integerDigits n ++ back ++ stop :: rest) =
      c :: (cs ++ (back ++ stop :: rest)) := by
    rw [List.append_assoc, List.append_assoc, skipGap_append gapFront, text]
    exact skipGap_of_solid (isGap_of_number first) _
  rw [text] at number
  exact takeValue_of_number first solid number fuel room

theorem takeValue_of_takeText {front written rest : List Char} {s : String}
    (gapFront : ∀ c ∈ front, isGap c = true)
    (read : takeText (written ++ '"' :: rest) = some (some s, rest)) (fuel room : Nat) :
    takeValue (fuel + 1) room (front ++ '"' :: (written ++ '"' :: rest)) =
      some (.text s, rest) := by
  have solid : skipGap ('"' :: (written ++ '"' :: rest)) = '"' :: (written ++ '"' :: rest) :=
    skipGap_of_solid (by decide) _
  rw [takeValue, skipGap_append gapFront, solid]
  simp [read]

theorem itemText_of_takeText {front back : List Char} (gapFront : ∀ c ∈ front, isGap c = true)
    (gapBack : ∀ c ∈ back, isGap c = true) {written : List Char} {s : String}
    (read : ∀ rest, takeText (written ++ '"' :: rest) = some (some s, rest)) :
    ItemText (front ++ '"' :: (written ++ ['"']) ++ back) (.text s) := by
  intro fuel room stop rest stops
  refine ⟨back ++ stop :: rest, ?_, skipGap_append_stop gapBack stops rest⟩
  have value := takeValue_of_takeText gapFront (read (back ++ stop :: rest)) fuel room
  simpa using value

theorem takeItems_of_itemTexts {pieces : List (List Char)} {ds : List Document}
    (items : List.Forall₂ ItemText pieces ds) (nonempty : pieces ≠ []) {fuel : Nat}
    (enough : pieces.length < fuel) (room : Nat) (rest : List Char) :
    takeItems fuel room (List.intercalate [','] pieces ++ ']' :: rest) = some (ds, rest) := by
  induction items generalizing fuel with
  | nil => contradiction
  | @cons piece d pieces ds item items ih =>
    obtain ⟨fuel, rfl⟩ : ∃ k, fuel = k + 2 := ⟨fuel - 2, by simp at enough; omega⟩
    cases items with
    | nil =>
      obtain ⟨left, value, bracket⟩ := item fuel room ']' rest (.inr rfl)
      simp [takeItems, value, bracket]
    | @cons next e pieces ds item' items =>
      have fewer : (next :: pieces).length < fuel + 1 := by
        simp at enough ⊢
        omega
      have later := ih (by simp) fewer
      obtain ⟨left, value, comma⟩ := item fuel room ','
        (List.intercalate [','] (next :: pieces) ++ ']' :: rest) (.inl rfl)
      rw [List.intercalate_cons_cons, takeItems]
      simp [value, comma, later]

theorem length_le_intercalate (pieces : List (List Char)) :
    pieces.length ≤ (List.intercalate [','] pieces).length + 1 := by
  induction pieces with
  | nil => simp
  | cons piece pieces ih =>
    cases pieces with
    | nil => simp
    | cons next pieces =>
      rw [List.intercalate_cons_cons]
      simp at ih ⊢
      omega

theorem takeItems_of_bracket {fuel room : Nat} {text rest : List Char}
    (bracket : skipGap text = ']' :: rest) : takeItems fuel room text = none := by
  cases fuel with
  | zero => simp [takeItems]
  | succ fuel =>
    cases fuel with
    | zero => simp [takeItems, takeValue]
    | succ fuel =>
      have number : takeNumber (']' :: rest) = none := rfl
      simp [takeItems, takeValue, bracket, number]

theorem takeValue_array {fuel room : Nat} {text rest : List Char} {ds : List Document}
    (items : takeItems fuel room text = some (ds, rest)) :
    takeValue (fuel + 1) (room + 1) ('[' :: text) = some (.array ds, rest) := by
  have solid : skipGap ('[' :: text) = '[' :: text := skipGap_of_solid (by decide) text
  simp only [takeValue, solid]
  split
  next bracket => simp [takeItems_of_bracket bracket] at items
  next => simp [takeItems_skipGap, items]

theorem read?_array {pieces : List (List Char)} {ds : List Document}
    (items : List.Forall₂ ItemText pieces ds) (nonempty : pieces ≠ []) :
    read? ('[' :: (List.intercalate [','] pieces ++ [']'])) = some (.array ds) := by
  have enough :
      pieces.length < 2 * ('[' :: (List.intercalate [','] pieces ++ [']'])).length + 1 := by
    have size := length_le_intercalate pieces
    simp
    omega
  have value := takeValue_array (takeItems_of_itemTexts items nonempty enough 126 [])
  rw [read?, value]
  rfl

theorem read?_no_items {gap : List Char} (gaps : ∀ c ∈ gap, isGap c = true) :
    read? ('[' :: (gap ++ [']'])) = some (.array []) := by
  have bracket := skipGap_append_stop gaps (.inr rfl) []
  have solid : skipGap ('[' :: (gap ++ [']'])) = '[' :: (gap ++ [']']) :=
    skipGap_of_solid (by decide) _
  have value (fuel : Nat) : takeValue (fuel + 1) 127 ('[' :: (gap ++ [']'])) =
      some (.array [], []) := by
    simp [takeValue, solid, bracket]
  rw [read?, value]
  rfl

end FieldRules.Document
