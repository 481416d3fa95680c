import FieldRules.Proofs.Check.Magnitude
import FieldRules.Proofs.Number.Digits

set_option autoImplicit false

namespace FieldRules

namespace Numeral

-- What the text behind the first digits makes of them.
def placesBehind? : List Char → Option Nat
  | [] => some 0
  | '.' :: fraction =>
    if fraction ≠ [] ∧ fraction.all Char.isDigit then some fraction.length else none
  | _ => none

theorem places?_signed {whole rest : List Char} (some : whole ≠ []) (digits : AllDigits whole)
    (stop : NoDigitFirst rest) (negative : Bool) :
    places? (signed negative (whole ++ rest)) = placesBehind? rest := by
  have plain : places? (whole ++ rest) = places? (signed true (whole ++ rest)) := by
    obtain ⟨c, cs, rfl⟩ := List.exists_cons_of_ne_nil some
    have noSign : c ≠ '-' := by
      rintro rfl
      exact absurd (digits '-' (by simp)) (by decide)
    simp [places?, signed, noSign]
  have signless : places? (signed negative (whole ++ rest)) =
      places? (signed true (whole ++ rest)) := by
    cases negative with
    | true => rfl
    | false => exact plain
  rw [signless]
  simp only [places?, signed, if_true, takeWhile_run digits stop, dropWhile_run digits stop,
    if_neg some]
  rfl

theorem places?_whole {whole : List Char} (some : whole ≠ []) (digits : AllDigits whole)
    (negative : Bool) : places? (signed negative whole) = .some 0 := by
  have read : places? (signed negative (whole ++ [])) = placesBehind? [] :=
    places?_signed some digits (by simp [NoDigitFirst]) negative
  rwa [List.append_nil] at read

theorem places?_positional {d : Decimal} (written : d.Written) (negative : Bool) :
    places? (signed negative d.positional) = some d.fraction.length := by
  have fraction : d.fraction ≠ [] := by
    rw [← List.length_pos_iff, d.length_fraction written]
    omega
  have all := (Decimal.allDigits_fraction written).all_isDigit
  rw [Decimal.positional, places?_signed (Decimal.whole_ne_nil written)
    (Decimal.allDigits_whole written) (by simp [NoDigitFirst])]
  simp [placesBehind?, fraction, all]

theorem places?_scientific {d : Decimal} (written : d.Written) (negative : Bool) :
    places? (signed negative d.scientific) = none := by
  obtain ⟨first, others, digits, text⟩ := Decimal.exists_scientific written
  have front : AllDigits [first] := fun c member =>
    written.digits c (by simp [digits, List.mem_singleton.1 member])
  rcases text with ⟨-, text⟩ | text
  · rw [text, places?_signed (by simp) front (by simp [NoDigitFirst, Decimal.exponentText])]
    rfl
  · have letter : ¬ (others ++ d.exponentText).all Char.isDigit = true := by
      simp [Decimal.exponentText]
    rw [text, places?_signed (by simp) front (by simp [NoDigitFirst])]
    exact if_neg fun both => letter both.2

end Numeral

namespace Number

theorem writtenOut_iff (leading : Int) :
    writtenOut leading = true ↔ -5 ≤ leading ∧ leading ≤ 15 := by
  simp [writtenOut]

def writtenInFull : Number → Bool
  | .int .. => true
  | .float x => writtenOut x.shortest.leading

def places : Number → Nat
  | .int .. => 0
  | .float x => x.shortest.fraction.length

theorem places?_text (n : Number) :
    Numeral.places? n.text = if n.writtenInFull then some n.places else none := by
  cases n with
  | int n inRange =>
    rw [text_int, Numeral.places?_whole Nat.toDigits_ne_nil (allDigits_toDigits _)]
    rfl
  | float x =>
    rw [text_float, writtenInFull, places]
    split
    next => exact Numeral.places?_positional x.shortest_written x.negative
    next => exact Numeral.places?_scientific x.shortest_written x.negative

theorem places_lt {n : Number} (full : n.writtenInFull = true) : n.places < 2 ^ 53 := by
  cases n with
  | int n inRange => exact Nat.two_pow_pos 53
  | float x =>
    have leading := (writtenOut_iff x.shortest.leading).1 full
    have short := x.length_shortest_le
    rw [places, Decimal.length_fraction x.shortest_written]
    omega

end Number

theorem placesParam_of_read {param : Option String} {x : Binary64} {n : Nat}
    (read : numberParam param = .ok x) (whole : x.toUnits = (n : Int) * unitsPerOne) :
    placesParam param = .ok n := by
  have positive : ¬ x.toUnits < 0 := by
    rw [whole, ← Int.natCast_mul]
    exact Int.not_lt.2 (Int.natCast_nonneg _)
  simp [placesParam, read, positive, Binary64.isWhole_of_toUnits whole,
    Binary64.truncate_of_toUnits whole, bind, Except.bind]

theorem placesParam_toString (n : Nat) :
    placesParam (some (toString n)) =
      if HasNearest n then .ok (nearestUnits n 1) else .error .notANumber := by
  split
  next near =>
    obtain ⟨x, rounded, units⟩ := Binary64.ofQuotient?_units_of_lt false (n := n) near
    rw [if_neg Bool.false_ne_true, nearestInt_natCast] at units
    refine placesParam_of_read ?_ units
    rw [numberParam, Option.bind_some, readNumber?_toString, rounded]
  next far =>
    have none : Binary64.ofQuotient? false (n * unitsPerOne) 1 = none :=
      Binary64.ofQuotient?_units_of_not_lt false far
    rw [placesParam, numberParam, Option.bind_some, readNumber?_toString, none]
    rfl

theorem hasPlaces_number_iff (n : Number) (places : Nat) :
    hasPlaces places (.number n) = true ↔ n.writtenInFull = true ∧ places = n.places := by
  have text := n.places?_text
  cases full : n.writtenInFull with
  | true =>
    rw [full, if_pos rfl] at text
    simp only [hasPlaces, Json.numeral?, Option.bind_some, text, beq_iff_eq, Option.some.injEq,
      true_and]
    exact eq_comm
  | false =>
    rw [full, if_neg Bool.false_ne_true] at text
    simp [hasPlaces, Json.numeral?, text]

namespace Kind

open Number (writtenOut writtenOut_iff)

variable (now : Moment)

theorem check_decimal_toString_iff (n : Number) (places : Nat) :
    check now .decimal (.number n) (some (toString places)) = .pass ↔
      n.writtenInFull = true ∧ places = n.places := by
  have read := placesParam_toString places
  by_cases near : HasNearest places
  next =>
    rw [if_pos near] at read
    have reads : condition now (some (toString places)) .decimal =
        .ok (hasPlaces (nearestUnits places 1)) := by
      rw [condition, read]
      rfl
    rw [check_eq_pass_iff reads, hasPlaces_number_iff]
    refine and_congr_right fun full => ?_
    -- Rounding the parameter does not take it to a number of places, unless it is that number.
    have small : ((n.places : Nat) : Int).natAbs < 2 ^ 53 := n.places_lt full
    have rounded := nearestInt_eq_iff_of_small (m := places) (.inr small)
    rw [nearestInt_natCast, nearestInt_of_small (Nat.le_of_lt small)] at rounded
    exact_mod_cast rounded
  next =>
    rw [if_neg near] at read
    have refused : check now .decimal (.number n) (some (toString places)) =
        .badParam .notANumber := by
      simp only [check, condition, read]
      rfl
    rw [refused]
    refine iff_of_false (by simp) ?_
    rintro ⟨full, rfl⟩
    have small := n.places_lt full
    exact near (hasNearest_of_le (by omega))

theorem exists_tenMillionth :
    ∃ x, readNumber? "0.0000001".toList = some x ∧ x.shortest = ⟨['1'], -7⟩ :=
  ⟨(readNumber? "0.0000001".toList).get (by decide +kernel), by decide +kernel⟩

theorem check_decimal_of_number :
    (∀ (m : Int) (inRange : -2 ^ 63 ≤ m ∧ m < 2 ^ 64) (places : Nat),
      check now .decimal (.number (.int m inRange)) (some (toString places)) = .pass ↔
        places = 0) ∧
    ∀ x : Binary64, 0 < x.shortest.fraction.length ∧ ∀ places : Nat,
      check now .decimal (.number (.float x)) (some (toString places)) = .pass ↔
        (-5 ≤ x.shortest.leading ∧ x.shortest.leading ≤ 15) ∧
          places = x.shortest.fraction.length := by
  refine ⟨fun m inRange places => ?_, fun x => ⟨?_, fun places => ?_⟩⟩
  · rw [check_decimal_toString_iff]
    exact and_iff_right rfl
  · rw [Decimal.length_fraction x.shortest_written]
    omega
  · rw [check_decimal_toString_iff, Number.writtenInFull, writtenOut_iff, Number.places]

-- Seven places in full, but the number is written `1e-7`.
theorem check_decimal_of_exponent :
    ∃ x, readNumber? "0.0000001".toList = some x ∧
      x.shortest.positional = "0.0000001".toList ∧ x.shortest.fraction.length = 7 ∧
      check (.midnight 0) .decimal (.number (.float x)) (some "7") = .invalid ∧
      ∀ places : Nat,
        check (.midnight 0) .decimal (.number (.float x)) (some (toString places)) ≠ .pass := by
  obtain ⟨x, read, shortest⟩ := exists_tenMillionth
  have scientific : (Number.float x).writtenInFull = false := by
    rw [Number.writtenInFull, shortest]
    rfl
  have none : ∀ places, hasPlaces places (.number (.float x)) = false := fun places => by
    rw [Bool.eq_false_iff, ne_eq, hasPlaces_number_iff, scientific]
    simp
  have param : placesParam (some "7") = .ok 7 := by
    have read := placesParam_toString 7
    rwa [if_pos (by decide +kernel), (by decide +kernel : nearestUnits 7 1 = 7)] at read
  have reads : condition (.midnight 0) (some "7") .decimal = .ok (hasPlaces 7) := by
    rw [condition, param]
    rfl
  refine ⟨x, read, ?_, ?_, ?_, fun places => ?_⟩
  · rw [shortest]
    decide
  · rw [shortest]
    decide
  · rw [check, reads]
    simp only [none]
    rfl
  · rw [ne_eq, check_decimal_toString_iff, scientific]
    simp

theorem digitCount?_float (x : Binary64) :
    Json.digitCount? (.number (.float x)) =
      some (if writtenOut x.shortest.leading then x.shortest.fullDigits
        else x.shortest.scientificDigits) := by
  rw [Json.digitCount?, Json.numeral?, Option.map_some, Number.text_float, countP_signed]
  split
  · rw [Decimal.countP_positional x.shortest_written]
  · rw [Decimal.countP_scientific x.shortest_written]

theorem check_digits_of_read {v : Json} {count : Nat} (counted : v.digitCount? = some count)
    {p : String} (number : (readNumber? p.toList).isSome = true) :
    (check now .minDigit v (some p) = .pass ↔ p.toList.length ≤ count) ∧
      (check now .maxDigit v (some p) = .pass ↔ count ≤ p.toList.length) := by
  obtain ⟨x, read⟩ := Option.isSome_iff_exists.1 number
  have param : digitsParam (some p) = .ok p.toList.length := by
    simp [digitsParam, numberParam, read, bind, Except.bind]
  have least : condition now (some p) .minDigit = .ok (hasDigits p.toList.length) := by
    rw [condition, param]
    rfl
  have most : condition now (some p) .maxDigit = .ok (hasNoMoreDigits p.toList.length) := by
    rw [condition, param]
    rfl
  rw [check_eq_pass_iff least, check_eq_pass_iff most]
  simp [hasDigits, hasNoMoreDigits, counted]

theorem check_digits_of_float (x : Binary64) {p : String}
    (number : (readNumber? p.toList).isSome = true) :
    (-5 ≤ x.shortest.leading ∧ x.shortest.leading ≤ 15 →
      (check now .minDigit (.number (.float x)) (some p) = .pass ↔
        p.toList.length ≤ x.shortest.fullDigits) ∧
      (check now .maxDigit (.number (.float x)) (some p) = .pass ↔
        x.shortest.fullDigits ≤ p.toList.length)) ∧
    (¬ (-5 ≤ x.shortest.leading ∧ x.shortest.leading ≤ 15) →
      (check now .minDigit (.number (.float x)) (some p) = .pass ↔
        p.toList.length ≤ x.shortest.scientificDigits) ∧
      (check now .maxDigit (.number (.float x)) (some p) = .pass ↔
        x.shortest.scientificDigits ≤ p.toList.length)) := by
  have counted := digitCount?_float x
  constructor
  next =>
    intro full
    rw [if_pos ((writtenOut_iff _).2 full)] at counted
    exact check_digits_of_read now counted number
  next =>
    intro scientific
    rw [if_neg (mt (writtenOut_iff _).1 scientific)] at counted
    exact check_digits_of_read now counted number

theorem check_digits_of_float_of_blanks :
    ∃ x, readNumber? "0.00001".toList = some x ∧ (readNumber? " 1.5 ".toList).isSome = true ∧
      (-5 ≤ x.shortest.leading ∧ x.shortest.leading ≤ 15) ∧ x.shortest.fullDigits = 6 ∧
      check (.midnight 0) .minDigit (.number (.float x)) (some " 1.5 ") = .pass ∧
      check (.midnight 0) .maxDigit (.number (.float x)) (some " 1.5 ") ≠ .pass := by
  obtain ⟨x, read, shortest⟩ :
      ∃ x, readNumber? "0.00001".toList = some x ∧ x.shortest = ⟨['1'], -5⟩ :=
    ⟨(readNumber? "0.00001".toList).get (by decide +kernel), by decide +kernel⟩
  have number : (readNumber? " 1.5 ".toList).isSome = true := by decide +kernel
  have range : -5 ≤ x.shortest.leading ∧ x.shortest.leading ≤ 15 := by
    rw [shortest]
    decide
  have digits : x.shortest.fullDigits = 6 := by
    rw [shortest]
    decide
  obtain ⟨least, most⟩ := (check_digits_of_float (.midnight 0) x number).1 range
  rw [digits] at least most
  exact ⟨x, read, number, range, digits, least.2 (by decide), mt most.1 (by decide)⟩

-- Eight digits in full, of which two are counted: the one and the seven of `1e-7`.
theorem check_digits_of_exponent :
    ∃ x, readNumber? "0.0000001".toList = some x ∧ (readNumber? "12345".toList).isSome = true ∧
      x.shortest.positional = "0.0000001".toList ∧ x.shortest.fullDigits = 8 ∧
      check (.midnight 0) .minDigit (.number (.float x)) (some "12345") ≠ .pass ∧
      check (.midnight 0) .maxDigit (.number (.float x)) (some "12345") = .pass := by
  obtain ⟨x, read, shortest⟩ := exists_tenMillionth
  have number : (readNumber? "12345".toList).isSome = true := by decide +kernel
  have counted : Json.digitCount? (.number (.float x)) = some 2 := by
    rw [digitCount?_float, shortest]
    decide
  obtain ⟨least, most⟩ := check_digits_of_read (.midnight 0) counted number
  refine ⟨x, read, number, ?_, ?_, mt least.1 (by decide), most.2 (by decide)⟩
  · rw [shortest]
    decide
  · rw [shortest]
    decide

theorem lt_length_toDigits_iff {n : Nat} (some : n ≠ 0) (k : Nat) :
    k < (Nat.toDigits 10 n).length ↔ 10 ^ k ≤ n := by
  cases k with
  | zero =>
    have digits := List.length_pos_iff.2 (Nat.toDigits_ne_nil (n := n) (b := 10))
    exact iff_of_true digits (Nat.one_le_iff_ne_zero.2 some)
  | succ k => rw [← Nat.not_le, Nat.length_toDigits_le_iff (by decide) k.succ_pos, Nat.not_lt]

theorem digitCount?_int (n : Int) (inRange : -2 ^ 63 ≤ n ∧ n < 2 ^ 64) :
    Json.digitCount? (.number (.int n inRange)) = some (Nat.toDigits 10 n.natAbs).length := by
  rw [Json.digitCount?, Json.numeral?, Option.map_some, Number.text_int, countP_signed,
    List.countP_eq_length.2 (allDigits_toDigits _)]

theorem check_digits_of_int {n : Int} (inRange : -2 ^ 63 ≤ n ∧ n < 2 ^ 64) {p : String}
    (number : (readNumber? p.toList).isSome = true) :
    let v := Json.number (.int n inRange)
    0 < p.toList.length ∧
    (n ≠ 0 →
      (check now .minDigit v (some p) = .pass ↔ 10 ^ (p.toList.length - 1) ≤ n.natAbs) ∧
      (check now .maxDigit v (some p) = .pass ↔ n.natAbs < 10 ^ p.toList.length)) ∧
    (check now .minDigit v (some p) = .pass ∧ check now .maxDigit v (some p) = .pass ↔
      (Nat.toDigits 10 n.natAbs).length = p.toList.length) ∧
    (check now .minDigit v (some p) = .pass ∨ check now .maxDigit v (some p) = .pass) ∧
    (n = 0 → v.digitCount? = some 1 ∧
      (check now .minDigit v (some p) = .pass ↔ p.toList.length = 1) ∧
      check now .maxDigit v (some p) = .pass) := by
  intro v
  have counted : v.digitCount? = some (Nat.toDigits 10 n.natAbs).length :=
    digitCount?_int n inRange
  obtain ⟨least, most⟩ := check_digits_of_read now counted number
  have pos : 0 < p.toList.length := length_pos_of_readNumber? number
  rw [least, most]
  refine ⟨pos, fun some => ⟨?_, ?_⟩, ?_, Nat.le_total _ _, ?_⟩
  · rw [← lt_length_toDigits_iff (Int.natAbs_ne_zero.2 some)]
    omega
  · exact Nat.length_toDigits_le_iff (by decide) pos
  · rw [Nat.le_antisymm_iff, and_comm]
  · rintro rfl
    have one : (Nat.toDigits 10 (0 : Int).natAbs).length = 1 := rfl
    rw [one] at counted ⊢
    exact ⟨counted, by omega, pos⟩

theorem check_digits_of_int_of_least :
    let least := Json.number (.int (-9223372036854775808) (by decide))
    let zero := Json.number (.int 0 (by decide))
    let p := " -1.50000000000e-10"
    (readNumber? p.toList).isSome = true ∧ p.toList.length = 19 ∧
      check (.midnight 0) .minDigit least (some p) = .pass ∧
      check (.midnight 0) .maxDigit least (some p) = .pass ∧
      check (.midnight 0) .minDigit zero (some p) ≠ .pass ∧
      check (.midnight 0) .maxDigit zero (some p) = .pass := by
  intro least zero p
  have number : (readNumber? p.toList).isSome = true := by decide +kernel
  have length : p.toList.length = 19 := by decide +kernel
  obtain ⟨-, bounds, -⟩ :=
    check_digits_of_int (.midnight 0) (n := -9223372036854775808) (by decide) number
  obtain ⟨reaches, below⟩ := bounds (by decide)
  obtain ⟨-, -, -, -, single⟩ := check_digits_of_int (.midnight 0) (n := 0) (by decide) number
  obtain ⟨-, one, always⟩ := single rfl
  rw [length] at reaches below one
  exact ⟨number, length, reaches.2 (by decide), below.2 (by decide), mt one.1 (by decide), always⟩

end Kind

end FieldRules
