import FieldRules.Proofs.Check.Digits
import FieldRules.Proofs.Check.Parameter

set_option autoImplicit false

namespace FieldRules

namespace Numeral

inductive InFull : Nat → List Char → Prop
  | whole {digits : List Char} (some : digits ≠ []) (all : AllDigits digits) (negative : Bool) :
      InFull 0 (signed negative digits)
  | pointed {digits fraction : List Char} (some : digits ≠ []) (all : AllDigits digits)
      (behind : fraction ≠ []) (allBehind : AllDigits fraction) (negative : Bool) :
      InFull fraction.length (signed negative (digits ++ '.' :: fraction))

theorem exists_unsigned (cs : List Char) :
    ∃ negative body, cs = signed negative body ∧ (negative = false → body.head? ≠ some '-') := by
  by_cases minus : cs.head? = some '-'
  next =>
    obtain ⟨body, rfl⟩ := List.head?_eq_some_iff.1 minus
    exact ⟨true, body, rfl, by simp⟩
  next => exact ⟨false, cs, rfl, fun _ => minus⟩

theorem places?_of_noDigitFirst {negative : Bool} {body : List Char} (stop : NoDigitFirst body)
    (unsigned : negative = false → body.head? ≠ some '-') :
    places? (signed negative body) = none := by
  have noDigits : body.takeWhile Char.isDigit = [] := by
    cases body with
    | nil => rfl
    | cons c cs => simp [stop c rfl]
  cases negative with
  | true => simp [places?, signed, noDigits]
  | false =>
    have other : ∀ cs, body ≠ '-' :: cs := by
      rintro cs rfl
      exact unsigned rfl rfl
    simp [places?, signed, noDigits]

theorem exists_digits_of_places? {cs : List Char} {places : Nat}
    (found : places? cs = some places) :
    ∃ negative digits rest, cs = signed negative (digits ++ rest) ∧ digits ≠ [] ∧
      AllDigits digits ∧ placesBehind? rest = some places := by
  obtain ⟨negative, body, rfl, unsigned⟩ := exists_unsigned cs
  obtain ⟨digits, rest, rfl, all, stop⟩ := exists_run Char.isDigit body
  by_cases some : digits = []
  next =>
    subst some
    rw [List.nil_append, places?_of_noDigitFirst stop unsigned] at found
    contradiction
  next =>
    rw [places?_signed some all stop] at found
    exact ⟨negative, digits, rest, rfl, some, all, found⟩

theorem places?_eq_some_iff (cs : List Char) (places : Nat) :
    places? cs = some places ↔ InFull places cs := by
  constructor
  next =>
    intro found
    obtain ⟨negative, digits, rest, rfl, some, all, behind⟩ := exists_digits_of_places? found
    unfold placesBehind? at behind
    split at behind
    next =>
      obtain rfl := Option.some.inj behind
      rw [List.append_nil]
      exact .whole some all negative
    next fraction =>
      split at behind
      next full =>
        obtain rfl := Option.some.inj behind
        exact .pointed some all full.1 (List.all_eq_true.1 full.2) negative
      next => contradiction
    next => contradiction
  next =>
    intro full
    cases full with
    | whole some all negative => exact places?_whole some all negative
    | pointed some all behind allBehind negative =>
      rw [places?_signed some all (noDigitFirst_cons (by decide) _)]
      exact if_pos ⟨behind, allBehind.all_isDigit⟩

-- A plus sign, nothing on one side of the point, an exponent, a digit of another script.
example : ["+5", "5.", ".5", "5e0", "٥"].filterMap (fun s => places? s.toList) = [] := by decide

end Numeral

def WritesNatural (param : Option String) (n : Nat) : Prop :=
  ∃ text x, param = some text ∧ readNumber? text.toList = some x ∧
    x.toUnits = (n : Int) * unitsPerOne

theorem Binary64.exists_nat_of_isWhole {x : Binary64} (whole : x.isWhole = true)
    (positive : ¬ x.toUnits < 0) : ∃ n : Nat, x.toUnits = (n : Int) * unitsPerOne := by
  have divides : unitsPerOne ∣ x.units := Nat.dvd_of_mod_eq_zero (by simpa [isWhole] using whole)
  obtain ⟨n, units⟩ := divides
  have size : x.toUnits = x.units := by
    unfold toUnits at positive ⊢
    split at positive
    next negative =>
      rw [if_pos negative]
      omega
    next negative => rw [if_neg negative]
  refine ⟨n, ?_⟩
  rw [size, units, Nat.mul_comm, Int.natCast_mul]

theorem placesParam_of_number {param : Option String} {x : Binary64}
    (read : numberParam param = .ok x) :
    placesParam param =
      if x.toUnits < 0 ∨ x.isWhole = false then .error .notANumber else .ok x.truncate.toNat := by
  simp [placesParam, read, bind, Except.bind]

theorem placesParam_of_no_number {param : Option String} {e : ParamError}
    (read : numberParam param = .error e) : placesParam param = .error .notANumber := by
  obtain rfl : e = .notANumber := by
    unfold numberParam at read
    split at read
    next => contradiction
    next => exact (Except.error.inj read).symm
  simp [placesParam, read, bind, Except.bind]

theorem exists_placesParam (param : Option String) :
    (∃ n, placesParam param = .ok n ∧ WritesNatural param n) ∨
      placesParam param = .error .notANumber := by
  cases read : numberParam param with
  | error e => exact .inr (placesParam_of_no_number read)
  | ok x =>
    by_cases refused : x.toUnits < 0 ∨ x.isWhole = false
    next =>
      rw [placesParam_of_number read, if_pos refused]
      exact .inr rfl
    next =>
      obtain ⟨positive, whole⟩ := not_or.1 refused
      obtain ⟨n, units⟩ := x.exists_nat_of_isWhole (Bool.of_not_eq_false whole) positive
      obtain ⟨text, given, number⟩ := (numberParam_eq_ok_iff param x).1 read
      exact .inl ⟨n, placesParam_of_read read units, text, x, given, number, units⟩

theorem placesParam_eq_ok_iff (param : Option String) (n : Nat) :
    placesParam param = .ok n ↔ WritesNatural param n := by
  constructor
  next =>
    intro accepted
    rcases exists_placesParam param with ⟨m, same, natural⟩ | refused
    · obtain rfl : n = m := Except.ok.inj (accepted.symm.trans same)
      exact natural
    · simp [accepted] at refused
  next =>
    rintro ⟨text, x, given, number, units⟩
    exact placesParam_of_read ((numberParam_eq_ok_iff param x).2 ⟨text, given, number⟩) units

theorem placesParam_eq_error_iff (param : Option String) (e : ParamError) :
    placesParam param = .error e ↔ e = .notANumber ∧ ∀ n, ¬ WritesNatural param n := by
  simp only [← placesParam_eq_ok_iff]
  rcases exists_placesParam param with ⟨n, accepted, -⟩ | refused
  · simp [accepted]
  · simp [refused, eq_comm]

theorem hasPlaces_text_iff (s : String) (places : Nat) :
    hasPlaces places (.text s) = true ↔
      (readNumber? s.toList).isSome = true ∧ Numeral.InFull places (trimBlanks s.toList) := by
  rw [← Numeral.places?_eq_some_iff]
  cases read : (readNumber? s.toList).isSome <;> simp [hasPlaces, Json.numeral?, read]

namespace Kind

variable (now : Moment)

theorem check_decimal_of_text (s : String) (param : Option String) :
    (∀ e, check now .decimal (.text s) param = .badParam e ↔
      e = .notANumber ∧ ∀ n, ¬ WritesNatural param n) ∧
    ∀ n, WritesNatural param n →
      (check now .decimal (.text s) param = .pass ↔
        (readNumber? s.toList).isSome = true ∧ Numeral.InFull n (trimBlanks s.toList)) := by
  constructor
  next =>
    intro e
    rw [check_eq_badParam_iff, ← placesParam_eq_error_iff]
    cases read : placesParam param <;> simp [condition, read, Except.map]
  next =>
    intro n natural
    have read := (placesParam_eq_ok_iff param n).2 natural
    have reads : condition now param .decimal = .ok (hasPlaces n) := by
      rw [condition, read]
      rfl
    rw [check_eq_pass_iff reads, hasPlaces_text_iff]

theorem check_decimal_of_text_of_spellings :
    WritesNatural (some " 2e0 ") 2 ∧ WritesNatural (some "-0") 0 ∧
      check (.midnight 0) .decimal (.text "\t-12.50 ") (some " 2e0 ") = .pass ∧
      check (.midnight 0) .decimal (.text "5.") (some "-0") ≠ .pass ∧
      check (.midnight 0) .decimal (.text "5") none = .badParam .notANumber := by
  have two : WritesNatural (some " 2e0 ") 2 :=
    ⟨" 2e0 ", (readNumber? " 2e0 ".toList).get (by decide +kernel), rfl, by decide +kernel,
      by decide +kernel⟩
  have zero : WritesNatural (some "-0") 0 :=
    ⟨"-0", (readNumber? "-0".toList).get (by decide +kernel), rfl, by decide +kernel,
      by decide +kernel⟩
  have full : Numeral.InFull 2 (trimBlanks "\t-12.50 ".toList) :=
    (Numeral.places?_eq_some_iff _ 2).1 (by decide +kernel)
  have noFraction : ¬ Numeral.InFull 0 (trimBlanks "5.".toList) :=
    mt (Numeral.places?_eq_some_iff _ 0).2 (by decide +kernel)
  obtain ⟨-, passes⟩ := check_decimal_of_text (.midnight 0) "\t-12.50 " (some " 2e0 ")
  obtain ⟨-, fails⟩ := check_decimal_of_text (.midnight 0) "5." (some "-0")
  obtain ⟨refused, -⟩ := check_decimal_of_text (.midnight 0) "5" none
  refine ⟨two, zero, (passes 2 two).2 ⟨by decide +kernel, full⟩, ?_, ?_⟩
  · exact fun passed => noFraction ((fails 0 zero).1 passed).2
  · exact (refused .notANumber).2 ⟨rfl, fun n ⟨text, x, given, _⟩ => by contradiction⟩

end Kind

end FieldRules
