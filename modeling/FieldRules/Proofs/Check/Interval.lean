import FieldRules.Check.Basic
import FieldRules.Proofs.Number.Nearest
import FieldRules.Proofs.Number.Reading
import FieldRules.Proofs.Text.Split

set_option autoImplicit false

namespace FieldRules

theorem Kind.check_eq_pass_iff {now : Moment} {kind : Kind} {param : Option String}
    {holds : Json → Bool} (read : kind.condition now param = .ok holds) (v : Json) :
    kind.check now v param = .pass ↔ holds v = true := by
  rw [check, read, Outcome.ofBool_eq_pass]

theorem numberParam_eq_ok_iff (param : Option String) (x : Binary64) :
    numberParam param = .ok x ↔ ∃ text, param = some text ∧ readNumber? text.toList = some x := by
  cases param with
  | none => simp [numberParam]
  | some text => cases read : readNumber? text.toList <;> simp [numberParam, read]

theorem withoutBrackets_bracketed (cs : List Char) :
    withoutBrackets ('[' :: (cs ++ [']'])) = cs := by
  simp [withoutBrackets]

theorem withoutBrackets_of_head? {cs : List Char} (plain : cs.head? ≠ some '[') :
    withoutBrackets cs = cs := by
  unfold withoutBrackets
  split
  · simp at plain
  · rfl

-- Reading trims each number, so blanks around the whole make no difference.
theorem map_readNumber?_splitAt_trimBlanks (cs : List Char) :
    (splitAt ',' (trimBlanks cs)).map readNumber? = (splitAt ',' cs).map readNumber? := by
  have trimmed : readNumber? = Binary64.ofText? ∘ trimBlanks := rfl
  rw [trimmed, ← List.map_map, ← List.map_map, trimBlanks_splitAt_trimBlanks (by decide)]

theorem rangeParam_of_numbers {low high : String} {x y : Binary64}
    (readLow : readNumber? low.toList = some x) (readHigh : readNumber? high.toList = some y) :
    rangeParam (some (low ++ "," ++ high)) = .ok (x, y) ∧
      rangeParam (some ("[" ++ low ++ "," ++ high ++ "]")) = .ok (x, y) := by
  have split : (splitAt ',' (low.toList ++ ',' :: high.toList)).map readNumber? =
      [some x, some y] := by
    have free := not_mem_of_readNumber? readLow (c := ',') (by decide) (by decide)
    have free' := not_mem_of_readNumber? readHigh (c := ',') (by decide) (by decide)
    rw [splitAt_append_sep free, splitAt_of_not_mem free', List.map_cons, List.map_singleton,
      readLow, readHigh]
  constructor
  next =>
    have text : (low ++ "," ++ high).toList = low.toList ++ ',' :: high.toList := by simp
    obtain ⟨c, head, numeral⟩ := exists_head?_trimBlanks readLow (',' :: high.toList)
    have plain : (trimBlanks (low.toList ++ ',' :: high.toList)).head? ≠ some '[' := by
      rw [head]
      rintro ⟨rfl⟩
      exact absurd numeral (by decide)
    simp only [rangeParam, text, withoutBrackets_of_head? plain,
      map_readNumber?_splitAt_trimBlanks, split]
  next =>
    have text : ("[" ++ low ++ "," ++ high ++ "]").toList =
        '[' :: (low.toList ++ ',' :: high.toList ++ [']']) := by
      simp
    have solid : trimBlanks ('[' :: (low.toList ++ ',' :: high.toList ++ [']'])) =
        '[' :: (low.toList ++ ',' :: high.toList ++ [']']) :=
      trimBlanks_of_solid_ends (by decide) (by decide) _
    simp only [rangeParam, text, solid, withoutBrackets_bracketed, split]

namespace Json

inductive HasSize : Json → Int → Prop
  | number (n : Number) : HasSize (.number n) n.value.toUnits
  | text (s : String) : HasSize (.text s) (nearestInt s.toList.length * unitsPerOne)
  | array (items : List Json) : HasSize (.array items) (nearestInt items.length * unitsPerOne)

inductive Unsized : Json → Prop
  | null : Unsized .null
  | bool (b : Bool) : Unsized (.bool b)
  | object (members : List (String × Json)) : Unsized (.object members)

theorem countUnits_eq (n : Nat) : (countUnits n : Int) = nearestInt n * unitsPerOne := by
  rw [countUnits, nearestUnits_mul_unitsPerOne, nearestInt_natCast, Int.natCast_mul]

theorem magnitude?_eq_some_iff (v : Json) (units : Int) :
    v.magnitude? = some units ↔ v.HasSize units := by
  constructor
  next =>
    intro measured
    cases v with
    | number n =>
      obtain rfl := Option.some.inj measured
      exact .number n
    | text s =>
      obtain rfl := Option.some.inj measured
      rw [countUnits_eq]
      exact .text s
    | array items =>
      obtain rfl := Option.some.inj measured
      rw [countUnits_eq]
      exact .array items
    | null | bool | object => simp [magnitude?] at measured
  next =>
    intro size
    cases size with
    | number n => rfl
    | text s => rw [magnitude?, countUnits_eq]
    | array items => rw [magnitude?, countUnits_eq]

theorem magnitude?_eq_none_iff (v : Json) : v.magnitude? = none ↔ v.Unsized := by
  constructor
  next =>
    intro none
    cases v with
    | null => exact .null
    | bool b => exact .bool b
    | object members => exact .object members
    | number | text | array => simp [magnitude?] at none
  next =>
    intro unsized
    cases unsized <;> rfl

@[simp] theorem hasSize_number_iff (n : Number) (units : Int) :
    (Json.number n).HasSize units ↔ units = n.value.toUnits := by
  rw [← magnitude?_eq_some_iff, magnitude?, Option.some.injEq, eq_comm]

theorem unsized_or_hasSize (v : Json) : v.Unsized ∨ ∃ units, v.HasSize units := by
  simp only [← magnitude?_eq_none_iff, ← magnitude?_eq_some_iff]
  exact Option.eq_none_or_eq_some v.magnitude?

theorem HasSize.unique {v : Json} {units others : Int} (size : v.HasSize units)
    (other : v.HasSize others) : units = others := by
  rw [← magnitude?_eq_some_iff] at size other
  exact Option.some.inj (size.symm.trans other)

theorem Unsized.not_hasSize {v : Json} (unsized : v.Unsized) (units : Int) : ¬ v.HasSize units := by
  rw [← magnitude?_eq_some_iff, (magnitude?_eq_none_iff v).2 unsized]
  simp

end Json

namespace Kind

variable (now : Moment) (v : Json) {p q : String} {x y : Binary64}

theorem check_min_of_number (read : readNumber? p.toList = some x) :
    check now .min v (some p) = .pass ↔ ∀ units, v.HasSize units → x.toUnits ≤ units := by
  have bound : numberParam (some p) = .ok x := (numberParam_eq_ok_iff _ x).2 ⟨p, rfl, read⟩
  have reads : condition now (some p) .min = .ok (atLeast x) := by
    simp [condition, bound, Except.map]
  rw [check_eq_pass_iff reads]
  simp [atLeast, Option.all_eq_true, Json.magnitude?_eq_some_iff]

theorem check_max_of_number (read : readNumber? p.toList = some x) :
    check now .max v (some p) = .pass ↔ ∀ units, v.HasSize units → units ≤ x.toUnits := by
  have bound : numberParam (some p) = .ok x := (numberParam_eq_ok_iff _ x).2 ⟨p, rfl, read⟩
  have reads : condition now (some p) .max = .ok (atMost x) := by
    simp [condition, bound, Except.map]
  rw [check_eq_pass_iff reads]
  simp [atMost, Option.all_eq_true, Json.magnitude?_eq_some_iff]

theorem check_numberBetween_of_range {param : String}
    (range : rangeParam (some param) = .ok (x, y)) (n : Number) :
    check now .numberBetween (.number n) (some param) = .pass ↔
      (∀ units, (Json.number n).HasSize units → x.toUnits ≤ units) ∧
        ∀ units, (Json.number n).HasSize units → units ≤ y.toUnits := by
  have reads : condition now (some param) .numberBetween = .ok (isBetween (x, y)) := by
    simp only [condition, range, Except.map]
  rw [check_eq_pass_iff reads]
  simp [isBetween, Json.scalarNumber?]

theorem check_min_or_max (read : readNumber? p.toList = some x) :
    check now .min v (some p) = .pass ∨ check now .max v (some p) = .pass := by
  rw [check_min_of_number now v read, check_max_of_number now v read]
  rcases v.unsized_or_hasSize with unsized | ⟨units, size⟩
  next => exact .inl fun units size => absurd size (unsized.not_hasSize units)
  next =>
    rcases Int.le_total x.toUnits units with above | below
    · exact .inl fun other same => size.unique same ▸ above
    · exact .inr fun other same => size.unique same ▸ below

theorem check_min_and_max (read : readNumber? p.toList = some x) :
    check now .min v (some p) = .pass ∧ check now .max v (some p) = .pass ↔
      v.Unsized ∨ v.HasSize x.toUnits := by
  rw [check_min_of_number now v read, check_max_of_number now v read]
  constructor
  next =>
    rintro ⟨above, below⟩
    refine v.unsized_or_hasSize.imp_right fun ⟨units, size⟩ => ?_
    have met : x.toUnits = units := Int.le_antisymm (above units size) (below units size)
    exact met ▸ size
  next =>
    rintro (unsized | size)
    · exact ⟨fun units size => absurd size (unsized.not_hasSize units),
        fun units size => absurd size (unsized.not_hasSize units)⟩
    · exact ⟨fun units same => Int.le_of_eq (size.unique same),
        fun units same => Int.le_of_eq (same.unique size)⟩

theorem check_intervals_of_numbers (readP : readNumber? p.toList = some x)
    (readQ : readNumber? q.toList = some y) :
    (check now .min v (some p) = .pass ∨ check now .max v (some p) = .pass) ∧
    (check now .min v (some p) = .pass ∧ check now .max v (some p) = .pass ↔
      v.Unsized ∨ v.HasSize x.toUnits) ∧
    (x ≤ y →
      (check now .min v (some q) = .pass → check now .min v (some p) = .pass) ∧
      (check now .max v (some p) = .pass → check now .max v (some q) = .pass)) ∧
    (v.isNumber →
      (check now .numberBetween v (some (p ++ "," ++ q)) = .pass ↔
        check now .min v (some p) = .pass ∧ check now .max v (some q) = .pass) ∧
      (check now .numberBetween v (some ("[" ++ p ++ "," ++ q ++ "]")) = .pass ↔
        check now .min v (some p) = .pass ∧ check now .max v (some q) = .pass)) := by
  refine ⟨check_min_or_max now v readP, check_min_and_max now v readP, fun ordered => ?_,
    fun isNumber => ?_⟩
  · rw [check_min_of_number now v readP, check_min_of_number now v readQ,
      check_max_of_number now v readP, check_max_of_number now v readQ]
    exact ⟨fun above units size => Int.le_trans ordered (above units size),
      fun below units size => Int.le_trans (below units size) ordered⟩
  · cases v with
    | number n =>
      obtain ⟨bare, bracketed⟩ := rangeParam_of_numbers readP readQ
      rw [check_numberBetween_of_range now bare, check_numberBetween_of_range now bracketed,
        check_min_of_number now _ readP, check_max_of_number now _ readQ]
      exact ⟨Iff.rfl, Iff.rfl⟩
    | _ => simp [Json.isNumber] at isNumber

theorem check_intervals_of_numbers_of_spellings :
    let five := " 5.0"
    let ten := "1e1\t"
    let seven := Json.number (.int 7 (by decide))
    ∃ x y, readNumber? five.toList = some x ∧ readNumber? ten.toList = some y ∧ x ≤ y ∧
      (Json.text "héllo").HasSize x.toUnits ∧
      check (.midnight 0) .min (.text "héllo") (some five) = .pass ∧
      check (.midnight 0) .max (.text "héllo") (some five) = .pass ∧
      check (.midnight 0) .max (.text "héllo") (some ten) = .pass ∧
      seven.isNumber ∧
      check (.midnight 0) .numberBetween seven (some (five ++ "," ++ ten)) = .pass := by
  intro five ten seven
  let x := (readNumber? five.toList).get (by decide +kernel)
  let y := (readNumber? ten.toList).get (by decide +kernel)
  have readP : readNumber? five.toList = some x := by decide +kernel
  have readQ : readNumber? ten.toList = some y := by decide +kernel
  have ordered : x ≤ y := by decide +kernel
  have size : (Json.text "héllo").HasSize x.toUnits :=
    (Json.magnitude?_eq_some_iff _ _).1 (by decide +kernel)
  obtain ⟨-, both, outwards, -⟩ :=
    check_intervals_of_numbers (.midnight 0) (.text "héllo") readP readQ
  obtain ⟨-, -, -, between⟩ := check_intervals_of_numbers (.midnight 0) seven readP readQ
  obtain ⟨above, below⟩ := both.2 (.inr size)
  have range := (between rfl).1.2 (by decide +kernel)
  exact ⟨x, y, readP, readQ, ordered, size, above, below, (outwards ordered).2 below, rfl, range⟩

end Kind

end FieldRules
