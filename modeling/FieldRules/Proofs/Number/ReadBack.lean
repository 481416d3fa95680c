import FieldRules.Number.Basic
import FieldRules.Proofs.Number.Reading

set_option autoImplicit false

namespace FieldRules

theorem readExponent?_scientific (leading : Int) :
    readExponent? ('e' :: (if leading < 0 then '-' else '+') :: Nat.toDigits 10 leading.natAbs) =
      some leading := by
  obtain ⟨n, size⟩ : ∃ n, leading.natAbs = n := ⟨_, rfl⟩
  have all := (allDigits_toDigits n).all_isDigit
  have some : Nat.toDigits 10 n ≠ [] := Nat.toDigits_ne_nil
  rw [size]
  by_cases negative : leading < 0
  next =>
    have value : -(n : Int) = leading := by omega
    simp [readExponent?, negative, takeSign, some, all, digitsValue_toDigits, value]
  next =>
    have value : (n : Int) = leading := by omega
    simp [readExponent?, negative, takeSign, some, all, digitsValue_toDigits, value]

namespace Decimal

def power (d : Decimal) : Int := d.leading + 1 - d.digits.length

structure Written (d : Decimal) : Prop where
  some : d.digits ≠ []
  digits : AllDigits d.digits

variable {d : Decimal}

theorem whole_ne_nil (written : d.Written) : d.whole ≠ [] := by
  unfold whole
  split
  next => simp
  next => simp [written.some]

theorem allDigits_whole (written : d.Written) : AllDigits d.whole := by
  unfold whole
  split
  next => exact allDigits_replicate_zero 1
  next =>
    have front : AllDigits (d.digits.take (d.leading.toNat + 1)) := fun c member =>
      written.digits c (List.mem_of_mem_take member)
    exact front.append (allDigits_replicate_zero _)

theorem allDigits_fraction (written : d.Written) : AllDigits d.fraction := by
  unfold fraction
  split
  next => exact (allDigits_replicate_zero _).append written.digits
  next =>
    split
    next => exact allDigits_replicate_zero 1
    next behind => exact fun c member => written.digits c (List.mem_of_mem_drop member)

theorem isQuotient_positional {num den : Nat}
    (value : IsQuotient (digitsValue d.digits) d.power num den) :
    IsQuotient (digitsValue (d.whole ++ d.fraction)) (-d.fraction.length) num den := by
  unfold whole fraction
  split
  next small =>
    -- Zeros in front: the digits end where they did.
    have digits : digitsValue (['0'] ++ (List.replicate ((-d.leading).toNat - 1) '0' ++ d.digits)) =
        digitsValue d.digits := by
      rw [← List.append_assoc, ← List.replicate_one, List.replicate_append_replicate,
        digitsValue_zeros_append]
    have places : -((List.replicate ((-d.leading).toNat - 1) '0' ++ d.digits).length : Int) =
        d.power := by
      simp only [power, List.length_append, List.length_replicate]
      omega
    rw [digits, places]
    exact value
  next large =>
    split
    next short =>
      -- Zeros behind, and one more as the fraction.
      have short : d.digits.length ≤ d.leading.toNat + 1 := List.drop_eq_nil_iff.1 short
      have digits : digitsValue (d.digits.take (d.leading.toNat + 1) ++
          List.replicate (d.leading.toNat + 1 - d.digits.length) '0' ++ ['0']) =
          digitsValue d.digits * 10 ^ (d.leading.toNat + 1 - d.digits.length + 1) := by
        rw [List.take_of_length_le short, List.append_assoc, ← List.replicate_one,
          List.replicate_append_replicate, digitsValue_append_zeros]
      have places : -((['0'] : List Char).length : Int) =
          d.power - (d.leading.toNat + 1 - d.digits.length + 1 : Nat) := by
        simp only [power, List.length_singleton]
        omega
      rw [digits, places]
      exact value.shift _
    next long =>
      -- The point stands between two digits.
      have long : d.leading.toNat + 1 < d.digits.length :=
        Nat.lt_of_not_le fun short => long (List.drop_eq_nil_iff.2 short)
      have none : d.leading.toNat + 1 - d.digits.length = 0 := by omega
      have places : -((d.digits.drop (d.leading.toNat + 1)).length : Int) = d.power := by
        simp only [power, List.length_drop]
        omega
      dsimp only
      rw [none, List.replicate_zero, List.append_nil, List.take_append_drop, places]
      exact value

theorem ofText?_positional (written : d.Written) {num den : Nat} (pos : 0 < den)
    (value : IsQuotient (digitsValue d.digits) d.power num den) (negative : Bool) :
    Binary64.ofText? (signed negative d.positional) =
      Binary64.ofQuotient? negative num den := by
  have point : NoDigitFirst ('.' :: d.fraction) := by simp [NoDigitFirst]
  have split : takeFraction ('.' :: (d.fraction ++ [])) = (d.fraction, []) :=
    takeFraction_point (allDigits_fraction written) (by simp [NoDigitFirst])
  rw [List.append_nil] at split
  rw [positional, ofText?_signed (whole_ne_nil written) (allDigits_whole written) point split rfl]
  refine Binary64.ofDecimal?_eq_ofQuotient? negative pos ?_
  simpa using isQuotient_positional value

theorem ofText?_scientific (written : d.Written) {num den : Nat} (pos : 0 < den)
    (value : IsQuotient (digitsValue d.digits) d.power num den) (negative : Bool) :
    Binary64.ofText? (signed negative d.scientific) =
      Binary64.ofQuotient? negative num den := by
  obtain ⟨digits, leading⟩ := d
  obtain ⟨first, others, rfl⟩ := List.exists_cons_of_ne_nil written.some
  have whole : AllDigits [first] := fun c member =>
    written.digits c (by simp [List.mem_singleton.1 member])
  have fraction : AllDigits others := fun c member => written.digits c (by simp [member])
  have exponent := readExponent?_scientific leading
  -- The point is left out when there is a single digit, which changes where reading goes on.
  have read : Binary64.ofText? (signed negative (scientific ⟨first :: others, leading⟩)) =
      Binary64.ofDecimal? negative (digitsValue (first :: others)) (leading - others.length) := by
    generalize tail : 'e' :: (if leading < 0 then '-' else '+') :: Nat.toDigits 10 leading.natAbs =
      rest at exponent
    have stop : NoDigitFirst rest := by
      subst tail
      simp [NoDigitFirst]
    cases others with
    | nil =>
      have split : takeFraction rest = ([], rest) := by
        subst tail
        rfl
      simpa [scientific, tail] using ofText?_signed (by simp) whole stop split exponent negative
    | cons second others =>
      have point : NoDigitFirst ('.' :: (second :: others ++ rest)) := by simp [NoDigitFirst]
      simpa [scientific, tail] using ofText?_signed (by simp) whole point
        (takeFraction_point fraction stop) exponent negative
  have last : power ⟨first :: others, leading⟩ = leading - others.length := by
    simp only [power, List.length_cons]
    omega
  rw [last] at value
  rw [read]
  exact Binary64.ofDecimal?_eq_ofQuotient? negative pos value

theorem positional_solid (written : d.Written) : ∀ c ∈ d.positional, isBlank c = false := by
  intro c member
  rcases List.mem_append.1 member with member | member
  · exact isBlank_of_isDigit (allDigits_whole written c member)
  · rcases List.mem_cons.1 member with rfl | member
    · decide
    · exact isBlank_of_isDigit (allDigits_fraction written c member)

theorem scientific_solid (written : d.Written) : ∀ c ∈ d.scientific, isBlank c = false := by
  obtain ⟨digits, leading⟩ := d
  have front : ∀ c ∈ digits, isBlank c = false := fun c member =>
    isBlank_of_isDigit (written.digits c member)
  have sign : isBlank (if leading < 0 then '-' else '+') = false := by split <;> decide
  have exponent : ∀ c ∈ 'e' :: (if leading < 0 then '-' else '+') ::
      Nat.toDigits 10 leading.natAbs, isBlank c = false := by
    refine List.forall_mem_cons.2 ⟨by decide, List.forall_mem_cons.2 ⟨sign, fun c member => ?_⟩⟩
    exact isBlank_of_isDigit (allDigits_toDigits _ c member)
  rcases digits with _ | ⟨first, _ | ⟨second, rest⟩⟩
  · exact absurd rfl written.some
  · exact List.forall_mem_append.2 ⟨front, exponent⟩
  · obtain ⟨one, others⟩ := List.forall_mem_cons.1 front
    refine List.forall_mem_append.2 ⟨?_, exponent⟩
    exact List.forall_mem_cons.2 ⟨one, List.forall_mem_cons.2 ⟨by decide, others⟩⟩

theorem toDigits_eq_digits_append_zeros (steps : Nat) :
    ∃ k, Nat.toDigits 10 steps = (ofSteps steps).digits ++ List.replicate k '0' := by
  have zeros : ∀ c ∈ (Nat.toDigits 10 steps).reverse.takeWhile (· == '0'), c = '0' := by
    intro c member
    simpa using List.all_eq_true.1 List.all_takeWhile c member
  refine ⟨((Nat.toDigits 10 steps).reverse.takeWhile (· == '0')).length, ?_⟩
  have parts := congrArg List.reverse
    (List.takeWhile_append_dropWhile (p := (· == '0')) (l := (Nat.toDigits 10 steps).reverse))
  rw [List.reverse_append, List.reverse_reverse, List.eq_replicate_of_mem zeros,
    List.reverse_replicate] at parts
  simpa [ofSteps] using parts.symm

theorem ofSteps_written {steps : Nat} (pos : steps ≠ 0) : (ofSteps steps).Written := by
  obtain ⟨k, digits⟩ := toDigits_eq_digits_append_zeros steps
  refine ⟨fun none => pos ?_, fun c member => ?_⟩
  · have value := digitsValue_toDigits steps
    rw [digits, none, digitsValue_append_zeros] at value
    exact value.symm.trans (Nat.zero_mul _)
  · exact allDigits_toDigits steps c (by simp [digits, member])

theorem isQuotient_ofSteps (steps : Nat) :
    IsQuotient (digitsValue (ofSteps steps).digits) (ofSteps steps).power steps stepsPerUnit := by
  obtain ⟨k, digits⟩ := toDigits_eq_digits_append_zeros steps
  have width := congrArg List.length digits
  rw [List.length_append, List.length_replicate] at width
  obtain ⟨places, ones, fives, size⟩ :
      ∃ m, unitsPerOne = 2 ^ m ∧ stepsPerUnit = 5 ^ m ∧ m = 1074 := ⟨1074, rfl, rfl, rfl⟩
  have one : unitsPerOne * stepsPerUnit = 10 ^ places := by rw [ones, fives, ← Nat.mul_pow]
  have power : (ofSteps steps).power = (k : Int) - places := by
    have leading : (ofSteps steps).leading = ((Nat.toDigits 10 steps).length : Int) - 1 - 1074 :=
      rfl
    simp only [Decimal.power, leading]
    omega
  rw [isQuotient_iff power, Nat.mul_assoc, one, ← digitsValue_append_zeros, ← digits,
    digitsValue_toDigits]

end Decimal

theorem stepsPerUnit_pos : 0 < stepsPerUnit := by
  obtain ⟨n, size⟩ : ∃ n, stepsPerUnit = 5 ^ n := ⟨1074, rfl⟩
  rw [size]
  exact Nat.pow_pos (by decide)

theorem passes_of_neighbour? {passes : Nat → Bool} {value grid n : Nat}
    (found : neighbour? passes value grid = some n) : passes n = true := by
  unfold neighbour? at found
  extract_lets low high at found
  split at found
  next lowPasses highPasses =>
    have either : n = low ∨ n = high := by
      split at found
      · exact .inl (Option.some.inj found).symm
      · split at found
        · exact .inr (Option.some.inj found).symm
        · split at found
          · exact .inl (Option.some.inj found).symm
          · exact .inr (Option.some.inj found).symm
    rcases either with rfl | rfl
    · exact lowPasses
    · exact highPasses
  next lowPasses _ => exact Option.some.inj found ▸ lowPasses
  next _ highPasses => exact Option.some.inj found ▸ highPasses
  next => simp at found

theorem readsBack_iff {units steps : Nat} :
    readsBack units steps = true ↔ nearestUnits steps stepsPerUnit = units := by
  rw [readsBack, beq_iff_eq]

theorem nearestUnits_shortestSteps {units : Nat} (representable : Representable units) :
    nearestUnits (shortestSteps units) stepsPerUnit = units := by
  unfold shortestSteps
  dsimp only
  generalize tried : List.findSome? _ _ = shorter
  cases shorter with
  | none => exact nearestUnits_of_representable representable stepsPerUnit_pos
  | some steps =>
    obtain ⟨n, -, found⟩ := List.exists_of_findSome?_eq_some tried
    exact readsBack_iff.1 (passes_of_neighbour? found)

namespace Binary64

theorem shortest_written (x : Binary64) : x.shortest.Written := by
  unfold shortest
  split
  next zero => exact ⟨by simp, allDigits_replicate_zero 1⟩
  next nonzero =>
    refine Decimal.ofSteps_written fun none => nonzero ?_
    rw [← nearestUnits_shortestSteps x.representable, none]
    exact nearestUnits_eq_zero stepsPerUnit_pos

theorem isQuotient_shortest (x : Binary64) :
    ∃ num, IsQuotient (digitsValue x.shortest.digits) x.shortest.power num stepsPerUnit ∧
      nearestUnits num stepsPerUnit = x.units := by
  unfold shortest
  split
  next zero =>
    refine ⟨0, ?_, ?_⟩
    · simp [IsQuotient, Decimal.power, digitsValue]
    · rw [zero]
      exact nearestUnits_eq_zero stepsPerUnit_pos
  next nonzero =>
    exact ⟨_, Decimal.isQuotient_ofSteps _, nearestUnits_shortestSteps x.representable⟩

theorem ofQuotient?_of_nearestUnits (x : Binary64) {num den : Nat}
    (nearest : nearestUnits num den = x.units) : ofQuotient? x.negative num den = some x := by
  obtain ⟨negative, units, representable⟩ := x
  subst nearest
  simp [ofQuotient?, representable.2]

end Binary64

namespace Number

theorem text_int (n : Int) (inRange : -2 ^ 63 ≤ n ∧ n < 2 ^ 64) :
    text (.int n inRange) = signed (decide (n < 0)) (Nat.toDigits 10 n.natAbs) := by
  simp [text, signed]

theorem text_float (x : Binary64) :
    text (.float x) = signed x.negative
      (if writtenOut x.shortest.leading then x.shortest.positional else x.shortest.scientific) :=
  rfl

theorem ofText?_text (n : Number) : Binary64.ofText? n.text = some n.value := by
  cases n with
  | int n inRange =>
    have small : n.natAbs ≤ 2 ^ 64 := by omega
    have quotient : IsQuotient n.natAbs 0 (n.natAbs * unitsPerOne) 1 := by simp [IsQuotient]
    have stop : NoDigitFirst [] := by simp [NoDigitFirst]
    have read := ofText?_signed Nat.toDigits_ne_nil (allDigits_toDigits n.natAbs) stop rfl rfl
      (decide (n < 0))
    simp only [List.append_nil, digitsValue_toDigits, List.length_nil, Int.sub_zero,
      Int.natCast_zero] at read
    rw [text_int, read, Binary64.ofDecimal?_eq_ofQuotient? _ Nat.one_pos quotient]
    exact Binary64.ofQuotient?_of_nearestUnits (.ofInt n small) rfl
  | float x =>
    obtain ⟨num, quotient, nearest⟩ := x.isQuotient_shortest
    have read := Binary64.ofQuotient?_of_nearestUnits x nearest
    rw [text_float]
    split
    · exact (Decimal.ofText?_positional x.shortest_written stepsPerUnit_pos quotient _).trans read
    · exact (Decimal.ofText?_scientific x.shortest_written stepsPerUnit_pos quotient _).trans read

theorem text_solid (n : Number) : ∀ c ∈ n.text, isBlank c = false := by
  cases n with
  | int n inRange =>
    rw [text_int]
    exact signed_solid _ fun c member => isBlank_of_isDigit (allDigits_toDigits _ c member)
  | float x =>
    rw [text_float]
    split
    · exact signed_solid _ (Decimal.positional_solid x.shortest_written)
    · exact signed_solid _ (Decimal.scientific_solid x.shortest_written)

theorem readNumber?_text (n : Number) : readNumber? n.text = some n.value := by
  rw [readNumber?, trimBlanks_eq_self n.text_solid, n.ofText?_text]

end Number

end FieldRules
