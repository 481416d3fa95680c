import FieldRules.Calendar.Reading
import FieldRules.Calendar.Writing
import FieldRules.Proofs.Calendar.Date
import FieldRules.Proofs.Calendar.Format

set_option autoImplicit false

namespace FieldRules

namespace DateParts

theorem dayNumber_ofMillis (n : Int) : (ofMillis n).date.dayNumber = n / 86400000 :=
  Date.dayNumber_ofDayNumber _

theorem time_ofMillis (n : Int) :
    ((ofMillis n).hour < 24 ∧ (ofMillis n).minute < 60 ∧ (ofMillis n).second < 60) ∧
      (ofMillis n).hour * 3600 + (ofMillis n).minute * 60 + (ofMillis n).second =
        (n % 86400000 / 1000).toNat := by
  simp only [ofMillis]
  omega

theorem moment?_of_valid {p : DateParts} (valid : p.date.isValid = true)
    (time : p.hour < 24 ∧ p.minute < 60 ∧ p.second < 60) (nano : p.nano < 1000000000) :
    p.moment? = some
      { day := p.date.dayNumber
        second := p.hour * 3600 + p.minute * 60 + p.second
        nano := p.nano
        second_lt := by omega
        nano_lt := by omega } := by
  obtain ⟨hour, minute, second⟩ := time
  rw [moment?, dif_pos ⟨valid, hour, minute, Nat.le_of_lt second, nano⟩]
  simp only [Nat.min_eq_left (Nat.le_of_lt_succ second), if_neg (Nat.ne_of_lt second), Nat.add_zero]

end DateParts

namespace Moment

def Dated (n : Int) : Prop :=
  (Date.mk Date.firstYear 1 1).dayNumber ≤ n / 86400000 ∧
    n / 86400000 ≤ (Date.mk Date.lastYear 12 31).dayNumber

theorem secondOfMillis_lt (n : Int) : (n % 86400000 / 1000).toNat < 86400 := by omega

theorem nanoOfMillis_lt (n : Int) : (n % 1000).toNat * 1000000 < 2000000000 := by omega

def ofMillis (n : Int) : Moment where
  day := n / 86400000
  second := (n % 86400000 / 1000).toNat
  nano := (n % 1000).toNat * 1000000
  second_lt := secondOfMillis_lt n
  nano_lt := nanoOfMillis_lt n

theorem ofMillis?_of_dated {n : Int} (dated : Dated n) : ofMillis? n = some (ofMillis n) :=
  if_pos dated

theorem addSeconds_ofMillis? {n seconds : Int} (dated : Dated n)
    (shifted : Dated (n + seconds * 1000)) :
    (ofMillis? (n + seconds * 1000)).map (·.addSeconds (-seconds)) = ofMillis? n := by
  rw [ofMillis?_of_dated dated, ofMillis?_of_dated shifted]
  simp only [Option.map_some, addSeconds, ofMillis, Option.some.injEq, mk.injEq]
  omega

end Moment

theorem DateParts.moment?_ofMillis (n : Int) : (ofMillis n).moment? = Moment.ofMillis? n := by
  have valid : (ofMillis n).date.isValid = true ↔ Moment.Dated n :=
    Date.isValid_ofDayNumber_iff (n / 86400000)
  obtain ⟨time, second⟩ := time_ofMillis n
  have nano : (ofMillis n).nano < 1000000000 := by
    simp only [ofMillis]
    omega
  by_cases dated : Moment.Dated n
  next =>
    rw [moment?_of_valid (valid.2 dated) time nano, Moment.ofMillis?_of_dated dated]
    simp only [dayNumber_ofMillis, second]
    rfl
  next =>
    have none : Moment.ofMillis? n = none := if_neg dated
    rw [none, moment?, dif_neg fun h => dated (valid.1 h.1)]

namespace Timestamp

variable {width n : Nat} {rest : List Char}

theorem allDigits_padded (width n : Nat) : AllDigits (padded width n) :=
  (allDigits_replicate_zero _).append (allDigits_toDigits n)

theorem digitsValue_padded (width n : Nat) : digitsValue (padded width n) = n := by
  rw [padded, List.leftpad, digitsValue_zeros_append, digitsValue_toDigits]

theorem length_padded (pos : 0 < width) (lt : n < 10 ^ width) :
    (padded width n).length = width := by
  have short := (Nat.length_toDigits_le_iff (by decide) pos).2 lt
  rw [padded, List.length_leftpad, Nat.max_eq_left short]

theorem takeExactly?_padded (pos : 0 < width) (lt : n < 10 ^ width) (rest : List Char) :
    takeExactly? width (padded width n ++ rest) = some (n, rest) := by
  have length := length_padded pos lt
  have all := (allDigits_padded width n).all_isDigit
  simp only [takeExactly?, List.take_left' length, List.drop_left' length, length, all,
    digitsValue_padded, and_self, if_true]

theorem takeFractionNanos?_padded (lt : n < 10 ^ 3) (stop : NoDigitFirst rest) :
    takeFractionNanos? ('.' :: (padded 3 n ++ rest)) = some (n * 1000000, rest) := by
  have length := length_padded (by decide) lt
  have some : padded 3 n ≠ [] := List.length_pos_iff.1 (by omega)
  have counted : (padded 3 n).take 9 = padded 3 n := List.take_of_length_le (by omega)
  have read := takeNanos?_run some (allDigits_padded 3 n) stop
  rw [counted, digitsValue_padded, length] at read
  exact read

theorem takeExactly?_two (lt : n < 10 ^ 2) (rest : List Char) :
    takeExactly? 2 (padded 2 n ++ rest) = some (n, rest) :=
  takeExactly?_padded (by decide) lt rest

theorem takeChar?_cons (c : Char) (cs : List Char) : takeChar? c (c :: cs) = some cs := if_pos rfl

structure Fits (p : DateParts) : Prop where
  year : p.year = p.year.toNat ∧ p.year.toNat < 10 ^ 4
  month : p.month < 10 ^ 2
  day : p.day < 10 ^ 2
  hour : p.hour < 10 ^ 2
  minute : p.minute < 10 ^ 2
  second : p.second < 10 ^ 2
  nano : p.nano = p.nano / 1000000 * 1000000 ∧ p.nano / 1000000 < 10 ^ 3

theorem takeLocal?_localText {p : DateParts} (fits : Fits p) (stop : NoDigitFirst rest) :
    takeLocal? (localText p ++ rest) = some (p, rest) := by
  obtain ⟨⟨positive, year⟩, month, day, hour, minute, second, whole, nano⟩ := fits
  simp only [localText, List.append_assoc, List.cons_append]
  refine Option.bind_eq_some_iff.2 ⟨_, takeExactly?_padded (by decide) year _, ?_⟩
  refine Option.bind_eq_some_iff.2 ⟨_, takeChar?_cons _ _, ?_⟩
  refine Option.bind_eq_some_iff.2 ⟨_, takeExactly?_two month _, ?_⟩
  refine Option.bind_eq_some_iff.2 ⟨_, takeChar?_cons _ _, ?_⟩
  refine Option.bind_eq_some_iff.2 ⟨_, takeExactly?_two day _, ?_⟩
  refine Option.bind_eq_some_iff.2 ⟨_, rfl, ?_⟩
  refine Option.bind_eq_some_iff.2 ⟨_, takeExactly?_two hour _, ?_⟩
  refine Option.bind_eq_some_iff.2 ⟨_, takeChar?_cons _ _, ?_⟩
  refine Option.bind_eq_some_iff.2 ⟨_, takeExactly?_two minute _, ?_⟩
  refine Option.bind_eq_some_iff.2 ⟨_, takeChar?_cons _ _, ?_⟩
  refine Option.bind_eq_some_iff.2 ⟨_, takeExactly?_two second _, ?_⟩
  refine Option.bind_eq_some_iff.2 ⟨_, takeFractionNanos?_padded nano stop, ?_⟩
  rw [← positive, ← whole]

theorem offset?_signedOffset {sign : Char} {direction : Int} {minutes : Nat}
    (lt : minutes < 1440) (signed : offsetSign? sign = some direction) :
    offset? (signedOffset sign minutes) = some (direction * (minutes * 60)) := by
  have letter : ¬ (sign = 'Z' ∨ sign = 'z') := by
    rintro (rfl | rfl) <;> simp [offsetSign?] at signed
  have hours : minutes / 60 < 10 ^ 2 := by omega
  have ofHour : minutes % 60 < 10 ^ 2 := by omega
  have last := takeExactly?_two ofHour []
  have total : ((minutes / 60 * 3600 + minutes % 60 * 60 : Nat) : Int) = minutes * 60 := by omega
  rw [List.append_nil] at last
  rw [signedOffset, offset?, if_neg letter]
  refine Option.bind_eq_some_iff.2 ⟨_, signed, ?_⟩
  refine Option.bind_eq_some_iff.2 ⟨_, takeExactly?_two hours _, ?_⟩
  refine Option.bind_eq_some_iff.2 ⟨_, takeChar?_cons _ _, ?_⟩
  refine Option.bind_eq_some_iff.2 ⟨_, last, ?_⟩
  dsimp only
  rw [if_pos ⟨rfl, by omega, by omega⟩, total]

theorem mem_offsetTexts {minutes : Int} {zone : List Char} (mem : zone ∈ offsetTexts minutes) :
    zone = ['Z'] ∧ minutes = 0 ∨ ∃ sign direction, offsetSign? sign = some direction ∧
      sign.isDigit = false ∧ isBlank sign = false ∧
      zone = signedOffset sign minutes.natAbs ∧ direction * minutes.natAbs = minutes := by
  unfold offsetTexts at mem
  split at mem
  next none =>
    subst none
    rcases List.mem_cons.1 mem with rfl | mem
    · exact .inl ⟨rfl, rfl⟩
    rcases List.mem_cons.1 mem with rfl | mem
    · exact .inr ⟨'+', 1, rfl, rfl, by decide, rfl, rfl⟩
    · exact .inr ⟨'-', -1, rfl, rfl, by decide, List.mem_singleton.1 mem, rfl⟩
  next some =>
    obtain rfl := List.mem_singleton.1 mem
    split
    next west => exact .inr ⟨'-', -1, rfl, rfl, by decide, rfl, by omega⟩
    next east => exact .inr ⟨'+', 1, rfl, rfl, by decide, rfl, by omega⟩

theorem offset?_of_mem {minutes : Int} (lt : minutes.natAbs < 1440) {zone : List Char}
    (mem : zone ∈ offsetTexts minutes) : offset? zone = some (minutes * 60) := by
  rcases mem_offsetTexts mem with ⟨rfl, rfl⟩ | ⟨sign, direction, signed, -, -, rfl, product⟩
  · rfl
  · rw [offset?_signedOffset lt signed, ← Int.mul_assoc, product]

theorem noDigitFirst_of_mem {minutes : Int} {zone : List Char} (mem : zone ∈ offsetTexts minutes) :
    NoDigitFirst zone := by
  rcases mem_offsetTexts mem with ⟨rfl, -⟩ | ⟨sign, -, -, noDigit, -, rfl, -⟩
  · exact noDigitFirst_cons (by decide) _
  · exact noDigitFirst_cons noDigit _

theorem padded_solid (width n : Nat) : ∀ c ∈ padded width n, isBlank c = false := fun c mem =>
  isBlank_of_isDigit (allDigits_padded width n c mem)

theorem localText_solid (p : DateParts) : ∀ c ∈ localText p, isBlank c = false := by
  simp only [localText, List.forall_mem_append, List.forall_mem_cons]
  exact ⟨padded_solid _ _, by decide, padded_solid _ _, by decide, padded_solid _ _, by decide,
    padded_solid _ _, by decide, padded_solid _ _, by decide, padded_solid _ _, by decide,
    padded_solid _ _⟩

theorem solid_of_mem {minutes : Int} {zone : List Char} (mem : zone ∈ offsetTexts minutes) :
    ∀ c ∈ zone, isBlank c = false := by
  rcases mem_offsetTexts mem with ⟨rfl, -⟩ | ⟨sign, -, -, -, solid, rfl, -⟩
  · exact List.forall_mem_singleton.2 (by decide)
  · simp only [signedOffset, List.forall_mem_append, List.forall_mem_cons]
    exact ⟨solid, padded_solid _ _, by decide, padded_solid _ _⟩

def FourDigitYear (n : Int) : Prop :=
  0 ≤ (DateParts.ofMillis n).year ∧ (DateParts.ofMillis n).year ≤ 9999

instance (n : Int) : Decidable (FourDigitYear n) := instDecidableAnd

theorem fits_ofMillis {n : Int} (years : FourDigitYear n) : Fits (.ofMillis n) := by
  obtain ⟨first, last⟩ := years
  obtain ⟨⟨hour, minute, second⟩, -⟩ := DateParts.time_ofMillis n
  obtain ⟨month, day⟩ := Date.inMonth_ofDayNumber (n / 86400000)
  have short := Date.daysInMonth_le (Date.ofDayNumber (n / 86400000)).year
    (Date.ofDayNumber (n / 86400000)).month
  refine ⟨by omega, ?_, ?_, by omega, by omega, by omega, ?_⟩
  · simp only [DateParts.ofMillis]
    omega
  · simp only [DateParts.ofMillis]
    omega
  · simp only [DateParts.ofMillis]
    omega

-- A day more or less does not leave the years that have dates.
theorem dated_of_fourDigitYear {n m : Int} (years : FourDigitYear n)
    (near : -86400000 ≤ m - n ∧ m - n ≤ 86400000) : Moment.Dated m := by
  have inMonth := Date.inMonth_ofDayNumber (n / 86400000)
  have first := (Date.le_year_iff inMonth 0).1 years.1
  have last := (Date.year_le_iff inMonth 9999).1 years.2
  rw [Date.dayNumber_ofDayNumber] at first last
  have least : (Date.mk Date.firstYear 1 1).dayNumber < (Date.mk 0 1 1).dayNumber := by decide
  have most : (Date.mk 9999 12 31).dayNumber < (Date.mk Date.lastYear 12 31).dayNumber := by
    decide
  unfold Moment.Dated
  omega

theorem moment?_of_mem_texts {n minutes : Int} (lt : minutes.natAbs < 1440)
    (years : FourDigitYear (n + minutes * 60000)) {text : List Char}
    (mem : text ∈ texts n minutes) : moment? text = Moment.ofMillis? n := by
  obtain ⟨zone, offset, rfl⟩ := List.mem_map.1 mem
  have dated : Moment.Dated n := dated_of_fourDigitYear years (by omega)
  have shifted : Moment.Dated (n + minutes * 60 * 1000) := dated_of_fourDigitYear years (by omega)
  have millis : n + minutes * 60 * 1000 = n + minutes * 60000 := by omega
  have back := Moment.addSeconds_ofMillis? dated shifted
  rw [millis, ← DateParts.moment?_ofMillis (n + minutes * 60000)] at back
  rw [moment?, takeLocal?_localText (fits_ofMillis years) (noDigitFirst_of_mem offset)]
  simp only [Option.bind_eq_bind, Option.bind_some, offset?_of_mem lt offset, ← back,
    Option.map_eq_bind]
  rfl

theorem solid_of_mem_texts {n minutes : Int} {text : List Char} (mem : text ∈ texts n minutes) :
    ∀ c ∈ text, isBlank c = false := by
  obtain ⟨zone, offset, rfl⟩ := List.mem_map.1 mem
  exact List.forall_mem_append.2 ⟨localText_solid _, solid_of_mem offset⟩

end Timestamp

theorem readMoment?_of_mem_texts {n minutes : Int} (lt : minutes.natAbs < 1440)
    (years : Timestamp.FourDigitYear (n + minutes * 60000)) {text : List Char}
    (mem : text ∈ Timestamp.texts n minutes) :
    ∃ m, readMoment? text = some m ∧ Moment.ofMillis? n = some m := by
  have dated : Moment.Dated n := Timestamp.dated_of_fourDigitYear years (by omega)
  have read := Timestamp.moment?_of_mem_texts lt years mem
  rw [Moment.ofMillis?_of_dated dated] at read
  refine ⟨_, ?_, Moment.ofMillis?_of_dated dated⟩
  rw [readMoment?, trimBlanks_eq_self (Timestamp.solid_of_mem_texts mem)]
  rw [read]
  rfl

end FieldRules
