import FieldRules.Proofs.Calendar.Timestamp
import FieldRules.Proofs.Traversal

set_option autoImplicit false

namespace FieldRules

-- One or two digits, with any blanks in front.
inductive ShortNumeral : List Char → Nat → Prop
  | mk {front digits : List Char} (blank : ∀ c ∈ front, isBlank c = true)
      (all : AllDigits digits) (some : digits ≠ []) (short : digits.length ≤ 2) :
      ShortNumeral (front ++ digits) (digitsValue digits)

namespace ShortNumeral

variable {x rest : List Char} {n : Nat}

theorem exists_skipBlanks (numeral : ShortNumeral x n) (rest : List Char) :
    ∃ digits, skipBlanks (x ++ rest) = digits ++ rest ∧ AllDigits digits ∧ digits ≠ [] ∧
      digits.length ≤ 2 ∧ digitsValue digits = n := by
  obtain ⟨blank, all, some, short⟩ := numeral
  next front digits =>
    refine ⟨digits, ?_, all, some, short, rfl⟩
    obtain ⟨first, others, rfl⟩ := List.exists_cons_of_ne_nil some
    rw [List.append_assoc, skipBlanks, dropWhile_run blank]
    simpa using isBlank_of_isDigit (all first (by simp))

theorem takeDigits?_append (numeral : ShortNumeral x n) (stop : NoDigitFirst rest) :
    takeDigits? 2 (skipBlanks (x ++ rest)) = some (n, rest) := by
  obtain ⟨digits, skipped, all, some, short, rfl⟩ := numeral.exists_skipBlanks rest
  rw [skipped, takeDigits?_run some all short stop]

theorem takeYear?_append (numeral : ShortNumeral x n) (stop : NoDigitFirst rest) :
    takeYear? (skipBlanks (x ++ rest)) = some ((n : Int), rest) := by
  obtain ⟨digits, skipped, all, some, short, rfl⟩ := numeral.exists_skipBlanks rest
  have read := takeDigits?_run some all (Nat.le_trans short (by decide : 2 ≤ 4)) stop
  obtain ⟨first, others, rfl⟩ := List.exists_cons_of_ne_nil some
  rw [List.cons_append] at read skipped
  rw [skipped, takeYear?_of_isDigit (all first (by simp)), read]
  rfl

theorem of_takeDigits? {cs : List Char}
    (taken : takeDigits? 2 (skipBlanks cs) = some (n, rest)) :
    ∃ x, ShortNumeral x n ∧ cs = x ++ rest := by
  obtain ⟨digits, skipped, all, some, short, rfl⟩ := exists_digits_of_takeDigits? taken
  refine ⟨cs.takeWhile isBlank ++ digits,
    .mk (List.all_eq_true.1 List.all_takeWhile) all some short, ?_⟩
  rw [List.append_assoc, ← skipped, skipBlanks, List.takeWhile_append_dropWhile]

theorem takeExactly?_four {sep : Char} (numeral : ShortNumeral x n) (noDigit : sep.isDigit = false)
    (rest : List Char) : Timestamp.takeExactly? 4 (x ++ sep :: rest) = none := by
  refine if_neg fun ⟨_, year⟩ => ?_
  have year := List.all_eq_true.1 year
  cases numeral with
  | @mk front digits blank all some short =>
    cases front with
    | nil =>
      obtain ⟨room, more⟩ : ∃ room, 4 - digits.length = room + 1 := ⟨3 - digits.length, by omega⟩
      have digit := year sep (by simp [List.take_append, more])
      exact Bool.false_ne_true (noDigit.symm.trans digit)
    | cons c cs =>
      have digit := year c (by simp)
      exact Bool.false_ne_true ((isBlank_of_isDigit digit).symm.trans (blank c (by simp)))

end ShortNumeral

inductive Numerals (sep : Char) : List Char → Nat → Nat → Nat → Prop
  | mk {x y z : List Char} {a b c : Nat} (first : ShortNumeral x a) (second : ShortNumeral y b)
      (third : ShortNumeral z c) : Numerals sep (x ++ sep :: (y ++ sep :: z)) a b c

def TwoDates (sep : Char) (cs : List Char) : Prop :=
  ∃ a b c : Nat, Numerals sep cs a b c ∧ (Date.mk a b c).isValid ∧ (Date.mk c a b).isValid ∧
    Date.mk a b c ≠ Date.mk c a b

def separators : List Char := ['-', '/']

theorem eq_of_mem_separators {sep : Char} (mem : sep ∈ separators) : sep = '-' ∨ sep = '/' := by
  simpa [separators] using mem

theorem noDigit_of_mem_separators {sep : Char} (mem : sep ∈ separators) : sep.isDigit = false := by
  rcases eq_of_mem_separators mem with rfl | rfl <;> decide

def Ambiguous (cs : List Char) : Prop := ∃ sep ∈ separators, TwoDates sep cs

theorem DateParts.moment?_of_no_time {p : DateParts}
    (noTime : p.hour = 0 ∧ p.minute = 0 ∧ p.second = 0 ∧ p.nano = 0) :
    p.moment? = if p.date.isValid then some (.midnight p.date.dayNumber) else none := by
  by_cases valid : p.date.isValid = true
  next =>
    rw [if_pos valid, moment?_of_valid valid (by omega) (by omega)]
    obtain ⟨hour, minute, second, nano⟩ := noTime
    simp [hour, minute, second, nano, Moment.midnight]
  next => rw [if_neg valid, moment?, dif_neg fun h => valid h.1]

namespace DateFormat

open FormatItem

def yearFirst (sep : Char) : DateFormat := [year, exactly sep, month, exactly sep, day]

def monthFirst (sep : Char) : DateFormat := [month, exactly sep, day, exactly sep, year]

section

variable {sep : Char} (noDigit : sep.isDigit = false) {cs : List Char} {a b c : Nat}

include noDigit

theorem parts?_of_numerals (numerals : Numerals sep cs a b c) :
    (yearFirst sep).parts? {} cs = some { year := a, month := b, day := c } ∧
      (monthFirst sep).parts? {} cs = some { year := c, month := a, day := b } := by
  obtain @⟨x, y, z, a, b, c, first, second, third⟩ := numerals
  have stop := noDigitFirst_cons noDigit
  have day := third.takeDigits?_append noDigitFirst_nil
  have year := third.takeYear?_append noDigitFirst_nil
  rw [List.append_nil] at day year
  constructor
  · have month := second.takeDigits?_append (stop z)
    simp [yearFirst, parts?, take?, first.takeYear?_append (stop _), month, day]
  · have day := second.takeDigits?_append (stop z)
    simp [monthFirst, parts?, take?, first.takeDigits?_append (stop _), day, year]

theorem exists_numerals {p q : DateParts} (fromYear : (yearFirst sep).parts? {} cs = some p)
    (fromMonth : (monthFirst sep).parts? {} cs = some q) :
    ∃ a b c, Numerals sep cs a b c := by
  have stop := noDigitFirst_cons noDigit
  simp only [monthFirst, parts?, Option.bind_eq_bind, Option.bind_eq_some_iff, Prod.exists,
    take?_exactly_iff] at fromMonth
  simp only [take?, Option.map_eq_some_iff, Prod.exists, Prod.mk.injEq] at fromMonth
  obtain ⟨_, _, ⟨a, _, taken, rfl, rfl⟩, _, _, ⟨rfl, rfl⟩, _, _, ⟨b, _, taken', rfl, rfl⟩, _, rest,
    ⟨rfl, rfl⟩, -⟩ := fromMonth
  obtain ⟨x, first, rfl⟩ := ShortNumeral.of_takeDigits? taken
  obtain ⟨y, second, rfl⟩ := ShortNumeral.of_takeDigits? taken'
  -- The first two numerals are short, so the other format takes them as well.
  simp only [yearFirst, parts?, take?, first.takeYear?_append (stop _), taken', Option.map_some,
    Option.bind_eq_bind, Option.bind_some, if_true, Option.bind_eq_some_iff, Option.map_eq_some_iff,
    Prod.exists, Prod.mk.injEq] at fromYear
  obtain ⟨_, _, ⟨c, behind, taken, -, rfl⟩, read⟩ := fromYear
  obtain ⟨z, third, rfl⟩ := ShortNumeral.of_takeDigits? taken
  obtain rfl : behind = [] := by
    cases behind with
    | nil => rfl
    | cons => simp [parts?] at read
  rw [List.append_nil]
  exact ⟨a, b, c, .mk first second third⟩

theorem moment?_of_numerals (numerals : Numerals sep cs a b c) :
    (yearFirst sep).moment? cs =
        (if (Date.mk a b c).isValid then some (.midnight (Date.mk a b c).dayNumber) else none) ∧
      (monthFirst sep).moment? cs =
        if (Date.mk c a b).isValid then some (.midnight (Date.mk c a b).dayNumber) else none := by
  obtain ⟨fromYear, fromMonth⟩ := parts?_of_numerals noDigit numerals
  rw [moment?, moment?, fromYear, fromMonth]
  exact ⟨DateParts.moment?_of_no_time ⟨rfl, rfl, rfl, rfl⟩,
    DateParts.moment?_of_no_time ⟨rfl, rfl, rfl, rfl⟩⟩

end

def AgreeOn (cs : List Char) (f g : DateFormat) : Prop :=
  ∀ m n, f.moment? cs = some m → g.moment? cs = some n → m = n

theorem AgreeOn.symm {cs : List Char} {f g : DateFormat} (agree : AgreeOn cs f g) :
    AgreeOn cs g f := fun m n left right => (agree n m right left).symm

theorem agreeOn_refl (cs : List Char) (f : DateFormat) : AgreeOn cs f f := fun _ _ left right =>
  Option.some.inj (left.symm.trans right)

theorem agreeOn_append_fraction (cs : List Char) (f : DateFormat) :
    AgreeOn cs f (f ++ [fraction]) := by
  intro m n left right
  obtain ⟨p, read, moment⟩ := Option.bind_eq_some_iff.1 left
  rw [moment?, parts?_append_fraction read, Option.bind_some] at right
  exact Option.some.inj (moment.symm.trans right)

theorem agreeOn_iff {sep : Char} (noDigit : sep.isDigit = false) (cs : List Char) :
    AgreeOn cs (yearFirst sep) (monthFirst sep) ↔ ¬ TwoDates sep cs := by
  constructor
  · rintro agree ⟨a, b, c, numerals, valid, valid', apart⟩
    obtain ⟨fromYear, fromMonth⟩ := moment?_of_numerals noDigit numerals
    rw [if_pos valid] at fromYear
    rw [if_pos valid'] at fromMonth
    have same := congrArg Moment.day (agree _ _ fromYear fromMonth)
    exact apart (Date.dayNumber_inj (Date.isValid_iff.1 valid).2 (Date.isValid_iff.1 valid').2 same)
  · intro single m n left right
    obtain ⟨p, read, -⟩ := Option.bind_eq_some_iff.1 left
    obtain ⟨q, read', -⟩ := Option.bind_eq_some_iff.1 right
    obtain ⟨a, b, c, numerals⟩ := exists_numerals noDigit read read'
    obtain ⟨fromYear, fromMonth⟩ := moment?_of_numerals noDigit numerals
    rw [fromYear, Option.ite_none_right_eq_some, Option.some.injEq] at left
    rw [fromMonth, Option.ite_none_right_eq_some, Option.some.injEq] at right
    obtain ⟨valid, rfl⟩ := left
    obtain ⟨valid', rfl⟩ := right
    have same : Date.mk a b c = Date.mk c a b := by
      refine Decidable.byContradiction fun apart => single ?_
      exact ⟨a, b, c, numerals, valid, valid', apart⟩
    rw [same]

def formats : List DateFormat := withTime ++ dateOnly

def marking (format : DateFormat) : List Nat := marks.map fun c => format.count (exactly c)

theorem marking_eq {format : DateFormat} {p q : DateParts} {cs : List Char}
    (read : format.parts? p cs = some q) : format.marking = marks.map fun c => cs.count c :=
  List.map_congr_left fun _ mem => ((isMark_of_mem mem).count_parts? read).symm

theorem marking_eq_of_moment? {f g : DateFormat} {cs : List Char} {m n : Moment}
    (left : f.moment? cs = some m) (right : g.moment? cs = some n) : f.marking = g.marking := by
  obtain ⟨p, read, -⟩ := Option.bind_eq_some_iff.1 left
  obtain ⟨q, read', -⟩ := Option.bind_eq_some_iff.1 right
  exact (marking_eq read).trans (marking_eq read').symm

theorem mem_formats {sep : Char} (mem : sep ∈ separators) :
    yearFirst sep ∈ formats ∧ monthFirst sep ∈ formats := by
  rcases eq_of_mem_separators mem with rfl | rfl <;> decide

-- The formats of a date that are told apart by nothing but what comes first.
def reordered : List (DateFormat × DateFormat) :=
  separators.map fun sep => (yearFirst sep, monthFirst sep)

theorem alike_of_marking_eq : ∀ f ∈ formats, ∀ g ∈ formats, f.marking = g.marking →
    f = g ∨ g = f ++ [fraction] ∨ f = g ++ [fraction] ∨ (f, g) ∈ reordered ∨
      (g, f) ∈ reordered := by
  decide

theorem agreeOn_formats_iff (cs : List Char) :
    (∀ f ∈ formats, ∀ g ∈ formats, AgreeOn cs f g) ↔ ¬ Ambiguous cs := by
  constructor
  · rintro agree ⟨sep, mem, two⟩
    obtain ⟨yearListed, monthListed⟩ := mem_formats mem
    exact (agreeOn_iff (noDigit_of_mem_separators mem) cs).1 (agree _ yearListed _ monthListed) two
  · intro single f f_mem g g_mem m n left right
    have apart {f g : DateFormat} (pair : (f, g) ∈ reordered) : AgreeOn cs f g := by
      obtain ⟨sep, mem, same⟩ := List.mem_map.1 pair
      obtain ⟨rfl, rfl⟩ := Prod.mk.inj same
      exact (agreeOn_iff (noDigit_of_mem_separators mem) cs).2 fun two => single ⟨sep, mem, two⟩
    have agree : AgreeOn cs f g := by
      rcases alike_of_marking_eq f f_mem g g_mem (marking_eq_of_moment? left right) with
        rfl | rfl | rfl | pair | pair
      · exact agreeOn_refl cs f
      · exact agreeOn_append_fraction cs f
      · exact (agreeOn_append_fraction cs g).symm
      · exact apart pair
      · exact (apart pair).symm
    exact agree m n left right

theorem exists_before_yearFirst {sep : Char} (mem : sep ∈ separators) :
    ∃ before after, formats = before ++ yearFirst sep :: after ∧
      ∀ f ∈ before, f.marking ≠ (yearFirst sep).marking := by
  rcases eq_of_mem_separators mem with rfl | rfl
  · exact ⟨formats.take 4, formats.drop 5, rfl, by decide⟩
  · exact ⟨formats.take 5, formats.drop 6, rfl, by decide⟩

end DateFormat

theorem Timestamp.moment?_of_numerals {sep : Char} (noDigit : sep.isDigit = false) {cs : List Char}
    {a b c : Nat} (numerals : Numerals sep cs a b c) : moment? cs = none := by
  cases numerals with
  | mk first _ _ =>
    have noYear := first.takeExactly?_four noDigit
    simp [moment?, takeLocal?, noYear]

theorem readMoment?_of_numerals {sep : Char} (mem : sep ∈ separators) {text : List Char}
    {a b c : Nat} (numerals : Numerals sep (trimBlanks text) a b c)
    (valid : (Date.mk a b c).isValid) :
    readMoment? text = some (.midnight (Date.mk a b c).dayNumber) := by
  have noDigit := noDigit_of_mem_separators mem
  obtain ⟨moment, -⟩ := DateFormat.moment?_of_numerals noDigit numerals
  rw [if_pos valid] at moment
  -- The formats that are tried before have other marks.
  obtain ⟨before, after, split, others⟩ := DateFormat.exists_before_yearFirst mem
  have refused : before.findSome? (fun format => format.moment? (trimBlanks text)) = none := by
    refine List.findSome?_eq_none_iff.2 fun f earlier => Option.eq_none_iff_forall_ne_some.2 ?_
    exact fun m taken => others f earlier (DateFormat.marking_eq_of_moment? taken moment)
  have found : DateFormat.formats.findSome? (fun format => format.moment? (trimBlanks text)) =
      some (.midnight (Date.mk a b c).dayNumber) := by
    rw [split, List.findSome?_append, refused, Option.none_or, List.findSome?_cons, moment]
  rw [readMoment?, Timestamp.moment?_of_numerals noDigit numerals]
  exact found

def readMomentIn? (order : List DateFormat) (text : List Char) : Option Moment :=
  let cs := trimBlanks text
  Timestamp.moment? cs <|> order.findSome? fun format => format.moment? cs

theorem readMomentIn?_formats (text : List Char) :
    readMomentIn? DateFormat.formats text = readMoment? text := rfl

theorem readMoment?_unambiguous_iff (text : List Char) :
    ((∀ f ∈ DateFormat.formats, ∀ g ∈ DateFormat.formats,
        DateFormat.AgreeOn (trimBlanks text) f g) ↔ ¬ Ambiguous (trimBlanks text)) ∧
    ((∀ order : List DateFormat, order.Perm DateFormat.formats →
        readMomentIn? order text = readMoment? text) ↔ ¬ Ambiguous (trimBlanks text)) := by
  have agree := DateFormat.agreeOn_formats_iff (trimBlanks text)
  refine ⟨agree, fun unordered ambiguous => ?_, fun single order perm => ?_⟩
  · obtain ⟨sep, mem, a, b, c, numerals, dates⟩ := id ambiguous
    have none := Timestamp.moment?_of_numerals (noDigit_of_mem_separators mem) numerals
    refine agree.1 ((findSome?_perm_iff _ _).1 fun order perm => ?_) ambiguous
    have same := unordered order perm
    rw [← readMomentIn?_formats] at same
    simpa [readMomentIn?, none] using same
  · have same := (findSome?_perm_iff _ _).2 (agree.2 single) order perm
    rw [← readMomentIn?_formats, readMomentIn?, readMomentIn?, same]

theorem readMoment?_of_short_numerals :
    let text := "12-11-10".toList
    let order := DateFormat.dateOnly.reverse ++ DateFormat.withTime
    DateFormat.yearFirst '-' ∈ DateFormat.formats ∧
    (DateFormat.yearFirst '-').moment? text = some (.midnight (Date.mk 12 11 10).dayNumber) ∧
    DateFormat.monthFirst '-' ∈ DateFormat.formats ∧
    (DateFormat.monthFirst '-').moment? text = some (.midnight (Date.mk 10 12 11).dayNumber) ∧
    order.Perm DateFormat.formats ∧
    readMoment? text = some (.midnight (Date.mk 12 11 10).dayNumber) ∧
    readMomentIn? order text = some (.midnight (Date.mk 10 12 11).dayNumber) ∧
    (Date.mk 12 11 10).dayNumber ≠ (Date.mk 10 12 11).dayNumber := by
  decide +kernel

end FieldRules
