import FieldRules.Proofs.Calendar.Timestamp
import FieldRules.Proofs.Check.Agreement
import FieldRules.Proofs.Check.Parameter
import FieldRules.Proofs.Text.Split

set_option autoImplicit false

namespace FieldRules

def NamesClock (text : List Char) : Prop :=
  trimBlanks text = "now".toList ∨ trimBlanks text = "today".toList

instance (text : List Char) : Decidable (NamesClock text) := instDecidableOr

theorem readMoment?_trimBlanks (text : List Char) :
    readMoment? (trimBlanks text) = readMoment? text := by
  simp only [readMoment?, trimBlanks_trimBlanks]

section

variable {text : List Char} (noClock : ¬ NamesClock text) (now : Moment)

include noClock

theorem readBound_of_date {m : Moment} (date : readMoment? text = some m) :
    readBound now text = .ok m := by
  obtain ⟨notNow, notToday⟩ := not_or.1 noClock
  simp only [readBound, if_neg notNow, if_neg notToday, readMoment?_trimBlanks, date]

theorem readBound_of_no_date (none : readMoment? text = none) :
    readBound now text = .error .invalidDate := by
  obtain ⟨notNow, notToday⟩ := not_or.1 noClock
  simp only [readBound, if_neg notNow, if_neg notToday, readMoment?_trimBlanks, none]

theorem readBound_later (later : Moment) : readBound now text = readBound later text := by
  cases date : readMoment? text with
  | none => rw [readBound_of_no_date noClock now date, readBound_of_no_date noClock later date]
  | some m => rw [readBound_of_date noClock now date, readBound_of_date noClock later date]

end

namespace Moment

theorem not_le {m n : Moment} : ¬ m ≤ n ↔ n < m := Int.not_le

theorem lt_asymm {m n : Moment} : m < n → ¬ n < m := Int.lt_asymm

end Moment

namespace Kind

inductive Compares : Kind → (Moment → Moment → Bool) → Prop
  | after : Compares .after fun bound m => bound < m
  | before : Compares .before fun bound m => m < bound
  | afterOrEqual : Compares .afterOrEqual fun bound m => bound ≤ m
  | beforeOrEqual : Compares .beforeOrEqual fun bound m => m ≤ bound

variable {kind : Kind} {test : Moment → Moment → Bool}

theorem Compares.condition_eq (compares : Compares kind test) (now : Moment)
    (param : Option String) :
    kind.condition now param = (boundParam now param).map fun bound => momentWith (test bound) := by
  cases compares <;> rfl

section

variable {text : String} (noClock : ¬ NamesClock text.toList) (now : Moment) (v : Json)

include noClock

theorem Compares.check_of_no_date (compares : Compares kind test)
    (none : readMoment? text.toList = none) :
    kind.check now v (some text) = .badParam .invalidDate := by
  have read : boundParam now (some text) = .error .invalidDate :=
    readBound_of_no_date noClock now none
  rw [check_eq_badParam_iff, compares.condition_eq, read]
  rfl

theorem Compares.check_of_date (compares : Compares kind test) {bound : Moment}
    (date : readMoment? text.toList = some bound) :
    kind.check now v (some text) = .ofBool (v.moment?.any (test bound)) := by
  have read : boundParam now (some text) = .ok bound := readBound_of_date noClock now date
  rw [check, compares.condition_eq, read]
  rfl

theorem check_complements {bound m : Moment} (date : readMoment? text.toList = some bound)
    (value : v.moment? = some m) :
    (check now .after v (some text) = .pass ↔
        check now .beforeOrEqual v (some text) = .invalid) ∧
      (check now .before v (some text) = .pass ↔
        check now .afterOrEqual v (some text) = .invalid) ∧
      ¬ (check now .after v (some text) = .pass ∧ check now .before v (some text) = .pass) := by
  rw [Compares.after.check_of_date noClock now v date,
    Compares.before.check_of_date noClock now v date,
    Compares.afterOrEqual.check_of_date noClock now v date,
    Compares.beforeOrEqual.check_of_date noClock now v date, value]
  simp only [Option.any_some, Outcome.ofBool_eq_pass, Outcome.ofBool_eq_invalid,
    decide_eq_true_eq, decide_eq_false_iff_not, Moment.not_le, true_and]
  exact fun both => Moment.lt_asymm both.1 both.2

end

def comparing : List Kind := [.after, .before, .afterOrEqual, .beforeOrEqual]

theorem exists_compares (mem : kind ∈ comparing) : ∃ test, Compares kind test := by
  simp only [comparing, List.mem_cons, List.not_mem_nil, or_false] at mem
  rcases mem with rfl | rfl | rfl | rfl
  · exact ⟨_, .after⟩
  · exact ⟨_, .before⟩
  · exact ⟨_, .afterOrEqual⟩
  · exact ⟨_, .beforeOrEqual⟩

section

variable {first last : String} (free : ',' ∉ first.toList) (noClock : ¬ NamesClock first.toList)
  (noClock' : ¬ NamesClock last.toList) (now : Moment) (v : Json)

include free

theorem boundsParam_of_texts :
    boundsParam now (some (first ++ "," ++ last)) =
      (readBound now first.toList >>= fun a =>
        readBound now last.toList >>= fun b => .ok (a, b)) := by
  refine boundsParam_of_comma now ?_
  have text : (first ++ "," ++ last).toList = first.toList ++ ',' :: last.toList := by simp
  rw [text, splitOnce_append_of_not_mem free]

include noClock noClock'

theorem check_dateBetween_of_no_date
    (none : readMoment? first.toList = none ∨ readMoment? last.toList = none) :
    check now .dateBetween v (some (first ++ "," ++ last)) = .badParam .invalidDate := by
  have read : boundsParam now (some (first ++ "," ++ last)) = .error .invalidDate := by
    rw [boundsParam_of_texts free]
    cases date : readMoment? first.toList with
    | none =>
      rw [readBound_of_no_date noClock now date]
      rfl
    | some a =>
      rw [readBound_of_date noClock now date,
        readBound_of_no_date noClock' now (none.resolve_left (by simp [date]))]
      rfl
  rw [check_eq_badParam_iff, condition, read]
  rfl

theorem check_dateBetween_of_dates {a b : Moment} (date : readMoment? first.toList = some a)
    (date' : readMoment? last.toList = some b) :
    check now .dateBetween v (some (first ++ "," ++ last)) =
      .ofBool (v.moment?.any fun m => a ≤ m ∧ m ≤ b) := by
  have read : boundsParam now (some (first ++ "," ++ last)) = .ok (a, b) := by
    rw [boundsParam_of_texts free, readBound_of_date noClock now date,
      readBound_of_date noClock' now date']
    rfl
  rw [check, condition, read]
  rfl

theorem check_dateBetween_eq_badParam_iff :
    check now .dateBetween v (some (first ++ "," ++ last)) = .badParam .invalidDate ↔
      readMoment? first.toList = none ∨ readMoment? last.toList = none := by
  refine ⟨fun refused => ?_, check_dateBetween_of_no_date free noClock noClock' now v⟩
  cases date : readMoment? first.toList with
  | none => exact .inl rfl
  | some a =>
    cases date' : readMoment? last.toList with
    | none => exact .inr rfl
    | some b =>
      rw [check_dateBetween_of_dates free noClock noClock' now v date date'] at refused
      exact absurd refused Outcome.ofBool_ne_badParam

theorem check_dateBetween_eq_pass_iff {a b : Moment} (date : readMoment? first.toList = some a)
    (date' : readMoment? last.toList = some b) :
    check now .dateBetween v (some (first ++ "," ++ last)) = .pass ↔
      check now .afterOrEqual v (some first) = .pass ∧
        check now .beforeOrEqual v (some last) = .pass := by
  rw [check_dateBetween_of_dates free noClock noClock' now v date date',
    Compares.afterOrEqual.check_of_date noClock now v date,
    Compares.beforeOrEqual.check_of_date noClock' now v date']
  cases v.moment? with
  | none => simp
  | some m => simp

end

theorem check_order_of_dates (now : Moment) (v : Json) :
    (∀ text : String, ¬ NamesClock text.toList →
      (readMoment? text.toList = none →
        ∀ kind ∈ comparing, kind.check now v (some text) = .badParam .invalidDate) ∧
      ∀ bound, readMoment? text.toList = some bound →
        (v.moment? = none → ∀ kind ∈ comparing, kind.check now v (some text) = .invalid) ∧
        ∀ m, v.moment? = some m →
          (check now .after v (some text) = .pass ↔
            check now .beforeOrEqual v (some text) = .invalid) ∧
          (check now .before v (some text) = .pass ↔
            check now .afterOrEqual v (some text) = .invalid) ∧
          ¬ (check now .after v (some text) = .pass ∧
            check now .before v (some text) = .pass)) ∧
    ∀ first last : String, ',' ∉ first.toList → ¬ NamesClock first.toList →
      ¬ NamesClock last.toList →
      (check now .dateBetween v (some (first ++ "," ++ last)) = .badParam .invalidDate ↔
        readMoment? first.toList = none ∨ readMoment? last.toList = none) ∧
      ∀ a b, readMoment? first.toList = some a → readMoment? last.toList = some b →
        (check now .dateBetween v (some (first ++ "," ++ last)) = .pass ↔
          check now .afterOrEqual v (some first) = .pass ∧
            check now .beforeOrEqual v (some last) = .pass) := by
  constructor
  · intro text noClock
    refine ⟨fun none kind mem => ?_, fun bound date => ⟨fun none kind mem => ?_, fun m value => ?_⟩⟩
    · obtain ⟨test, compares⟩ := exists_compares mem
      exact compares.check_of_no_date noClock now v none
    · obtain ⟨test, compares⟩ := exists_compares mem
      rw [compares.check_of_date noClock now v date, none]
      rfl
    · exact check_complements noClock now v date value
  · intro first last free noClock noClock'
    exact ⟨check_dateBetween_eq_badParam_iff free noClock noClock' now v,
      fun a b => check_dateBetween_eq_pass_iff free noClock noClock' now v⟩

-- The leap second at the end of 2016 comes before the next year and after the second before it.
theorem check_order_of_dates_of_leap_second :
    let v : Json := .text "2016-12-31T23:59:60.5Z"
    (¬ NamesClock "2017-01-01".toList ∧ ¬ NamesClock "2016-12-31 23:59:59".toList ∧
      ¬ NamesClock "someday".toList) ∧
    check (.midnight 0) .before v (some "2017-01-01") = .pass ∧
    check (.midnight 0) .afterOrEqual v (some "2017-01-01") = .invalid ∧
    check (.midnight 0) .dateBetween v (some ("2016-12-31 23:59:59" ++ "," ++ "2017-01-01")) =
      .pass ∧
    (∀ kind ∈ comparing, kind.check (.midnight 0) v (some "someday") = .badParam .invalidDate) ∧
    ∀ kind ∈ comparing,
      kind.check (.midnight 0) (.text "someday") (some "2017-01-01") = .invalid := by
  intro v
  have noClock : ¬ NamesClock "2017-01-01".toList ∧ ¬ NamesClock "2016-12-31 23:59:59".toList ∧
      ¬ NamesClock "someday".toList := by decide +kernel
  obtain ⟨newYear, before, someday⟩ := noClock
  have beforeNewYear : check (.midnight 0) .before v (some "2017-01-01") = .pass := by
    decide +kernel
  have since : check (.midnight 0) .afterOrEqual v (some "2016-12-31 23:59:59") = .pass := by
    decide +kernel
  have notAfter : check (.midnight 0) .beforeOrEqual v (some "2017-01-01") = .pass := by
    decide +kernel
  obtain ⟨bound, date⟩ : ∃ m, readMoment? "2017-01-01".toList = some m :=
    Option.isSome_iff_exists.1 (by decide +kernel)
  obtain ⟨first, date'⟩ : ∃ m, readMoment? "2016-12-31 23:59:59".toList = some m :=
    Option.isSome_iff_exists.1 (by decide +kernel)
  obtain ⟨m, value⟩ : ∃ m, v.moment? = some m := Option.isSome_iff_exists.1 (by decide +kernel)
  obtain ⟨bounds, intervals⟩ := check_order_of_dates (.midnight 0) v
  obtain ⟨unreadable, -⟩ := bounds "someday" someday
  obtain ⟨-, readable⟩ := bounds "2017-01-01" newYear
  obtain ⟨-, complements⟩ := readable bound date
  obtain ⟨-, complement, -⟩ := complements m value
  obtain ⟨-, interval⟩ := intervals "2016-12-31 23:59:59" "2017-01-01" (by decide) before newYear
  obtain ⟨others, -⟩ := check_order_of_dates (.midnight 0) (.text "someday")
  obtain ⟨-, noDate⟩ := others "2017-01-01" newYear
  exact ⟨⟨newYear, before, someday⟩, beforeNewYear, complement.1 beforeNewYear,
    (interval first bound date' date).2 ⟨since, notAfter⟩, unreadable (by decide +kernel),
    (noDate bound date).1 (by decide +kernel)⟩

def UsesClock (text : List Char) : Prop :=
  NamesClock text ∨ ∃ first last, splitOnce ',' text = some (first, last) ∧
    (NamesClock first ∨ NamesClock last)

theorem boundParam_later {param : Option String} (noClock : ∀ text ∈ param, ¬ UsesClock text.toList)
    (now later : Moment) : boundParam now param = boundParam later param := by
  cases param with
  | none => rfl
  | some text => exact readBound_later (fun names => noClock text rfl (.inl names)) now later

theorem boundsParam_later {param : Option String}
    (noClock : ∀ text ∈ param, ¬ UsesClock text.toList) (now later : Moment) :
    boundsParam now param = boundsParam later param := by
  cases param with
  | none => rfl
  | some text =>
    cases split : splitOnce ',' text.toList with
    | none => rw [boundsParam_of_no_comma now split, boundsParam_of_no_comma later split]
    | some parts =>
      obtain ⟨first, last⟩ := parts
      have either : ¬ (NamesClock first ∨ NamesClock last) := fun names =>
        noClock text rfl (.inr ⟨first, last, split, names⟩)
      obtain ⟨notFirst, notLast⟩ := not_or.1 either
      rw [boundsParam_of_comma now split, boundsParam_of_comma later split,
        readBound_later notFirst now later, readBound_later notLast now later]

theorem check_later {param : Option String} (noClock : ∀ text ∈ param, ¬ UsesClock text.toList)
    (now later : Moment) (kind : Kind) (v : Json) :
    kind.check now v param = kind.check later v param := by
  have same : kind.condition now param = kind.condition later param := by
    cases kind with
    | after | before | afterOrEqual | beforeOrEqual =>
      simp only [condition, boundParam_later noClock now later]
    | dateBetween => simp only [condition, boundsParam_later noClock now later]
    | _ => rfl
  rw [check, check, same]

def dated : List Kind := .date :: .dateBetween :: comparing

theorem check_of_same_moment {v w : Json} (same : v.moment? = w.moment?) (mem : kind ∈ dated)
    (now : Moment) (param : Option String) :
    kind.check now v param = kind.check now w param := by
  have agree (condition : Moment → Bool) : momentWith condition v = momentWith condition w := by
    rw [momentWith, momentWith, same]
  rcases List.mem_cons.1 mem with rfl | mem
  · simp only [check, condition, agree]
  rcases List.mem_cons.1 mem with rfl | mem
  · exact check_congr rfl fun bounds _ => agree _
  · obtain ⟨test, compares⟩ := exists_compares mem
    exact check_congr (compares.condition_eq now param) fun bound _ => agree _

open Timestamp in
theorem check_millis_eq_check_timestamp {n minutes : Int} (inRange : -2 ^ 63 ≤ n ∧ n < 2 ^ 64)
    (offset : -1440 < minutes ∧ minutes < 1440) (years : FourDigitYear (n + minutes * 60000))
    {text : List Char} (written : text ∈ texts n minutes) :
    (∀ now param, check now .date (.number (.int n inRange)) param = .pass) ∧
    ∀ kind ∈ dated, ∀ now later param,
      (now = later ∨ ∀ given ∈ param, ¬ UsesClock given.toList) →
      kind.check now (.number (.int n inRange)) param =
        kind.check later (.text (String.ofList text)) param := by
  obtain ⟨m, read, millis⟩ := readMoment?_of_mem_texts (by omega) years written
  have number : (Json.number (.int n inRange)).moment? = some m := millis
  have timestamp : (Json.text (String.ofList text)).moment? = some m := by
    rw [Json.moment?, String.toList_ofList, read]
  constructor
  · intro now param
    simp [check, condition, momentWith, number]
  · intro kind mem now later param clock
    rw [check_of_same_moment (number.trans timestamp.symm) mem]
    rcases clock with rfl | noClock
    · rfl
    · exact check_later noClock now later kind _

open Timestamp in
theorem check_millis_eq_check_timestamp_of_next_year :
    let text := "1970-01-01T23:58:59.999+23:59".toList
    let v : Json := .number (.int (-1) (by decide))
    (FourDigitYear (-1 + 1439 * 60000) ∧ text ∈ texts (-1) 1439 ∧
      ¬ UsesClock "1969-12-31T23:59:59.9,1970-01-01".toList) ∧
    check (.midnight 0) .date v none = .pass ∧
    check (.midnight 0) .dateBetween v (some "1969-12-31T23:59:59.9,1970-01-01") = .pass ∧
    check (.midnight 1) .dateBetween (.text (String.ofList text))
      (some "1969-12-31T23:59:59.9,1970-01-01") = .pass := by
  intro text v
  have years : FourDigitYear (-1 + 1439 * 60000) := by decide +kernel
  have written : text ∈ texts (-1) 1439 := by decide +kernel
  have noClock : ¬ UsesClock "1969-12-31T23:59:59.9,1970-01-01".toList := by
    rintro (names | ⟨first, last, split, names⟩)
    · exact absurd names (by decide +kernel)
    · rw [show splitOnce ',' "1969-12-31T23:59:59.9,1970-01-01".toList =
        some ("1969-12-31T23:59:59.9".toList, "1970-01-01".toList) by decide +kernel] at split
      obtain ⟨rfl, rfl⟩ := Prod.mk.inj (Option.some.inj split)
      exact absurd names (by decide +kernel)
  have passes : check (.midnight 0) .dateBetween v (some "1969-12-31T23:59:59.9,1970-01-01") =
      .pass := by
    decide +kernel
  obtain ⟨date, same⟩ :=
    check_millis_eq_check_timestamp (n := -1) (by decide) (by decide) years written
  have agrees := same .dateBetween (by decide) (.midnight 0) (.midnight 1)
    (some "1969-12-31T23:59:59.9,1970-01-01") (.inr fun given is => Option.some.inj is ▸ noClock)
  exact ⟨⟨years, written, noClock⟩, date _ none, passes, agrees ▸ passes⟩

end Kind

end FieldRules
