import FieldRules.Check.Basic
import FieldRules.Proofs.Json.Same
import FieldRules.Proofs.Number.ReadBack

set_option autoImplicit false

namespace FieldRules

inductive Meaning where
  | number (units : Int)
  | text (cs : List Char)
  | tree (v : Json)

namespace Json

def meaning (v : Json) : Meaning :=
  match v.scalarNumber?, v.scalarText? with
  | some x, _ => .number x.toUnits
  | none, some s => .text s
  | none, none => .tree v.unsignedZeros

-- The number of a scalar is a matter of its text, also when the text comes from a number.
theorem readNumber?_of_scalarText? {v : Json} {s : List Char} (written : v.scalarText? = some s) :
    readNumber? s = v.scalarNumber? := by
  cases v with
  | number n =>
    obtain rfl := Option.some.inj written
    exact n.readNumber?_text
  | text t =>
    obtain rfl := Option.some.inj written
    rfl
  | bool b =>
    obtain rfl := Option.some.inj written
    cases b <;> decide
  | _ => simp [scalarText?] at written

theorem meaning_eq_of_same {v w : Json} (equal : v.same w = true) : v.meaning = w.meaning := by
  have dropped := (same_iff v w).1 equal
  cases v with
  | number m =>
    cases w with
    | number n => simpa [meaning, scalarNumber?] using Number.toUnits_of_same equal
    | _ => simp [same] at equal
  | array | object =>
    cases w with
    | array | object => simpa [meaning, scalarNumber?, scalarText?] using dropped
    | _ => simp [same] at equal
  | null | bool | text => cases w <;> simp_all [same]

theorem looselySame_iff (v w : Json) : v.looselySame w = true ↔ v.meaning = w.meaning := by
  unfold looselySame
  rw [Bool.or_eq_true]
  constructor
  · rintro (equal | agree)
    · exact meaning_eq_of_same equal
    · split at agree
      next x y left right =>
        simpa [meaning, left, right, Binary64.same] using agree
      next apart =>
        split at agree
        next s t left right =>
          obtain rfl : s = t := by simpa using agree
          have numbers : v.scalarNumber? = w.scalarNumber? :=
            (readNumber?_of_scalarText? left).symm.trans (readNumber?_of_scalarText? right)
          have none : v.scalarNumber? = none := by
            refine Option.eq_none_iff_forall_not_mem.2 fun x number => ?_
            exact apart x x number (numbers ▸ number)
          simp [meaning, left, right, none, numbers ▸ none]
        next => simp at agree
  · intro equal
    unfold meaning at equal
    -- Equal meanings are of one sort, and each sort answers one of the questions.
    split at equal <;> split at equal <;> simp_all [Binary64.same, same_iff]

theorem looselySame_of_scalarText? {v : Json} {s : List Char} (written : v.scalarText? = some s) :
    v.looselySame (.text (String.ofList s)) = true := by
  have number : (Json.text (String.ofList s)).scalarNumber? = v.scalarNumber? := by
    rw [scalarNumber?, String.toList_ofList, readNumber?_of_scalarText? written]
  have same : (Json.text (String.ofList s)).scalarText? = v.scalarText? := by
    rw [scalarText?, String.toList_ofList, written]
  rw [looselySame_iff, meaning, meaning, number, same, written]
  cases v.scalarNumber? <;> rfl

theorem exists_scalarText? {v : Json} (scalar : v.isText ∨ v.isBool ∨ v.isNumber) :
    ∃ s, v.scalarText? = some s := by
  cases v with
  | text | bool | number => exact ⟨_, rfl⟩
  | _ => simp [isText, isBool, isNumber] at scalar

theorem looselySame_congr {v w : Json} (close : v.looselySame w = true) (u : Json) :
    v.looselySame u = w.looselySame u := by
  rw [Bool.eq_iff_iff, looselySame_iff, looselySame_iff, (looselySame_iff v w).1 close]

theorem looselySame_equivalence : Equivalence fun v w : Json => v.looselySame w = true where
  refl v := (looselySame_iff v v).2 rfl
  symm {v w} close := (looselySame_iff w v).2 ((looselySame_iff v w).1 close).symm
  trans {u v w} first second :=
    (looselySame_iff u w).2 (((looselySame_iff u v).1 first).trans ((looselySame_iff v w).1 second))

end Json

theorem equalParam_some (text : String) : equalParam (some text) = .ok (.text text) := by
  simp [equalParam, requiredParam, bind, Except.bind]

-- A JSON array by its first character, or texts with commas between.
def ListText (text : List Char) : Prop := (trimBlanks text).head? = some '[' ∨ ',' ∈ text

instance (text : List Char) : Decidable (ListText text) := instDecidableOr

theorem Membership.ofText?_of_list {text : List Char} (list : ListText text)
    {members : Membership} (read : Membership.ofText? text = some members) :
    ∃ values, members = .items values := by
  unfold Membership.ofText? at read
  dsimp only at read
  split at read
  next =>
    split at read
    next values _ => exact ⟨values, (Option.some.inj read).symm⟩
    next => simp at read
  next noBracket =>
    have comma : ',' ∈ trimBlanks text :=
      mem_trimBlanks (list.resolve_left noBracket) (by decide)
    rw [if_pos (by simpa using comma)] at read
    exact ⟨_, (Option.some.inj read).symm⟩

theorem membershipParam_of_list {text : String} (list : ListText text.toList)
    {members : Membership} (read : membershipParam (some text) = .ok members) :
    ∃ values, members = .items values := by
  cases found : Membership.ofText? text.toList with
  | none => simp [membershipParam, requiredParam, found, bind, Except.bind] at read
  | some given =>
    obtain rfl : given = members := by
      simpa [membershipParam, requiredParam, found, bind, Except.bind] using read
    exact Membership.ofText?_of_list list found

theorem membershipParam_of_text {text : String} {members : Membership}
    (read : Membership.ofText? text.toList = some members) :
    membershipParam (some text) = .ok members := by
  simp [membershipParam, requiredParam, read, bind, Except.bind]

theorem Membership.items_holds_congr {v w : Json} (close : v.looselySame w = true)
    (values : List Json) : (items values).holds v = (items values).holds w := by
  simp only [holds, funext (Json.looselySame_congr close)]

namespace Kind

variable {v w : Json}

theorem check_congr {α : Type} {now : Moment} {kind : Kind} {param : Option String}
    {reading : Except ParamError α} {test : α → Json → Bool}
    (condition : kind.condition now param = reading.map test)
    (agree : ∀ a, reading = .ok a → test a v = test a w) :
    kind.check now v param = kind.check now w param := by
  unfold check
  rw [condition]
  cases reading with
  | error e => rfl
  | ok a => simp only [Except.map, agree a rfl]

theorem check_equality_congr (close : v.looselySame w = true) (now : Moment)
    (param : Option String) :
    check now .equalTo v param = check now .equalTo w param ∧
      check now .notEqualTo v param = check now .notEqualTo w param := by
  constructor
  · exact check_congr rfl fun expected _ => Json.looselySame_congr close expected
  · exact check_congr rfl fun expected _ => congrArg not (Json.looselySame_congr close expected)

theorem check_membership_congr (close : v.looselySame w = true) (now : Moment)
    {param : Option String} (list : ∀ text ∈ param, ListText text.toList) :
    check now .isIn v param = check now .isIn w param ∧
      check now .notIn v param = check now .notIn w param := by
  have agree : ∀ members, membershipParam param = .ok members →
      members.holds v = members.holds w := by
    intro members read
    cases param with
    | none => simp [membershipParam, requiredParam, bind, Except.bind] at read
    | some text =>
      obtain ⟨values, rfl⟩ := membershipParam_of_list (list text rfl) read
      exact Membership.items_holds_congr close values
  constructor
  · exact check_congr rfl agree
  · exact check_congr rfl fun members read => congrArg not (agree members read)

theorem check_respects_looselySame :
    (Equivalence fun v w : Json => v.looselySame w = true) ∧
    ∀ v w : Json, v.looselySame w = true → ∀ (now : Moment) (param : Option String),
      check now .equalTo v param = check now .equalTo w param ∧
      check now .notEqualTo v param = check now .notEqualTo w param ∧
      ((∀ text ∈ param, ListText text.toList) →
        check now .isIn v param = check now .isIn w param ∧
        check now .notIn v param = check now .notIn w param) := by
  refine ⟨Json.looselySame_equivalence, fun v w close now param => ?_⟩
  obtain ⟨equal, unequal⟩ := check_equality_congr close now param
  exact ⟨equal, unequal, check_membership_congr close now⟩

theorem check_respects_looselySame_of_one :
    (Json.number (.int 1 (by decide))).looselySame (.text "1.0") = true ∧
    check (.midnight 0) .equalTo (.number (.int 1 (by decide))) (some "1e0") = .pass ∧
    check (.midnight 0) .equalTo (.text "1.0") (some "1e0") = .pass ∧
    ListText "1,2".toList ∧
    check (.midnight 0) .isIn (.number (.int 1 (by decide))) (some "1,2") = .pass ∧
    check (.midnight 0) .isIn (.text "1.0") (some "1,2") = .pass := by
  have close : (Json.number (.int 1 (by decide))).looselySame (.text "1.0") = true := by
    decide +kernel
  have list : ListText "1,2".toList := by decide +kernel
  have equal : check (.midnight 0) .equalTo (.number (.int 1 (by decide))) (some "1e0") =
      .pass := by
    decide +kernel
  have member : check (.midnight 0) .isIn (.number (.int 1 (by decide))) (some "1,2") = .pass := by
    decide +kernel
  obtain ⟨-, respected⟩ := check_respects_looselySame
  obtain ⟨equality, -, -⟩ := respected _ _ close (.midnight 0) (some "1e0")
  obtain ⟨-, -, membership⟩ := respected _ _ close (.midnight 0) (some "1,2")
  obtain ⟨isMember, -⟩ := membership fun text given => Option.some.inj given ▸ list
  exact ⟨close, equal, equality ▸ equal, list, member, isMember ▸ member⟩

-- A text that is no list is searched for the text of the value, which is not shared.
example : check (.midnight 0) .isIn (.number (.int 1 (by decide))) (some "1") ≠
    check (.midnight 0) .isIn (.text "1.0") (some "1") := by decide +kernel

theorem check_equality_of_own_text (now : Moment) (v : Json)
    (scalar : v.isText ∨ v.isBool ∨ v.isNumber) :
    ∃ s, v.scalarText? = some s ∧
      check now .equalTo v (some (String.ofList s)) = .pass ∧
      check now .notEqualTo v (some (String.ofList s)) = .invalid ∧
      (v.isNumber → ∃ x, v.scalarNumber? = some x ∧
        (Json.text (String.ofList s)).scalarNumber? = some x) := by
  obtain ⟨s, written⟩ := Json.exists_scalarText? scalar
  have same := Json.looselySame_of_scalarText? written
  refine ⟨s, written, ?_, ?_, fun isNumber => ?_⟩
  · simp [check, condition, equalParam_some, Except.map, same]
  · simp [check, condition, equalParam_some, Except.map, same]
  · cases v with
    | number n =>
      obtain rfl : n.text = s := Option.some.inj written
      refine ⟨n.value, rfl, ?_⟩
      rw [Json.scalarNumber?, String.toList_ofList, n.readNumber?_text]
    | _ => simp [Json.isNumber] at isNumber

theorem check_equality_of_own_text_of_extremes :
    let largest := Json.number (.int 18446744073709551615 (by decide))
    let zero := Json.number (.float ⟨true, 0, representable_zero⟩)
    largest.isNumber ∧ zero.isNumber ∧
    check (.midnight 0) .equalTo largest (some "18446744073709551615") = .pass ∧
    check (.midnight 0) .notEqualTo largest (some "18446744073709551615") = .invalid ∧
    check (.midnight 0) .equalTo zero (some "-0.0") = .pass ∧
    check (.midnight 0) .notEqualTo zero (some "-0.0") = .invalid ∧
    (Json.text "-0.0").scalarNumber? = zero.scalarNumber? := by
  intro largest zero
  have text : largest.scalarText? = some "18446744073709551615".toList := by decide +kernel
  have text' : zero.scalarText? = some "-0.0".toList := by decide +kernel
  obtain ⟨s, written, equal, unequal, -⟩ :=
    check_equality_of_own_text (.midnight 0) largest (.inr (.inr rfl))
  obtain ⟨s', written', equal', unequal', readBack⟩ :=
    check_equality_of_own_text (.midnight 0) zero (.inr (.inr rfl))
  obtain rfl := Option.some.inj (written.symm.trans text)
  obtain rfl := Option.some.inj (written'.symm.trans text')
  obtain ⟨x, number, read⟩ := readBack rfl
  exact ⟨rfl, rfl, equal, unequal, equal', unequal', read.trans number.symm⟩

end Kind

end FieldRules
