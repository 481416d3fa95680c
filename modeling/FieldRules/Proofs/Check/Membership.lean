import FieldRules.Proofs.Check.Agreement
import FieldRules.Proofs.Check.Magnitude
import FieldRules.Proofs.Json.Spelling

set_option autoImplicit false

namespace FieldRules

theorem Membership.ofText?_of_commas {pieces : List (List Char)} (several : 2 ≤ pieces.length)
    (free : ∀ piece ∈ pieces, ',' ∉ piece)
    (noArray : (trimBlanks (List.intercalate [','] pieces)).head? ≠ some '[') :
    ofText? (List.intercalate [','] pieces) =
      some (items (pieces.map fun piece => .text (String.ofList (trimBlanks piece)))) := by
  have nonempty : pieces ≠ [] := by
    rintro rfl
    simp at several
  have comma : ',' ∈ List.intercalate [','] pieces := by
    match pieces, several with
    | first :: second :: rest, _ => simp [List.intercalate_cons_cons]
  have comma := mem_trimBlanks comma (by decide)
  have trimmed : (splitAt ',' (trimBlanks (List.intercalate [','] pieces))).map trimBlanks =
      (splitAt ',' (List.intercalate [','] pieces)).map trimBlanks :=
    trimBlanks_splitAt_trimBlanks (by decide) _
  rw [splitAt_intercalate nonempty free] at trimmed
  have values := congrArg (List.map fun piece => Json.text (String.ofList piece)) trimmed
  simp only [List.map_map] at values
  simp [ofText?, noArray, comma]
  exact values

theorem Membership.ofText?_of_array {text : List Char} {pieces : List (List Char)}
    {ds : List Document} (texts : List.Forall₂ Document.ItemText pieces ds) (nonempty : pieces ≠ [])
    (array : trimBlanks text = '[' :: (List.intercalate [','] pieces ++ [']'])) :
    ofText? text = (Document.jsonItems? ds).map items := by
  have read := Document.read?_array texts nonempty
  cases values : Document.jsonItems? ds with
  | none => simp [ofText?, array, Document.readJson?, read, Document.json?, values]
  | some vs => simp [ofText?, array, Document.readJson?, read, Document.json?, values]

-- The digits of an integer as a text, or the integer itself.
inductive Identifies : Json → Int → Prop
  | text (n : Int) : Identifies (.text (String.ofList (integerDigits n))) n
  | number (n : Int) (inRange : -2 ^ 63 ≤ n ∧ n < 2 ^ 64) : Identifies (.number (.int n inRange)) n

-- What an integer is compared as: itself after rounding.
def StandsFor (v : Json) (rounded : Int) : Prop := v.meaning = .number (rounded * unitsPerOne)

theorem standsFor_text {n : Int} (near : HasNearest n) :
    StandsFor (.text (String.ofList (integerDigits n))) (nearestInt n) := by
  obtain ⟨x, read, units⟩ := exists_readNumber?_of_integerText (integerText_integerDigits n) near
  have number : (Json.text (String.ofList (integerDigits n))).scalarNumber? = some x := by
    rw [Json.scalarNumber?, String.toList_ofList, read]
  rw [StandsFor, Json.meaning, number, ← units]

theorem standsFor_number {number : Number} {rounded : Int}
    (units : number.value.toUnits = rounded * unitsPerOne) :
    StandsFor (.number number) rounded := by
  rw [StandsFor, Json.meaning, Json.scalarNumber?, ← units]

theorem Identifies.standsFor {v : Json} {n : Int} (value : Identifies v n) (near : HasNearest n) :
    StandsFor v (nearestInt n) := by
  cases value with
  | text => exact standsFor_text near
  | number inRange => exact standsFor_number (Binary64.toUnits_ofInt n (by omega))

theorem looselySame_iff_of_standsFor {v w : Json} {m n : Int} (left : StandsFor v m)
    (right : StandsFor w n) : v.looselySame w = true ↔ m = n := by
  have positive : (unitsPerOne : Int) ≠ 0 := Int.natCast_ne_zero.2 (Nat.ne_of_gt unitsPerOne_pos)
  rw [Json.looselySame_iff, left, right, Meaning.number.injEq, Int.mul_eq_mul_right_iff positive]

inductive Listed where
  -- An item is a number when it stands in a JSON array without quotes.
  | text (n : Int)
  | number (n : Int)

namespace Listed

def integer : Listed → Int
  | text n | number n => n

def rounded : Listed → Int
  | text n => nearestInt n
  | number n => nearestInt (partsProduct n)

def Readable : Listed → Prop
  | text n => HasNearest n
  | number n => HasParts n

instance : DecidablePred Readable
  | text n => inferInstanceAs (Decidable (HasNearest n))
  | number n => inferInstanceAs (Decidable (HasParts n))

def document : Listed → Document
  | text n => .text (String.ofList (integerDigits n))
  | number n => ((Document.writtenInteger? n).map .number).getD .unreadable

theorem exists_json?_document {item : Listed} (readable : item.Readable) :
    ∃ v, item.document.json? = some v ∧ StandsFor v item.rounded := by
  cases item with
  | text n => exact ⟨_, rfl, standsFor_text readable⟩
  | number n =>
    obtain ⟨number, read, units⟩ := Document.exists_writtenInteger? readable
    refine ⟨.number number, ?_, standsFor_number units⟩
    rw [document, read]
    rfl

theorem json?_document_of_tooLarge {n : Int} (tooLarge : ¬ HasParts n) :
    (number n).document.json? = none := by
  rw [document, Document.writtenInteger?_of_not_hasParts tooLarge]
  rfl

theorem exists_jsonItems? {items : List Listed} (readable : ∀ item ∈ items, item.Readable) :
    ∃ vs, Document.jsonItems? (items.map document) = some vs ∧
      List.Forall₂ StandsFor vs (items.map rounded) := by
  induction items with
  | nil => exact ⟨[], rfl, .nil⟩
  | cons item items ih =>
    obtain ⟨first, later⟩ := List.forall_mem_cons.1 readable
    obtain ⟨v, value, stands⟩ := exists_json?_document first
    obtain ⟨vs, values, standFor⟩ := ih later
    exact ⟨v :: vs, by simp [Document.jsonItems?, value, values], .cons stands standFor⟩

theorem jsonItems?_of_tooLarge {items : List Listed} {n : Int} (member : number n ∈ items)
    (tooLarge : ¬ HasParts n) : Document.jsonItems? (items.map document) = none := by
  induction items with
  | nil => simp at member
  | cons item items ih =>
    rcases List.mem_cons.1 member with rfl | member
    next => simp [Document.jsonItems?, json?_document_of_tooLarge tooLarge]
    next => simp [Document.jsonItems?, ih member]

theorem readable_of_lt {item : Listed} (small : item.integer.natAbs < 2 ^ 64) :
    item.Readable := by
  cases item with
  | text n => exact hasNearest_of_le (Nat.le_of_lt small)
  | number n => exact hasParts_of_lt small

theorem rounded_of_lt {item : Listed} (small : item.integer.natAbs < 2 ^ 64) :
    item.rounded = nearestInt item.integer := by
  cases item with
  | text n => rfl
  | number n =>
    have same : partsProduct n = nearestInt n := partsProduct_of_lt small
    rw [rounded, same, nearestInt_nearestInt, integer]

theorem nearestInt_eq_rounded_iff_of_small {a : Int} {item : Listed}
    (small : a.natAbs < 2 ^ 53 ∨ item.integer.natAbs < 2 ^ 53) :
    nearestInt a = item.rounded ↔ a = item.integer := by
  cases item with
  | text n => exact nearestInt_eq_iff_of_small small
  | number n => exact nearestInt_eq_parts_iff_of_small small

end Listed

-- With gaps around it, as each item of a JSON array.
inductive IntegerItem : List Char → Listed → Prop
  | bare {front back : List Char} (gapFront : ∀ c ∈ front, Document.isGap c = true)
      (gapBack : ∀ c ∈ back, Document.isGap c = true) (n : Int) :
      IntegerItem (front ++ integerDigits n ++ back) (.number n)
  | quoted {front back : List Char} (gapFront : ∀ c ∈ front, Document.isGap c = true)
      (gapBack : ∀ c ∈ back, Document.isGap c = true) (n : Int) :
      IntegerItem (front ++ '"' :: (integerDigits n ++ ['"']) ++ back) (.text n)

-- Two or more integers with commas between, or a JSON array.
inductive IntegerList (text : List Char) : List Listed → Prop
  | commas {pieces : List (List Char)} {ns : List Int} (several : 2 ≤ ns.length)
      (items : List.Forall₂ (fun piece n => trimBlanks piece = integerDigits n) pieces ns)
      (whole : text = List.intercalate [','] pieces) : IntegerList text (ns.map .text)
  | array {pieces : List (List Char)} {items : List Listed} (nonempty : items ≠ [])
      (written : List.Forall₂ IntegerItem pieces items)
      (whole : trimBlanks text = '[' :: (List.intercalate [','] pieces ++ [']'])) :
      IntegerList text items
  | empty {gap : List Char} (gaps : ∀ c ∈ gap, Document.isGap c = true)
      (whole : trimBlanks text = '[' :: (gap ++ [']'])) : IntegerList text []

theorem isPlain_of_integerDigits (n : Int) : ∀ c ∈ integerDigits n, Document.IsPlain c := by
  intro c member
  rcases (integerText_integerDigits n).char c member with digit | rfl | rfl
  · have range := (isDigit_iff _).1 digit
    refine ⟨?_, ?_, by omega⟩ <;> (rintro rfl; simp at digit)
  · decide
  · decide

theorem IntegerItem.itemText {piece : List Char} {item : Listed}
    (written : IntegerItem piece item) : Document.ItemText piece item.document := by
  cases written with
  | bare gapFront gapBack n => exact Document.itemText_integer gapFront gapBack n
  | quoted gapFront gapBack n =>
    have spelling :
        Document.TextSpelling (String.ofList (integerDigits n)).toList (integerDigits n) := by
      rw [String.toList_ofList]
      exact Document.textSpelling_plain (isPlain_of_integerDigits n)
    exact (Document.TextItem.quoted gapFront gapBack spelling).itemText

theorem itemTexts_of_integerItems {pieces : List (List Char)} {items : List Listed}
    (written : List.Forall₂ IntegerItem pieces items) :
    List.Forall₂ Document.ItemText pieces (items.map Listed.document) :=
  List.forall₂_map_right_iff.2 (written.imp fun _ _ item => item.itemText)

theorem not_mem_of_pieces {pieces : List (List Char)} {ns : List Int}
    (items : List.Forall₂ (fun piece n => trimBlanks piece = integerDigits n) pieces ns) {c : Char}
    (solid : isBlank c = false) (other : c.isDigit = false ∧ c ≠ '+' ∧ c ≠ '-') :
    ∀ piece ∈ pieces, c ∉ piece := by
  induction items with
  | nil => simp
  | @cons piece n pieces ns trimmed items ih =>
    refine List.forall_mem_cons.2 ⟨fun member => ?_, ih⟩
    have member := mem_trimBlanks member solid
    rw [trimmed] at member
    exact (integerText_integerDigits n).not_mem other member

theorem standsFor_pieces {pieces : List (List Char)} {ns : List Int}
    (items : List.Forall₂ (fun piece n => trimBlanks piece = integerDigits n) pieces ns)
    (near : ∀ n ∈ ns, HasNearest n) :
    List.Forall₂ StandsFor
      (pieces.map fun piece => .text (String.ofList (trimBlanks piece))) (ns.map nearestInt) := by
  induction items with
  | nil => exact .nil
  | @cons piece n pieces ns trimmed items ih =>
    obtain ⟨first, later⟩ := List.forall_mem_cons.1 near
    rw [List.map_cons, List.map_cons, trimmed]
    exact .cons (standsFor_text first) (ih later)

theorem Membership.ofText?_of_integerItems {text : List Char} {pieces : List (List Char)}
    {items : List Listed} (nonempty : items ≠ []) (written : List.Forall₂ IntegerItem pieces items)
    (whole : trimBlanks text = '[' :: (List.intercalate [','] pieces ++ [']'])) :
    ofText? text = (Document.jsonItems? (items.map Listed.document)).map .items := by
  have some : pieces ≠ [] := by
    rintro rfl
    cases written
    contradiction
  exact ofText?_of_array (itemTexts_of_integerItems written) some whole

theorem Membership.ofText?_of_integerList {text : List Char} {items : List Listed}
    (list : IntegerList text items) (readable : ∀ item ∈ items, item.Readable) :
    ∃ vs, ofText? text = some (.items vs) ∧
      List.Forall₂ StandsFor vs (items.map Listed.rounded) := by
  cases list with
  | @commas pieces ns several items whole =>
    have length := items.length_eq
    have noArray : (trimBlanks text).head? ≠ some '[' := by
      intro bracket
      have member := mem_of_mem_trimBlanks (List.mem_of_mem_head? bracket)
      rw [whole] at member
      rcases mem_intercalate member with comma | ⟨piece, among, inside⟩
      · simp at comma
      · exact not_mem_of_pieces items (by decide) (by decide) piece among inside
    rw [whole] at noArray ⊢
    have free := not_mem_of_pieces (c := ',') items (by decide) (by decide)
    have near : ∀ n ∈ ns, HasNearest n := fun n member => readable (.text n) (by simp [member])
    refine ⟨_, ofText?_of_commas (by omega) free noArray, ?_⟩
    rw [List.map_map]
    exact standsFor_pieces items near
  | array nonempty written whole =>
    obtain ⟨vs, values, stands⟩ := Listed.exists_jsonItems? readable
    exact ⟨vs, by rw [ofText?_of_integerItems nonempty written whole, values]; rfl, stands⟩
  | empty gaps whole =>
    refine ⟨[], ?_, .nil⟩
    simp [ofText?, whole, Document.readJson?, Document.read?_no_items gaps, Document.json?,
      Document.jsonItems?]

theorem Membership.ofText?_of_tooLarge {text : List Char} {items : List Listed}
    (list : IntegerList text items) {n : Int} (member : .number n ∈ items)
    (tooLarge : ¬ HasParts n) : ofText? text = none := by
  cases list with
  | commas => simp at member
  | array nonempty written whole =>
    rw [ofText?_of_integerItems nonempty written whole,
      Listed.jsonItems?_of_tooLarge member tooLarge]
    rfl
  | empty => simp at member

theorem Membership.items_holds_iff {v : Json} {m : Int} (value : StandsFor v m) {vs : List Json}
    {ns : List Int} (stands : List.Forall₂ StandsFor vs ns) :
    (Membership.items vs).holds v = true ↔ m ∈ ns := by
  induction stands with
  | nil => simp [holds]
  | @cons w n vs ns item stands ih =>
    have same := looselySame_iff_of_standsFor value item
    simp only [holds, List.any_cons, Bool.or_eq_true] at ih ⊢
    rw [ih, same, List.mem_cons]

namespace Kind

variable (now : Moment) {v : Json} {a : Int}

theorem check_equality_of_read {param : Option String} {w : Json}
    (read : equalParam param = .ok w) (v : Json) :
    (check now .equalTo v param = .pass ↔ v.looselySame w = true) ∧
      (check now .notEqualTo v param = .pass ↔ ¬ v.looselySame w = true) := by
  have equal : condition now param .equalTo = .ok fun v => v.looselySame w := by
    simp only [condition, read, Except.map]
  have unequal : condition now param .notEqualTo = .ok fun v => !v.looselySame w := by
    simp only [condition, read, Except.map]
  rw [check_eq_pass_iff equal, check_eq_pass_iff unequal]
  simp

theorem check_membership_of_read {param : Option String} {members : Membership}
    (read : membershipParam param = .ok members) (v : Json) :
    (check now .isIn v param = .pass ↔ members.holds v = true) ∧
      (check now .notIn v param = .pass ↔ ¬ members.holds v = true) := by
  have among : condition now param .isIn = .ok fun v => members.holds v := by
    simp only [condition, read, Except.map]
  have absent : condition now param .notIn = .ok fun v => !members.holds v := by
    simp only [condition, read, Except.map]
  rw [check_eq_pass_iff among, check_eq_pass_iff absent]
  simp

theorem check_equality_of_standsFor {m : Int} (value : StandsFor v m) {b : Int}
    (near : HasNearest b) :
    (check now .equalTo v (some (String.ofList (integerDigits b))) = .pass ↔ m = nearestInt b) ∧
      (check now .notEqualTo v (some (String.ofList (integerDigits b))) = .pass ↔
        m ≠ nearestInt b) := by
  have read := equalParam_some (String.ofList (integerDigits b))
  have same := looselySame_iff_of_standsFor value (standsFor_text near)
  rw [← same, ne_eq, ← same]
  exact check_equality_of_read now read v

theorem check_membership_of_standsFor {m : Int} (value : StandsFor v m) {text : String}
    {items : List Listed} (list : IntegerList text.toList items)
    (readable : ∀ item ∈ items, item.Readable) :
    (check now .isIn v (some text) = .pass ↔ ∃ item ∈ items, m = item.rounded) ∧
      (check now .notIn v (some text) = .pass ↔ ∀ item ∈ items, m ≠ item.rounded) := by
  obtain ⟨vs, found, stands⟩ := Membership.ofText?_of_integerList list readable
  have read := membershipParam_of_text found
  obtain ⟨isMember, noMember⟩ := check_membership_of_read now read v
  have holds : (Membership.items vs).holds v = true ↔ ∃ item ∈ items, m = item.rounded := by
    rw [Membership.items_holds_iff value stands, List.mem_map]
    simp only [eq_comm]
  refine ⟨isMember.trans holds, noMember.trans ?_⟩
  rw [holds]
  simp

theorem check_membership_of_tooLarge (v : Json) {text : String} {items : List Listed}
    (list : IntegerList text.toList items) {n : Int} (member : .number n ∈ items)
    (tooLarge : ¬ HasParts n) :
    check now .isIn v (some text) = .badParam .invalidList ∧
      check now .notIn v (some text) = .badParam .invalidList := by
  have read : membershipParam (some text) = .error .invalidList := by
    simp [membershipParam, requiredParam, Membership.ofText?_of_tooLarge list member tooLarge, bind,
      Except.bind]
  simp [check, condition, read, Except.map]

-- Two integers are told apart unless they round to the same number, which takes large ones. A
-- number of an array beyond 64 bits is rounded in parts, and an array is refused for one that
-- this takes out of range.
theorem check_agreement_of_integer (value : Identifies v a) (near : HasNearest a) :
    (∀ b : Int, HasNearest b →
      (check now .equalTo v (some (String.ofList (integerDigits b))) = .pass ↔
        nearestInt a = nearestInt b) ∧
      (check now .notEqualTo v (some (String.ofList (integerDigits b))) = .pass ↔
        nearestInt a ≠ nearestInt b)) ∧
    (∀ (text : String) (items : List Listed), IntegerList text.toList items →
      ((∀ item ∈ items, item.Readable) →
        (check now .isIn v (some text) = .pass ↔ ∃ item ∈ items, nearestInt a = item.rounded) ∧
        (check now .notIn v (some text) = .pass ↔ ∀ item ∈ items, nearestInt a ≠ item.rounded)) ∧
      ∀ n, .number n ∈ items → ¬ HasParts n →
        check now .isIn v (some text) = .badParam .invalidList ∧
        check now .notIn v (some text) = .badParam .invalidList) ∧
    (∀ item : Listed, item.integer.natAbs < 2 ^ 64 →
      item.Readable ∧ item.rounded = nearestInt item.integer) ∧
    ∀ item : Listed, a.natAbs < 2 ^ 53 ∨ item.integer.natAbs < 2 ^ 53 →
      (nearestInt a = item.rounded ↔ a = item.integer) := by
  have stands := value.standsFor near
  refine ⟨?_, ?_, ?_, ?_⟩
  · intro b near
    exact check_equality_of_standsFor now stands near
  · intro text items list
    constructor
    · intro readable
      exact check_membership_of_standsFor now stands list readable
    · intro n member tooLarge
      exact check_membership_of_tooLarge now v list member tooLarge
  · intro item word
    exact ⟨Listed.readable_of_lt word, Listed.rounded_of_lt word⟩
  · intro item small
    exact Listed.nearestInt_eq_rounded_iff_of_small small

-- A text of twenty-one digits, against itself less the last digit and against lists of both
-- forms: without quotes it is another number.
theorem check_agreement_of_integer_of_long :
    let v : Json := .text "123456789012345678901"
    Identifies v 123456789012345678901 ∧ HasNearest 123456789012345678901 ∧
      check (.midnight 0) .equalTo v (some "12345678901234567890") ≠ .pass ∧
      IntegerList "-7 , 123456789012345678901".toList
        [.text (-7), .text 123456789012345678901] ∧
      check (.midnight 0) .isIn v (some "-7 , 123456789012345678901") = .pass ∧
      IntegerList "[-7, \"12345678901234567890\" ]".toList
        [.number (-7), .text 12345678901234567890] ∧
      check (.midnight 0) .notIn v (some "[-7, \"12345678901234567890\" ]") = .pass ∧
      IntegerList "[123456789012345678901]".toList [.number 123456789012345678901] ∧
      check (.midnight 0) .notIn v (some "[123456789012345678901]") = .pass := by
  intro v
  have digits : String.ofList (integerDigits 123456789012345678901) = "123456789012345678901" := by
    decide +kernel
  have shorter : String.ofList (integerDigits 12345678901234567890) = "12345678901234567890" := by
    decide +kernel
  have value : Identifies (.text "123456789012345678901") 123456789012345678901 :=
    digits ▸ .text 123456789012345678901
  have near : HasNearest 123456789012345678901 := by decide +kernel
  have noGap : ∀ c ∈ ([] : List Char), Document.isGap c = true := by simp
  have gap : ∀ c ∈ [' '], Document.isGap c = true := by simp [Document.isGap]
  have commas : IntegerList "-7 , 123456789012345678901".toList
      [.text (-7), .text 123456789012345678901] := by
    have pieces : List.Forall₂ (fun piece n => trimBlanks piece = integerDigits n)
        ["-7 ".toList, " 123456789012345678901".toList] [-7, 123456789012345678901] :=
      .cons (by decide +kernel) (.cons (by decide +kernel) .nil)
    exact .commas (by decide) pieces (by decide +kernel)
  have quoted : IntegerList "[-7, \"12345678901234567890\" ]".toList
      [.number (-7), .text 12345678901234567890] := by
    have items := List.Forall₂.cons (IntegerItem.bare noGap noGap (-7))
      (.cons (IntegerItem.quoted gap gap 12345678901234567890) .nil)
    exact .array (by simp) items (by decide +kernel)
  have bare : IntegerList "[123456789012345678901]".toList [.number 123456789012345678901] :=
    .array (by simp) (.cons (IntegerItem.bare noGap noGap 123456789012345678901) .nil)
      (by decide +kernel)
  obtain ⟨equality, membership, -⟩ := check_agreement_of_integer (.midnight 0) value near
  obtain ⟨equal, -⟩ := equality 12345678901234567890 (by decide +kernel)
  obtain ⟨among, -⟩ := (membership _ _ commas).1 (by decide +kernel)
  obtain ⟨-, absent⟩ := (membership _ _ quoted).1 (by decide +kernel)
  obtain ⟨-, other⟩ := (membership _ _ bare).1 (by decide +kernel)
  rw [shorter] at equal
  refine ⟨value, near, fun passes => ?_, commas, among.2 ?_, quoted, absent.2 ?_, bare, other.2 ?_⟩
  · exact absurd (equal.1 passes) (by decide +kernel)
  · exact ⟨.text 123456789012345678901, by simp, rfl⟩
  · decide +kernel
  · decide +kernel

theorem check_agreement_of_rounded :
    let even : Int := 9007199254740992
    let odd : Int := 9007199254740993
    even ≠ odd ∧
      check (.midnight 0) .equalTo (.text "9007199254740993") (some "9007199254740992") = .pass ∧
      check (.midnight 0) .equalTo (.number (.int odd (by decide))) (some "9007199254740992") =
        .pass ∧
      check (.midnight 0) .notEqualTo (.text "9007199254740993") (some "9007199254740992") =
        .invalid ∧
      check (.midnight 0) .isIn (.text "9007199254740993") (some "1,9007199254740992") = .pass ∧
      check (.midnight 0) .notIn (.text "9007199254740993") (some "[9007199254740992]") =
        .invalid := by
  decide +kernel

end Kind

end FieldRules
