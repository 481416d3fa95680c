import FieldRules.Proofs.Check.Membership
import FieldRules.Proofs.Json.Spelling

set_option autoImplicit false

namespace FieldRules

def trimmed (text : String) : String := String.ofList (trimBlanks text.toList)

theorem Membership.ofText?_of_join {items : List String} (several : 2 ≤ items.length)
    (free : ∀ item ∈ items, ',' ∉ item.toList)
    (noArray : (trimBlanks (",".intercalate items).toList).head? ≠ some '[') :
    ofText? (",".intercalate items).toList =
      some (.items ((items.map trimmed).map Json.text)) := by
  have joined : (",".intercalate items).toList = List.intercalate [','] (items.map String.toList) :=
    String.toList_intercalate
  rw [joined] at noArray ⊢
  have read := ofText?_of_commas (by simpa using several) (by simpa using free) noArray
  simpa [trimmed, Function.comp_def] using read

-- Texts without outer blanks begin with a comma or with a character that stays in front.
theorem exists_join_cons {items : List String} (several : 2 ≤ items.length)
    (solid : ∀ item ∈ items, trimBlanks item.toList = item.toList)
    (noArray : ∀ first ∈ items.head?, first.toList.head? ≠ some '[') :
    ∃ c cs, (",".intercalate items).toList = c :: cs ∧ isBlank c = false ∧ c ≠ '[' := by
  match items, several with
  | first :: second :: rest, _ =>
    have kept := solid first (by simp)
    have opens := noArray first rfl
    rw [String.toList_intercalate, List.map_cons, List.map_cons, List.intercalate_cons_cons]
    cases text : first.toList with
    | nil => exact ⟨',', _, rfl, by decide, by decide⟩
    | cons c cs =>
      rw [text] at kept opens
      exact ⟨c, _, rfl, solid_of_trimBlanks_eq kept, by simpa using opens⟩

theorem head?_trimBlanks_join {items : List String} (several : 2 ≤ items.length)
    (solid : ∀ item ∈ items, trimBlanks item.toList = item.toList)
    (noArray : ∀ first ∈ items.head?, first.toList.head? ≠ some '[') :
    (trimBlanks (",".intercalate items).toList).head? ≠ some '[' := by
  obtain ⟨c, cs, joined, front, other⟩ := exists_join_cons several solid noArray
  rw [joined, head?_trimBlanks front]
  simpa using other

theorem map_trimmed_of_solid {items : List String}
    (solid : ∀ item ∈ items, trimBlanks item.toList = item.toList) : items.map trimmed = items := by
  have same : ∀ item ∈ items, trimmed item = id item := by
    intro item member
    rw [trimmed, solid item member, String.ofList_toList, id]
  rw [List.map_congr_left same, List.map_id]

theorem Membership.ofText?_of_textArray {text : List Char} {items : List String}
    (array : Document.TextArray text items) :
    ofText? text = some (.items (items.map Json.text)) := by
  obtain @⟨front, back, pieces, gapFront, gapBack, nonempty, quoted, whole⟩ := array
  have texts := Document.itemTexts_of_textItems quoted
  have bracketed : trimBlanks text = '[' :: (List.intercalate [','] pieces ++ [']']) := by
    rw [whole,
      trimBlanks_append_right fun c member => Document.isBlank_of_isGap (gapBack c member),
      trimBlanks_append_left fun c member => Document.isBlank_of_isGap (gapFront c member),
      trimBlanks_of_solid_ends (by decide) (by decide)]
  rw [ofText?_of_array texts nonempty bracketed, Document.jsonItems?_texts]
  rfl

namespace Kind

variable (now : Moment)

theorem check_membership_of_texts {param : String} {items : List String}
    (read : Membership.ofText? param.toList = some (.items (items.map Json.text))) (v : Json) :
    (check now .isIn v (some param) = .pass ↔
      ∃ item ∈ items, check now .equalTo v (some item) = .pass) ∧
    (check now .notIn v (some param) = .pass ↔
      ∀ item ∈ items, check now .notEqualTo v (some item) = .pass) := by
  have members := membershipParam_of_text read
  obtain ⟨isMember, noMember⟩ := check_membership_of_read now members v
  have equal (item : String) := (check_equality_of_read now (equalParam_some item) v).1
  have unequal (item : String) := (check_equality_of_read now (equalParam_some item) v).2
  have holds : (Membership.items (items.map Json.text)).holds v = true ↔
      ∃ item ∈ items, v.looselySame (.text item) = true := by
    simp [Membership.holds]
  constructor
  next =>
    rw [isMember, holds]
    simp only [equal]
  next =>
    rw [noMember, holds]
    simp only [unequal, not_exists, not_and]

theorem check_membership_complement {param : String} {members : Membership}
    (read : Membership.ofText? param.toList = some members) (v : Json) :
    (check now .isIn v (some param) = .pass ↔ check now .notIn v (some param) = .invalid) ∧
    ∀ e, check now .isIn v (some param) ≠ .badParam e ∧
      check now .notIn v (some param) ≠ .badParam e := by
  have members := membershipParam_of_text read
  simp [check, condition, members, Except.map]

theorem check_membership_of_commas (v : Json) {items : List String} (several : 2 ≤ items.length)
    (free : ∀ item ∈ items, ',' ∉ item.toList)
    (noArray : (trimBlanks (",".intercalate items).toList).head? ≠ some '[') :
    (check now .isIn v (some (",".intercalate items)) = .pass ↔
      ∃ item ∈ items, check now .equalTo v (some (trimmed item)) = .pass) ∧
    (check now .notIn v (some (",".intercalate items)) = .pass ↔
      ∀ item ∈ items, check now .notEqualTo v (some (trimmed item)) = .pass) ∧
    (check now .isIn v (some (",".intercalate items)) = .pass ↔
      check now .notIn v (some (",".intercalate items)) = .invalid) ∧
    ∀ e, check now .isIn v (some (",".intercalate items)) ≠ .badParam e ∧
      check now .notIn v (some (",".intercalate items)) ≠ .badParam e := by
  have read := Membership.ofText?_of_join several free noArray
  obtain ⟨isMember, noMember⟩ := check_membership_of_texts now read v
  obtain ⟨complement, readable⟩ := check_membership_complement now read v
  refine ⟨isMember.trans ?_, noMember.trans ?_, complement, readable⟩
  · simp
  · simp

theorem check_membership_of_commas_of_blanks :
    let one := Json.number (.int 1 (by decide))
    let items := [" ", "x", " 1.0 "]
    2 ≤ items.length ∧ (∀ item ∈ items, ',' ∉ item.toList) ∧
      ",".intercalate items = " ,x, 1.0 " ∧
      (trimBlanks " ,x, 1.0 ".toList).head? ≠ some '[' ∧
      check (.midnight 0) .equalTo one (some "1.0") = .pass ∧
      check (.midnight 0) .isIn one (some " ,x, 1.0 ") = .pass ∧
      check (.midnight 0) .notIn one (some " ,x, 1.0 ") = .invalid := by
  intro one items
  have several : 2 ≤ items.length := by decide
  have free : ∀ item ∈ items, ',' ∉ item.toList := by decide +kernel
  have joined : ",".intercalate items = " ,x, 1.0 " := by decide +kernel
  have noArray : (trimBlanks " ,x, 1.0 ".toList).head? ≠ some '[' := by decide +kernel
  have equal : check (.midnight 0) .equalTo one (some "1.0") = .pass := by decide +kernel
  obtain ⟨isMember, -, complement, -⟩ :=
    check_membership_of_commas (.midnight 0) one several free (joined ▸ noArray)
  rw [joined] at isMember complement
  have member := isMember.2 ⟨" 1.0 ", by simp [items], equal⟩
  exact ⟨several, free, joined, noArray, equal, member, complement.1 member⟩

theorem check_membership_of_notations (v : Json) {items : List String} (several : 2 ≤ items.length)
    (free : ∀ item ∈ items, ',' ∉ item.toList)
    (solid : ∀ item ∈ items, trimBlanks item.toList = item.toList)
    (noArray : ∀ first ∈ items.head?, first.toList.head? ≠ some '[') {text : String}
    (array : Document.TextArray text.toList items) :
    check now .isIn v (some text) = check now .isIn v (some (",".intercalate items)) ∧
    check now .notIn v (some text) = check now .notIn v (some (",".intercalate items)) ∧
    (check now .isIn v (some text) = .pass ↔
      ∃ item ∈ items, check now .equalTo v (some item) = .pass) ∧
    (check now .notIn v (some text) = .pass ↔
      ∀ item ∈ items, check now .notEqualTo v (some item) = .pass) := by
  have read := Membership.ofText?_of_textArray array
  have opening := head?_trimBlanks_join several solid noArray
  have read' := Membership.ofText?_of_join several free opening
  rw [map_trimmed_of_solid solid] at read'
  have same : membershipParam (some text) = membershipParam (some (",".intercalate items)) :=
    (membershipParam_of_text read).trans (membershipParam_of_text read').symm
  refine ⟨?_, ?_, check_membership_of_texts now read v⟩
  · simp only [check, condition, same]
  · simp only [check, condition, same]

theorem check_membership_of_notations_of_escapes :
    let items := ["\"", "é", "😀"]
    let text := " [ \"\\\"\",\"\\u00E9\" ,\n\"\\ud83d\\uDE00\"]"
    2 ≤ items.length ∧ (∀ item ∈ items, ',' ∉ item.toList) ∧
      (∀ item ∈ items, trimBlanks item.toList = item.toList) ∧
      Document.TextArray text.toList items ∧
      check (.midnight 0) .equalTo (.text "😀") (some "😀") = .pass ∧
      check (.midnight 0) .isIn (.text "😀") (some text) = .pass ∧
      ",".intercalate items = "\",é,😀" ∧
      check (.midnight 0) .isIn (.text "😀") (some "\",é,😀") = .pass := by
  intro items text
  have several : 2 ≤ items.length := by decide
  have free : ∀ item ∈ items, ',' ∉ item.toList := by decide +kernel
  have solid : ∀ item ∈ items, trimBlanks item.toList = item.toList := by decide +kernel
  have noArray : ∀ first ∈ items.head?, first.toList.head? ≠ some '[' := by decide +kernel
  have array : Document.TextArray text.toList items := Document.textArray_of_escapes
  have equal : check (.midnight 0) .equalTo (.text "😀") (some "😀") = .pass := by decide +kernel
  have joined : ",".intercalate items = "\",é,😀" := by decide +kernel
  obtain ⟨same, -, isMember, -⟩ :=
    check_membership_of_notations (.midnight 0) (.text "😀") several free solid noArray array
  have member := isMember.2 ⟨"😀", by simp [items], equal⟩
  rw [member, joined] at same
  exact ⟨several, free, solid, array, equal, member, joined, same.symm⟩

end Kind

end FieldRules
