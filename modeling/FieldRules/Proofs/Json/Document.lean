import FieldRules.Json.Document
import FieldRules.Proofs.SortedMap

set_option autoImplicit false

namespace FieldRules.Document

mutual

theorem json?_ofJson : ∀ {v : Json}, v.Ordered → (ofJson v).json? = some v
  | .null, _ | .bool _, _ | .number _, _ | .text _, _ => rfl
  | .array items, ordered => by
    simp [ofJson, json?, jsonItems?_ofItems (by simpa [Json.Ordered] using ordered)]
  | .object members, ⟨ascending, ordered⟩ => by
    have kept : SortedMap.ofList members = ⟨members, ascending⟩ :=
      SortedMap.ofList_entries ⟨members, ascending⟩
    simp [ofJson, json?, jsonMembers?_ofMembers ordered, kept]

theorem jsonItems?_ofItems : ∀ {items : List Json}, Json.OrderedItems items →
    jsonItems? (ofItems items) = some items
  | [], _ => rfl
  | x :: xs, ⟨head, tail⟩ => by
    simp [ofItems, jsonItems?, json?_ofJson head, jsonItems?_ofItems tail]

theorem jsonMembers?_ofMembers : ∀ {members : List (String × Json)}, Json.OrderedMembers members →
    jsonMembers? (ofMembers members) = some members
  | [], _ => rfl
  | (k, x) :: ms, ⟨head, tail⟩ => by
    simp [ofMembers, jsonMembers?, json?_ofJson head, jsonMembers?_ofMembers tail]

end

theorem datum?_ofJson (d : Datum) : (ofJson d.value).datum? = some d := by
  have read := json?_ofJson d.ordered
  unfold datum?
  split
  next j found =>
    have same : j = d.value := Option.some.inj (found.symm.trans read)
    subst same
    rfl
  next missing => simp [read] at missing

theorem json?_of_datum? {d : Document} {datum : Datum} (value : d.datum? = some datum) :
    d.json? = some datum.value := by
  unfold datum? at value
  split at value
  next j found =>
    cases value
    exact found
  next => cases value

theorem eq_null_of_json? {d : Document} (value : d.json? = some .null) : d = .null := by
  cases d with
  | null => rfl
  | _ => simp [json?, Option.bind_eq_some_iff] at value

end FieldRules.Document
