import FieldRules.Codec.Fields
import FieldRules.Proofs.Codec.Rules
import FieldRules.Proofs.Json.Document

set_option autoImplicit false

namespace FieldRules

namespace Datum

theorem ext {d e : Datum} (same : d.value = e.value) : d = e := by
  cases d
  cases e
  simpa using same

-- Where a value may be left out, null stands for none.
def unlessNull (d : Datum) : Option Datum :=
  match d.value with
  | .null => none
  | _ => some d

theorem unlessNull_null : null.unlessNull = none := rfl

theorem unlessNull_of_ne_null {d : Datum} (other : d ≠ .null) : d.unlessNull = some d := by
  have other : d.value ≠ .null := fun same => other (ext same)
  unfold unlessNull
  split
  next same => exact absurd same other
  next => rfl

end Datum

theorem Document.nullable_datum?_ofJson (d : Datum) :
    nullable datum? (ofJson d.value) = some d.unlessNull := by
  by_cases same : d = .null
  next => subst same; rfl
  next =>
    have other : ofJson d.value ≠ .null := fun none => same (Datum.ext (by
      cases value : d.value <;> simp_all [ofJson, Datum.null]))
    rw [Datum.unlessNull_of_ne_null same, nullable.eq_2 _ _ other, datum?_ofJson]
    rfl

theorem Document.ne_null_of_nullable_datum? {d : Document} {data : Option Datum}
    (read : nullable datum? d = some data) : data ≠ some .null := by
  rintro rfl
  by_cases null : d = .null
  next => simp [null, nullable] at read
  next =>
    rw [nullable.eq_2 _ _ null, Option.map_eq_some_iff] at read
    obtain ⟨datum, value, same⟩ := read
    cases same
    exact null (eq_null_of_json? (json?_of_datum? value))

theorem Document.ne_null_of_fieldOr {d : Option Document} {data : Option Datum}
    (read : fieldOr none (nullable datum?) d = some data) : data ≠ some .null := by
  cases d with
  | none =>
    cases read
    simp
  | some d => exact ne_null_of_nullable_datum? read

namespace FieldSpec

theorem ordered_toJson (field : FieldSpec) : field.toJson.Ordered := by
  apply Json.ordered_record_append ?_ Messages.ordered_toJson
  simp only [List.forall_mem_cons]
  exact ⟨field.data.ordered, trivial, field.rules.ordered_toJson, by simp⟩

theorem fields?_toJson (field : FieldSpec) :
    Document.fields? ["data", "key", "rules", "message"] (.ofJson field.toJson) =
      some [some (.ofJson field.data.value), some (.text field.key),
        some (.ofJson field.rules.toJson),
        field.message.map fun m => .ofJson (Messages.toJson m)] := by
  rw [toJson, Document.fields?_ofJson_record]
  cases field.message <;> simp [SortedMap.ofList, SortedMap.get?_insert, Document.ofJson]

theorem ofDocument?_toJson (field : FieldSpec) :
    ofDocument? (.ofJson field.toJson) = some field := by
  have message := Document.fieldOr_nullable_map Messages.nullable_ofDocument?_toJson field.message
  have data : Document.fieldOr .null Document.datum? (some (.ofJson field.data.value)) =
      some field.data := Document.datum?_ofJson field.data
  simp [ofDocument?, fields?_toJson, data, message, Document.text?, RuleSpec.ofDocument?_toJson]

end FieldSpec

namespace FieldResult

theorem ordered_toJson (r : FieldResult) : r.toJson.Ordered := by
  apply Json.ordered_record_append ?_ Datum.ordered
  simp only [List.forall_mem_cons]
  exact ⟨trivial, trivial, Messages.ordered_toJson r.message, by simp⟩

theorem data_ne_null_of_ofDocument? {d : Document} {r : FieldResult}
    (read : ofDocument? d = some r) : r.data ≠ some .null := by
  simp only [ofDocument?, bind, Option.bind_eq_some_iff] at read
  obtain ⟨fields, -, read⟩ := read
  split at read
  next =>
    simp only [Option.bind_eq_some_iff] at read
    obtain ⟨-, -, key, -, -, -, valid, -, message, -, data, shown, same⟩ := read
    cases same
    exact Document.ne_null_of_fieldOr shown
  next => cases read

theorem fields?_toJson (r : FieldResult) :
    Document.fields? ["key", "valid", "message", "data"] (.ofJson r.toJson) =
      some [some (.text r.key), some (.bool r.valid), some (.ofJson (Messages.toJson r.message)),
        r.data.map fun d => .ofJson d.value] := by
  rw [toJson, Document.fields?_ofJson_record]
  cases r.data <;> simp [SortedMap.ofList, SortedMap.get?_insert, Document.ofJson]

theorem ofDocument?_toJson (r : FieldResult) :
    ofDocument? (.ofJson r.toJson) = some { r with data := r.data.bind Datum.unlessNull } := by
  have data : Document.fieldOr none (Document.nullable Document.datum?)
      (r.data.map fun d => .ofJson d.value) = some (r.data.bind Datum.unlessNull) := by
    cases r.data with
    | none => rfl
    | some d => exact Document.nullable_datum?_ofJson d
  have message : Document.fieldOr .empty Messages.ofDocument?
      (some (.ofJson (Messages.toJson r.message))) = some r.message :=
    Messages.ofDocument?_toJson r.message
  simp [ofDocument?, fields?_toJson, data, message, Document.text?, Document.bool?]

theorem ofDocument?_toJson_iff (r : FieldResult) :
    (ofDocument? (.ofJson r.toJson) = some r ↔ r.data ≠ some .null) ∧
    (ofDocument? (.ofJson r.toJson) = some { r with data := none } ↔
      r.data = none ∨ r.data = some .null) := by
  obtain ⟨key, valid, message, data⟩ := r
  rw [ofDocument?_toJson]
  cases data with
  | none => simp
  | some d =>
    by_cases same : d = .null
    next => simp [same, Datum.unlessNull_null]
    next => simp [same, Datum.unlessNull_of_ne_null same]

-- A null is put into the result when values are asked for, and is not there when it is read.
theorem ofDocument?_toJson_of_shown_null :
    Config.validateField (.midnight 0) { dataInResult := true }
      { data := .null, key := "k", rules := .piped "nullable" } =
        .ok ⟨"k", true, .empty, some .null⟩ ∧
    ofDocument? (.ofJson (toJson ⟨"k", true, .empty, some .null⟩)) =
      some ⟨"k", true, .empty, none⟩ ∧
    ofDocument? (.ofJson (toJson ⟨"k", true, .empty, some .null⟩)) ≠
      some ⟨"k", true, .empty, some .null⟩ := by
  have read : ofDocument? (.ofJson (toJson ⟨"k", true, .empty, some .null⟩)) =
      some ⟨"k", true, .empty, none⟩ := ofDocument?_toJson _
  refine ⟨rfl, read, fun kept => ?_⟩
  have data := congrArg FieldResult.data (Option.some.inj (read.symm.trans kept))
  simp at data

end FieldResult

end FieldRules
