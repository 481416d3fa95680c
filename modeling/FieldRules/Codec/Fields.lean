import FieldRules.Batch.Validation
import FieldRules.Codec.Rules

set_option autoImplicit false

namespace FieldRules

namespace FieldSpec

def toJson (field : FieldSpec) : Json :=
  .record <|
    [("data", field.data.value), ("key", .text field.key), ("rules", field.rules.toJson)] ++
      (field.message.map fun m => ("message", Messages.toJson m)).toList

def ofDocument? (d : Document) : Option FieldSpec := do
  match ← d.fields? ["data", "key", "rules", "message"] with
  | [data, key, rules, message] =>
    some
      { data := ← Document.fieldOr .null Document.datum? data
        key := ← (← key).text?
        rules := ← RuleSpec.ofDocument? (← rules)
        message := ← Document.fieldOr none (Document.nullable Messages.ofDocument?) message }
  | _ => none

def listOfDocument? : Document → Option (List FieldSpec)
  | .array items => items.mapM ofDocument?
  | _ => none

end FieldSpec

namespace FieldResult

def toJson (r : FieldResult) : Json :=
  .record <|
    [("key", .text r.key), ("valid", .bool r.valid), ("message", Messages.toJson r.message)] ++
      (r.data.map fun data => ("data", data.value)).toList

def ofDocument? (d : Document) : Option FieldResult := do
  match ← d.fields? ["key", "valid", "message", "data"] with
  | [key, valid, message, data] =>
    some
      { key := ← (← key).text?
        valid := ← (← valid).bool?
        message := ← Document.fieldOr .empty Messages.ofDocument? message
        data := ← Document.fieldOr none (Document.nullable Document.datum?) data }
  | _ => none

end FieldResult

def BatchResult.toJson (b : BatchResult) : Json :=
  .record
    [("failed", .bool b.failed),
      ("results", .record (b.results.entries.map fun (key, r) => (key, r.toJson)))]

end FieldRules
