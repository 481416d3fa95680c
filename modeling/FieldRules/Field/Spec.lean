import FieldRules.Json.Basic
import FieldRules.Message.Messages
import FieldRules.Rule.Spec

set_option autoImplicit false

namespace FieldRules

structure FieldSpec where
  data : Datum
  key : String
  rules : RuleSpec
  message : Option Messages := none

namespace FieldSpec

def withMessages (field : FieldSpec) (messages : Messages) : FieldSpec :=
  { field with message := some messages }

def withMessage (field : FieldSpec) (kind : Kind) (template : String) : FieldSpec :=
  field.withMessages ((field.message.getD .empty).insert kind template)

end FieldSpec

end FieldRules
