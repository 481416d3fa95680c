import FieldRules.Json.Basic
import FieldRules.Message.Messages

set_option autoImplicit false

namespace FieldRules

structure FieldResult where
  key : String
  valid : Bool
  message : Messages := .empty
  data : Option Datum := none

namespace FieldResult

def passed (key : String) : FieldResult := { key, valid := true }

def fail (r : FieldResult) (kind : Kind) (message : String) : FieldResult :=
  { r with valid := false, message := r.message.insert kind message }

def failedRules (r : FieldResult) : List Kind := r.message.keys

end FieldResult

end FieldRules
