import FieldRules.Batch.Config

set_option autoImplicit false

namespace FieldRules

structure BatchResult where
  failed : Bool
  results : SortedMap String FieldResult

namespace Config

def validateField (now : Moment) (config : Config) (field : FieldSpec) :
    Except ValidationError FieldResult :=
  field.validate now config.settings

def reports (config : Config) (r : FieldResult) : Bool := !config.returnInvalidOnly || !r.valid

def batchResult (config : Config) (results : List FieldResult) : BatchResult where
  failed := results.any fun r => !r.valid
  results := .ofList ((results.filter config.reports).map fun r => (r.key, r))

def validate (now : Moment) (config : Config) (fields : List FieldSpec) :
    Except ValidationError BatchResult :=
  (fields.mapM (config.validateField now)).map config.batchResult

end Config

end FieldRules
