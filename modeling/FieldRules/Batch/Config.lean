import FieldRules.Field.Validation

set_option autoImplicit false

namespace FieldRules

structure Config where
  dataInResult : Bool := false
  returnInvalidOnly : Bool := true
  setMessage : Option Messages := none
  malformedRules : MalformedPolicy := .skip

structure Setup where
  dataInResult : Option Bool := none
  returnInvalidOnly : Option Bool := none
  setMessage : Option Messages := none
  malformedRules : Option MalformedPolicy := none

namespace Config

def apply (config : Config) (setup : Setup) : Config where
  dataInResult := setup.dataInResult.getD config.dataInResult
  returnInvalidOnly := setup.returnInvalidOnly.getD config.returnInvalidOnly
  setMessage := setup.setMessage <|> config.setMessage
  malformedRules := setup.malformedRules.getD config.malformedRules

def settings (config : Config) : Settings where
  templates := config.setMessage
  showData := config.dataInResult
  policy := config.malformedRules

end Config

end FieldRules
