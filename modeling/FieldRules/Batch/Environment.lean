import FieldRules.Codec.Config
import FieldRules.Json.Reader

set_option autoImplicit false

namespace FieldRules

inductive ConfigError where
  | invalidValue (field value expected : String)
  | unreadable (field : String)
deriving DecidableEq

def ConfigError.message : ConfigError → String
  | invalidValue field value expected =>
    "Invalid value for " ++ field ++ ": '" ++ value ++ "', expected " ++ expected
  | unreadable field => "Configuration parsing error for " ++ field

def plainWord (text : String) : List Char :=
  -- The Kelvin sign is the one other character whose lower case is a letter of English.
  (trimBlanks text.toList).map fun c => if c = '\u212A' then 'k' else c.toLower

def readBool (field value : String) : Except ConfigError Bool :=
  let word := String.ofList (plainWord value)
  if ["true", "1", "yes", "on"].contains word then .ok true
  else if ["false", "0", "no", "off"].contains word then .ok false
  else .error (.invalidValue field value "a boolean (true/false, 1/0, yes/no, on/off)")

def MalformedPolicy.read (value : String) : Except ConfigError MalformedPolicy :=
  match MalformedPolicy.ofName? (String.ofList (plainWord value)) with
  | some policy => .ok policy
  | none => .error (.invalidValue "malformed_rules" value "skip or reject")

def Messages.read (value : String) : Except ConfigError Messages :=
  match (Document.read? value.toList).bind Messages.ofDocument? with
  | some messages => .ok messages
  | none => .error (.unreadable "set_message")

structure Environment where
  dataInResult : Option String := none
  returnInvalidOnly : Option String := none
  malformedRules : Option String := none
  messages : Option String := none

namespace Environment

def ofLookup (lookup : String → Option String) : Environment where
  dataInResult := lookup "FIELDCHECK_DATA_IN_RESULT"
  returnInvalidOnly := lookup "FIELDCHECK_RETURN_INVALID_ONLY"
  malformedRules := lookup "FIELDCHECK_MALFORMED_RULES"
  messages := lookup "FIELDCHECK_MESSAGES"

def setup (env : Environment) : Except ConfigError Setup := do
  let dataInResult ← env.dataInResult.mapM (readBool "data_in_result")
  let returnInvalidOnly ← env.returnInvalidOnly.mapM (readBool "return_invalid_only")
  let malformedRules ← env.malformedRules.mapM MalformedPolicy.read
  let setMessage ← env.messages.mapM Messages.read
  .ok { dataInResult, returnInvalidOnly, setMessage, malformedRules }

def config (env : Environment) : Except ConfigError Config := env.setup.map (Config.apply {})

end Environment

end FieldRules
