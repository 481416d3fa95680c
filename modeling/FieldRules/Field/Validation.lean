import FieldRules.Check.Basic
import FieldRules.Field.Result
import FieldRules.Field.Spec
import FieldRules.Message.Template

set_option autoImplicit false

namespace FieldRules

inductive MalformedPolicy where
  | skip
  | reject
deriving DecidableEq, Repr

inductive ValidationError where
  | requiredAndNullable (key : String)
  | malformedRule (key token : String)
deriving DecidableEq

namespace ValidationError

def key : ValidationError → String
  | requiredAndNullable key => key
  | malformedRule key _ => key

def message : ValidationError → String
  | requiredAndNullable key => "field `" ++ key ++ "` declares both `required` and `nullable`"
  | malformedRule key token => "field `" ++ key ++ "` has malformed rule token `" ++ token ++ "`"

end ValidationError

structure Settings where
  templates : Option Messages := none
  showData : Bool := false
  policy : MalformedPolicy := .skip

namespace FieldSpec

def template? (field : FieldSpec) (settings : Settings) (kind : Kind) : Option String :=
  -- The field's own template comes first.
  field.message.bind (·.get? kind) <|> settings.templates.bind (·.get? kind)

def messageOf? (field : FieldSpec) (settings : Settings) (rule : Rule) : Outcome → Option String
  | .pass => none
  | .invalid =>
    some (Template.resolve rule.kind field.key rule.param (field.template? settings rule.kind))
  | .badParam e => some (e.message field.key)

def failures (now : Moment) (field : FieldSpec) (settings : Settings) (rules : List Rule) :
    List (Kind × String) :=
  rules.filterMap fun rule =>
    (field.messageOf? settings rule (rule.kind.check now field.data.value rule.param)).map
      (rule.kind, ·)

def result (field : FieldSpec) (settings : Settings) (failures : List (Kind × String)) :
    FieldResult where
  key := field.key
  valid := failures.isEmpty
  -- Of a kind that fails more than once the last message stays.
  message := .ofList failures
  data := if settings.showData then some field.data else none

def validate (now : Moment) (field : FieldSpec) (settings : Settings) :
    Except ValidationError FieldResult :=
  let nullable := field.rules.contains .nullable
  if nullable && field.rules.contains .required then .error (.requiredAndNullable field.key)
  else if nullable && field.data.value.isEmpty then .ok (field.result settings [])
  else
    let (rules, malformed) := readRules field.rules.tokens
    match malformed, settings.policy with
    | some token, .reject => .error (.malformedRule field.key token)
    | _, _ => .ok (field.result settings (field.failures now settings rules))

end FieldSpec

end FieldRules
