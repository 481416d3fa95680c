import FieldRules.Check.Scalar
import FieldRules.Json.Reader
import FieldRules.Text.Split

set_option autoImplicit false

namespace FieldRules

def isAccepted : Json → Bool
  | .text s => ["yes", "on", "true"].contains s
  | .bool b => b
  | .number n => n.value.toUnits == unitsPerOne
  | _ => false

def isDeclined : Json → Bool
  | .text s => ["no", "off", "false"].contains s
  | .bool b => !b
  | .number n => n.value.toUnits == 0
  | _ => false

def equalParam (param : Option String) : Except ParamError Json := do
  .ok (.text (String.ofList (← requiredParam param)))

-- The values that a membership rule names: some items, or a text that holds them all.
inductive Membership where
  | items (values : List Json)
  | within (text : List Char)

namespace Membership

def holds (v : Json) : Membership → Bool
  | items values => values.any v.looselySame
  | within text => v.scalarText?.any fun part => occursIn part text

def ofText? (text : List Char) : Option Membership :=
  let raw := trimBlanks text
  if raw.head? = some '[' then
    match Document.readJson? raw with
    | some (.array values) => some (items values)
    | _ => none
  else if raw.contains ',' then
    some (items ((splitAt ',' raw).map fun item => .text (String.ofList (trimBlanks item))))
  else some (within raw)

end Membership

def membershipParam (param : Option String) : Except ParamError Membership := do
  match Membership.ofText? (← requiredParam param) with
  | some membership => .ok membership
  | none => .error .invalidList

end FieldRules
