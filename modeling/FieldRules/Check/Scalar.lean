import FieldRules.Check.Outcome
import FieldRules.Json.Basic

set_option autoImplicit false

namespace FieldRules

namespace Json

def scalarText? : Json → Option (List Char)
  | .text s => some s.toList
  | .number n => some n.text
  | .bool b => some (if b then "true" else "false").toList
  | _ => none

def scalarNumber? : Json → Option Binary64
  | .number n => some n.value
  | .text s => readNumber? s.toList
  | _ => none

def numeral? : Json → Option (List Char)
  | .number n => some n.text
  | .text s => if (readNumber? s.toList).isSome then some (trimBlanks s.toList) else none
  | _ => none

def looselySame (v w : Json) : Bool :=
  v.same w ||
    match v.scalarNumber?, w.scalarNumber? with
    | some x, some y => x.same y
    | _, _ =>
      match v.scalarText?, w.scalarText? with
      | some s, some t => s == t
      | _, _ => false

end Json

def requiredParam (param : Option String) : Except ParamError (List Char) :=
  match param with
  | some text => .ok text.toList
  | none => .error .missing

def numberParam (param : Option String) : Except ParamError Binary64 :=
  match param.bind fun text => readNumber? text.toList with
  | some x => .ok x
  | none => .error .notANumber

end FieldRules
