import FieldRules.Calendar.Reading
import FieldRules.Check.Scalar
import FieldRules.Text.Split

set_option autoImplicit false

namespace FieldRules

def Number.toInt : Number → Int
  | .int n _ => n
  | .float x => x.truncate

def Json.moment? : Json → Option Moment
  | .text s => readMoment? s.toList
  | .number n => Moment.ofMillis? n.toInt
  | _ => none

def readBound (now : Moment) (text : List Char) : Except ParamError Moment :=
  let trimmed := trimBlanks text
  if trimmed = "now".toList then .ok now
  else if trimmed = "today".toList then .ok (.midnight now.day)
  else match readMoment? trimmed with
    | some moment => .ok moment
    | none => .error .invalidDate

def boundParam (now : Moment) (param : Option String) : Except ParamError Moment := do
  readBound now (← requiredParam param)

def boundsParam (now : Moment) (param : Option String) : Except ParamError (Moment × Moment) := do
  match splitOnce ',' (← requiredParam param) with
  | none => .error .invalidRange
  | some (first, last) => .ok (← readBound now first, ← readBound now last)

def momentWith (condition : Moment → Bool) (v : Json) : Bool := v.moment?.any condition

end FieldRules
