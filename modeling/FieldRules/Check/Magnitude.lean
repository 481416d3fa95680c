import FieldRules.Check.Scalar
import FieldRules.Text.Split

set_option autoImplicit false

namespace FieldRules

def countUnits (n : Nat) : Nat := nearestUnits (n * unitsPerOne) 1

-- Counted in units; a text has its characters for size, and an array its items.
def Json.magnitude? : Json → Option Int
  | .number n => some n.value.toUnits
  | .text s => some (countUnits s.toList.length)
  | .array items => some (countUnits items.length)
  | _ => none

-- Values without size are not too small, nor too large.
def atLeast (bound : Binary64) (v : Json) : Bool := v.magnitude?.all (bound.toUnits ≤ ·)

def atMost (bound : Binary64) (v : Json) : Bool := v.magnitude?.all (· ≤ bound.toUnits)

def Json.digitCount? (v : Json) : Option Nat := v.numeral?.map (·.countP Char.isDigit)

def digitsParam (param : Option String) : Except ParamError Nat := do
  -- As many digits as the parameter has characters, of whatever kind.
  let _ ← numberParam param
  .ok (param.getD "").toList.length

def hasDigits (least : Nat) (v : Json) : Bool := v.digitCount?.any (least ≤ ·)

def hasNoMoreDigits (most : Nat) (v : Json) : Bool := v.digitCount?.any (· ≤ most)

def withoutBrackets (cs : List Char) : List Char :=
  match cs with
  | '[' :: rest => if rest.getLast? = some ']' then rest.dropLast else cs
  | cs => cs

def rangeParam (param : Option String) : Except ParamError (Binary64 × Binary64) :=
  match param with
  | none => .error .notANumber
  | some text =>
    match (splitAt ',' (withoutBrackets (trimBlanks text.toList))).map readNumber? with
    | [some low, some high] => .ok (low, high)
    | _ => .error .notANumber

def isBetween (bounds : Binary64 × Binary64) (v : Json) : Bool :=
  v.scalarNumber?.any fun x =>
    bounds.1.toUnits ≤ x.toUnits && x.toUnits ≤ bounds.2.toUnits

end FieldRules
