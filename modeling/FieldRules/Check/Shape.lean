import FieldRules.Check.Scalar
import FieldRules.Text.Uuid

set_option autoImplicit false

namespace FieldRules

namespace Json

def isText : Json → Bool
  | .text _ => true
  | _ => false

def isNumber : Json → Bool
  | .number _ => true
  | _ => false

def isBool : Json → Bool
  | .bool _ => true
  | _ => false

def isArray : Json → Bool
  | .array _ => true
  | _ => false

def isObject : Json → Bool
  | .object _ => true
  | _ => false

def isPositiveInteger : Json → Bool
  | .number n => 0 < n.value.toUnits && n.value.isWhole
  | _ => false

end Json

namespace Numeral

def places? (cs : List Char) : Option Nat :=
  let cs := match cs with
    | '-' :: cs => cs
    | cs => cs
  if cs.takeWhile Char.isDigit = [] then none
  else match cs.dropWhile Char.isDigit with
    | [] => some 0
    | '.' :: fraction =>
      if fraction ≠ [] ∧ fraction.all Char.isDigit then some fraction.length else none
    | _ => none

end Numeral

def Uuid.isVersion4 (id : Uuid) : Bool := id.version == 4 && id.variant == .bits10

def isIdentifier : Json → Bool
  -- The count of bytes is that of the groups with dashes; no other way to write it has as many.
  | .text s => s.utf8ByteSize == 36 && (Uuid.ofText? s.toList).any Uuid.isVersion4
  | _ => false

def placesParam (param : Option String) : Except ParamError Nat := do
  let places ← numberParam param
  if places.toUnits < 0 ∨ !places.isWhole then .error .notANumber
  else .ok places.truncate.toNat

def hasPlaces (places : Nat) (v : Json) : Bool := v.numeral?.bind Numeral.places? == some places

end FieldRules
