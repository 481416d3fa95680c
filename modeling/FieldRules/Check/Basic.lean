import FieldRules.Check.Magnitude
import FieldRules.Check.Membership
import FieldRules.Check.Shape
import FieldRules.Check.Timing
import FieldRules.Check.Wording
import FieldRules.Rule.Kind

set_option autoImplicit false

namespace FieldRules.Kind

def condition (now : Moment) (param : Option String) : Kind → Except ParamError (Json → Bool)
  | required => .ok fun v => !v.isEmpty
  | nullable => .ok fun _ => true
  | string => .ok Json.isText
  | number => .ok Json.isNumber
  | boolean => .ok Json.isBool
  | array => .ok Json.isArray
  | object => .ok Json.isObject
  | date => .ok (momentWith fun _ => true)
  | uuid => .ok isIdentifier
  | integer => .ok Json.isPositiveInteger
  | decimal => (placesParam param).map hasPlaces
  | min => (numberParam param).map atLeast
  | max => (numberParam param).map atMost
  | minDigit => (digitsParam param).map hasDigits
  | maxDigit => (digitsParam param).map hasNoMoreDigits
  | email => .ok (textWith (Wording.hasForm Wording.emailForm))
  | password => .ok (textWith Wording.isPassword)
  | alpha => .ok (textWith (Wording.hasForm Wording.alphaForm))
  | alphaNumeric => .ok (textWith (Wording.hasForm Wording.alphaNumericForm))
  | url => .ok (textWith isWebAddress)
  | regex => (patternParam param).map hasMatch
  | accepted => .ok isAccepted
  | declined => .ok isDeclined
  | after => (boundParam now param).map fun bound => momentWith (bound < ·)
  | before => (boundParam now param).map fun bound => momentWith (· < bound)
  | afterOrEqual => (boundParam now param).map fun bound => momentWith (bound ≤ ·)
  | beforeOrEqual => (boundParam now param).map fun bound => momentWith (· ≤ bound)
  | dateBetween =>
    (boundsParam now param).map fun (first, last) => momentWith fun m => first ≤ m ∧ m ≤ last
  | equalTo => (equalParam param).map fun expected v => v.looselySame expected
  | notEqualTo => (equalParam param).map fun expected v => !v.looselySame expected
  | isIn => (membershipParam param).map fun members v => members.holds v
  | notIn => (membershipParam param).map fun members v => !members.holds v
  | numberBetween => (rangeParam param).map isBetween

def check (now : Moment) (kind : Kind) (v : Json) (param : Option String) : Outcome :=
  match kind.condition now param with
  | .ok holds => .ofBool (holds v)
  | .error e => .badParam e

end FieldRules.Kind
