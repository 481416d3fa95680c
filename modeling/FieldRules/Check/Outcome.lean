set_option autoImplicit false

namespace FieldRules

inductive ParamError where
  | notANumber | invalidDate | invalidRange | invalidList | invalidPattern | missing
deriving DecidableEq, Repr

def ParamError.text : ParamError → String
  | notANumber => "is not a number"
  | invalidDate => "has an invalid date parameter"
  | invalidRange => "has an invalid range parameter"
  | invalidList => "has an invalid list parameter"
  | invalidPattern => "has an invalid pattern parameter"
  | missing => "is missing a rule parameter"

def ParamError.message (e : ParamError) (key : String) : String := key ++ " " ++ e.text

inductive Outcome where
  | pass
  | invalid
  | badParam (e : ParamError)
deriving DecidableEq, Repr

def Outcome.ofBool (passed : Bool) : Outcome := if passed then .pass else .invalid

@[simp] theorem Outcome.ofBool_eq_pass {passed : Bool} : ofBool passed = pass ↔ passed = true := by
  cases passed <;> simp [ofBool]

@[simp] theorem Outcome.ofBool_eq_invalid {passed : Bool} :
    ofBool passed = invalid ↔ passed = false := by
  cases passed <;> simp [ofBool]

@[simp] theorem Outcome.ofBool_ne_badParam {passed : Bool} {e : ParamError} :
    ofBool passed ≠ badParam e := by
  cases passed <;> simp [ofBool]

end FieldRules
