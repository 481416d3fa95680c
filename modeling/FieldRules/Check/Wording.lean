import FieldRules.Address.Web
import FieldRules.Check.Scalar
import FieldRules.Pattern.Search

set_option autoImplicit false

namespace FieldRules

namespace Wording

def hasForm (form : Option Pattern) (cs : List Char) : Bool := form.any (·.occursIn cs)

def emailForm : Option Pattern :=
  Pattern.ofText? "^[a-zA-Z0-9._%+-]+@[a-zA-Z0-9.-]+\\.[a-zA-Z]\x7b2,\x7d$".toList

def alphaForm : Option Pattern := Pattern.ofText? "^[a-zA-Z]+$".toList

def alphaNumericForm : Option Pattern := Pattern.ofText? "^[a-zA-Z0-9]+$".toList

def isSymbol (c : Char) : Bool := "@$!%*?&#^()-_=+[]\x7b\x7d;:,.<>/~".toList.contains c

def isPassword (cs : List Char) : Bool :=
  8 ≤ cs.length && cs.any Char.isLower && cs.any Char.isUpper && cs.any Char.isDigit &&
    cs.any isSymbol

end Wording

def textWith (condition : List Char → Bool) : Json → Bool
  | .text s => condition s.toList
  | _ => false

def patternParam (param : Option String) : Except ParamError Pattern := do
  match Pattern.ofText? (← requiredParam param) with
  | some pattern => .ok pattern
  | none => .error .invalidPattern

def hasMatch (pattern : Pattern) (v : Json) : Bool := v.scalarText?.any pattern.occursIn

end FieldRules
