import FieldRules.Number.Binary64
import FieldRules.Text.Blank

set_option autoImplicit false

namespace FieldRules

def digitsValue (digits : List Char) : Nat :=
  digits.foldl (fun n d => 10 * n + (d.toNat - '0'.toNat)) 0

def takeSign : List Char → Bool × List Char
  | '-' :: cs => (true, cs)
  | '+' :: cs => (false, cs)
  | cs => (false, cs)

def readExponent? : List Char → Option Int
  -- No exponent stands for zero.
  | [] => some 0
  | c :: cs =>
    let (negative, digits) := takeSign cs
    if (c = 'e' ∨ c = 'E') ∧ digits ≠ [] ∧ digits.all Char.isDigit then
      some (if negative then -digitsValue digits else digitsValue digits)
    else none

def takeFraction : List Char → List Char × List Char
  | '.' :: cs => (cs.takeWhile Char.isDigit, cs.dropWhile Char.isDigit)
  | cs => ([], cs)

namespace Binary64

def ofText? (cs : List Char) : Option Binary64 :=
  let (negative, cs) := takeSign cs
  let whole := cs.takeWhile Char.isDigit
  let (fraction, cs) := takeFraction (cs.dropWhile Char.isDigit)
  if whole = [] ∧ fraction = [] then none
  else do
    let exponent ← readExponent? cs
    ofDecimal? negative (digitsValue (whole ++ fraction)) (exponent - fraction.length)

end Binary64

def readNumber? (text : List Char) : Option Binary64 := Binary64.ofText? (trimBlanks text)

end FieldRules
