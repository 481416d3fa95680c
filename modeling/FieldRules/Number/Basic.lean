import FieldRules.Number.Reading
import FieldRules.Number.Shortest

set_option autoImplicit false

namespace FieldRules

inductive Number where
  -- An integer is in the range of a signed or an unsigned word of 64 bits.
  | int (n : Int) (inRange : -2 ^ 63 ≤ n ∧ n < 2 ^ 64)
  | float (x : Binary64)
deriving DecidableEq

namespace Number

def same : Number → Number → Bool
  -- An integer never equals a float.
  | .int m _, .int n _ => m == n
  | .float x, .float y => x.same y
  | _, _ => false

def value : Number → Binary64
  | .int n inRange => .ofInt n (by omega)
  | .float x => x

-- Leading digits here are written out with zeros, others get an exponent.
def writtenOut (leading : Int) : Bool := -5 ≤ leading && leading ≤ 15

def text : Number → List Char
  | .int n _ =>
    let digits := Nat.toDigits 10 n.natAbs
    if n < 0 then '-' :: digits else digits
  | .float x =>
    let d := x.shortest
    let digits := if writtenOut d.leading then d.positional else d.scientific
    if x.negative then '-' :: digits else digits

end Number

end FieldRules
