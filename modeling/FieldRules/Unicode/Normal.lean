import FieldRules.Unicode.Composition

set_option autoImplicit false

namespace FieldRules.Normal

def syllableBase : Nat := 0xAC00
def leadBase : Nat := 0x1100
def vowelBase : Nat := 0x1161
def tailBase : Nat := 0x11A7

def isSyllable (n : Nat) : Bool := syllableBase ≤ n && n < syllableBase + 11172

def splitSyllable (n : Nat) : List Nat :=
  let i := n - syllableBase
  let letters := [leadBase + i / 588, vowelBase + i % 588 / 28]
  if i % 28 = 0 then letters else letters ++ [tailBase + i % 28]

def takeApart : Nat → Nat → List Nat
  -- The first part may have parts of its own, four levels deep at most.
  | 0, n => [n]
  | fuel + 1, n =>
    if isSyllable n then splitSyllable n
    else match decompositions.find? (·.1 == n) with
      | some (_, parts) => parts.flatMap (takeApart fuel)
      | none => [n]

def sink (n : Nat) : List Nat → List Nat
  -- The mark goes behind the marks of smaller classes in front.
  | [] => [n]
  | m :: ms =>
    if markClass m ≠ 0 ∧ markClass m < markClass n then m :: sink n ms else n :: m :: ms

def sortMarks : List Nat → List Nat
  | [] => []
  | n :: ns => if markClass n = 0 then n :: sortMarks ns else sink n (sortMarks ns)

def composite? (first second : Nat) : Option Nat :=
  if leadBase ≤ first ∧ first < leadBase + 19 ∧ vowelBase ≤ second ∧ second < vowelBase + 21 then
    some (syllableBase + ((first - leadBase) * 21 + (second - vowelBase)) * 28)
  else if isSyllable first ∧ (first - syllableBase) % 28 = 0 ∧
      tailBase < second ∧ second < tailBase + 28 then
    some (first + (second - tailBase))
  else
    (decompositions.find? fun (n, parts) =>
      parts == [first, second] && !CharSet.within n neverComposed.ranges).map (·.1)

def composeOn (letter : Nat) (passed : List Nat) (last : Nat) : List Nat → List Nat
  -- The marks passed over come last to first, with the class of the last.
  | [] => letter :: passed.reverse
  | n :: ns =>
    let cls := markClass n
    match if passed = [] ∨ last < cls then composite? letter n else none with
    | some composed => composeOn composed passed last ns
    | none =>
      if cls = 0 then letter :: passed.reverse ++ composeOn n [] 0 ns
      else composeOn letter (n :: passed) cls ns

def compose : List Nat → List Nat
  | [] => []
  | n :: ns => if markClass n = 0 then composeOn n [] 0 ns else n :: compose ns

def composed (cs : List Char) : List Char :=
  (compose (sortMarks (cs.flatMap fun c => takeApart 4 c.toNat))).map Char.ofNat

end FieldRules.Normal
