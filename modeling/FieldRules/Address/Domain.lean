import FieldRules.Address.Punycode
import FieldRules.Text.Split
import FieldRules.Unicode.Category
import FieldRules.Unicode.Direction
import FieldRules.Unicode.DomainMap
import FieldRules.Unicode.Joining
import FieldRules.Unicode.Normal

set_option autoImplicit false

namespace FieldRules.Domain

def isForbidden (c : Char) : Bool :=
  -- Characters that end or divide the parts of an address and so may not occur in a name.
  c.toNat ≤ 0x20 || c == '\x7f' || "%#/:<>?@[\\]^|".toList.contains c

def mapped? (cs : List Char) : Option (List Char) := do
  let parts ← cs.mapM domainMapped?
  if parts.flatten.any isForbidden then none
  else if parts.flatten.all (·.toNat < 128) then some parts.flatten
  else some (Normal.composed parts.flatten)

def marks : CharSet :=
  .ofRanges (["mn", "mc", "me"].flatMap fun name =>
    ((NamedSet.find? categories name.toList).map (·.ranges)).getD [])

def isVirama (c : Char) : Bool := markClass c.toNat == 9

def joinerAllowed (joiner : Char) (before behind : List Char) : Bool :=
  match before with
  | [] => false
  | c :: _ =>
    isVirama c ||
      (joiner == '\u200C' &&
        ((before.dropWhile joinTransparent.contains).head?.any joinsBehind.contains &&
          (behind.dropWhile joinTransparent.contains).head?.any joinsBefore.contains))

def joinersAllowed : List Char → List Char → Bool
  -- The characters before stand last to first.
  | _, [] => true
  | before, c :: cs =>
    (if c = '\u200C' ∨ c = '\u200D' then joinerAllowed c before cs else true) &&
      joinersAllowed (c :: before) cs

def isWellFormed (label : List Char) : Bool :=
  -- No mark comes first, and joiners stand only where they matter.
  !(label.head?.any marks.contains) && joinersAllowed [] label

def label? (label : List Char) : Option (List Char) :=
  match label with
  | 'x' :: 'n' :: '-' :: '-' :: code => do
    let decoded ← Punycode.decode? code
    let plain := decoded.all fun c => c.toNat < 128
    let fixed := decoded.mapM domainMapped? == some (decoded.map fun c => [c])
    if !plain && fixed && Normal.composed decoded == decoded && isWellFormed decoded then
      some decoded
    else none
  | label => if isWellFormed label then some label else none

def labelDirections (label : List Char) : List (Option Direction) :=
  -- Nonspacing marks at the end have no say.
  ((label.map direction?).reverse.dropWhile (· == some .nonspacing)).reverse

def writtenLeft : List (Option Direction) :=
  [some .right, some .arabicLetter, some .arabicNumber]

def isOrdered (label : List Char) : Bool :=
  -- The rule for names with letters written from right to left.
  let all := label.map direction?
  let trimmed := labelDirections label
  let neutral : List (Option Direction) :=
    [some .europeanNumber, some .europeanSeparator, some .commonSeparator,
      some .europeanTerminator, some .otherNeutral, some .boundary, some .nonspacing]
  match all with
  | [] => true
  | some .left :: _ =>
    all.all (fun d => d == some .left || neutral.contains d) &&
      trimmed.getLast?.any fun d => d == some .left || d == some .europeanNumber
  | some .right :: _ | some .arabicLetter :: _ =>
    all.all (fun d => writtenLeft.contains d || neutral.contains d) &&
      (trimmed.getLast?.any fun d => writtenLeft.contains d || d == some .europeanNumber) &&
      !(all.contains (some .arabicNumber) && all.contains (some .europeanNumber))
  | _ => false

def labels? (cs : List Char) : Option (List (List Char)) := do
  let labels ← (splitAt '.' (← mapped? cs)).mapM label?
  let rightToLeft := labels.any fun l => l.any fun c => writtenLeft.contains (direction? c)
  if rightToLeft && !labels.all isOrdered then none else some labels

end FieldRules.Domain
