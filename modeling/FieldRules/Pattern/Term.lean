import FieldRules.Pattern.Reading
import FieldRules.Unicode.LetterCase
import FieldRules.Unicode.Script
import FieldRules.Unicode.Word

set_option autoImplicit false

namespace FieldRules.Pattern

inductive Look where
  | textStart | textEnd
  | lineStart | lineEnd
  | crlfStart | crlfEnd
  | boundary (unicode : Bool) | notBoundary (unicode : Bool)
  | wordStart (unicode : Bool) | wordEnd (unicode : Bool)
  | wordStartHalf (unicode : Bool) | wordEndHalf (unicode : Bool)
deriving DecidableEq

inductive Term where
  | empty
  | chars (s : CharSet)
  | look (l : Look)
  | capture (body : Term)
  | sequence (items : List Term)
  | alternation (branches : List Term)
  | repetition (least : Nat) (most : Option Nat) (body : Term)

structure Flags where
  ignoreCase : Bool := false
  multiLine : Bool := false
  dotAll : Bool := false
  crlf : Bool := false
  unicode : Bool := true
deriving DecidableEq

def Flags.set (f : Flags) : Flag × Bool → Flags
  | (.ignoreCase, on) => { f with ignoreCase := on }
  | (.multiLine, on) => { f with multiLine := on }
  | (.dotAll, on) => { f with dotAll := on }
  | (.crlf, on) => { f with crlf := on }
  | (.unicode, on) => { f with unicode := on }
  | _ => f

def asciiRanges : AsciiClass → List (Nat × Nat)
  | .alnum => [(0x30, 0x39), (0x41, 0x5A), (0x61, 0x7A)]
  | .alpha => [(0x41, 0x5A), (0x61, 0x7A)]
  | .ascii => [(0x00, 0x7F)]
  | .blank => [(0x09, 0x09), (0x20, 0x20)]
  | .cntrl => [(0x00, 0x1F), (0x7F, 0x7F)]
  | .digit => [(0x30, 0x39)]
  | .graph => [(0x21, 0x7E)]
  | .lower => [(0x61, 0x7A)]
  | .print => [(0x20, 0x7E)]
  | .punct => [(0x21, 0x2F), (0x3A, 0x40), (0x5B, 0x60), (0x7B, 0x7E)]
  | .space => [(0x09, 0x0D), (0x20, 0x20)]
  | .upper => [(0x41, 0x5A)]
  | .word => [(0x30, 0x39), (0x41, 0x5A), (0x5F, 0x5F), (0x61, 0x7A)]
  | .xdigit => [(0x30, 0x39), (0x41, 0x46), (0x61, 0x66)]

def category? (loose : List Char) : Option CharSet := NamedSet.find? categories loose

def categoryUnion (names : List String) : CharSet :=
  .ofRanges (names.flatMap fun name => ((category? (looseName name.toList)).map (·.ranges)).getD [])

def categoryGroups : List (List String × List String) :=
  [(["LC", "Cased_Letter"], ["Lu", "Ll", "Lt"]),
    (["L", "Letter"], ["Lu", "Ll", "Lt", "Lm", "Lo"]),
    (["M", "Mark", "Combining_Mark"], ["Mn", "Mc", "Me"]),
    (["N", "Number"], ["Nd", "Nl", "No"]),
    (["P", "Punctuation", "punct"], ["Pc", "Pd", "Ps", "Pe", "Pi", "Pf", "Po"]),
    (["S", "Symbol"], ["Sm", "Sc", "Sk", "So"]),
    (["Z", "Separator"], ["Zs", "Zl", "Zp"]),
    (["C", "Other"], ["Cc", "Cf", "Co", "Cn"])]

def generalCategory? (loose : List Char) : Option CharSet :=
  if loose = "any".toList then some .all
  else if loose = "assigned".toList then (category? ['c', 'n']).map (·.compl)
  else if loose = "ascii".toList then some ⟨asciiRanges .ascii⟩
  else
    category? loose <|>
      (categoryGroups.find? fun (names, _) => names.any fun n => looseName n.toList == loose).map
        fun (_, members) => categoryUnion members

def script? (loose : List Char) : Option CharSet := NamedSet.find? scripts loose

def scriptExtensions? (loose : List Char) : Option CharSet :=
  NamedSet.find? scriptExtensions loose <|> script? loose

def property? : PropertyQuery → Option CharSet
  -- A bare name is a property, else a general category, else a script. Three short names are
  -- categories although properties have them too.
  | .named name =>
    let loose := looseName name
    let asProperty :=
      if loose = ['c', 'f'] ∨ loose = ['s', 'c'] ∨ loose = ['l', 'c'] then none
      else NamedSet.find? properties loose
    asProperty <|> generalCategory? loose <|> script? loose
  | .valued property value =>
    let property := looseName property
    let value := looseName value
    if property = "generalcategory".toList ∨ property = "gc".toList then generalCategory? value
    else if property = "script".toList ∨ property = "sc".toList then script? value
    else if property = "scriptextensions".toList ∨ property = "scx".toList then
      scriptExtensions? value
    else none

def literalSet? (f : Flags) (l : Literal) : Option CharSet :=
  -- Two hexadecimal digits above 127 are a lone byte without `u`.
  if !f.unicode && l.byte && 128 ≤ l.char.toNat then none
  else
    let s := CharSet.single l.char
    some (if !f.ignoreCase then s else if f.unicode then s.foldCase else s.foldAsciiCase)

def finish? (f : Flags) (negated : Bool) (s : CharSet) : Option CharSet :=
  -- Without `u` the complement of a set holds bytes that are no characters.
  let s := if !f.ignoreCase then s else if f.unicode then s.foldCase else s.foldAsciiCase
  if !negated then some s
  else if f.unicode then some s.compl
  else none

def namedClass? (f : Flags) (cls : ClassName) (negated : Bool) : Option CharSet :=
  if f.unicode then
    let s := match cls with
      | .digit => (category? ['n', 'd']).getD .empty
      | .space => ⟨blankRanges⟩
      | .word => wordSet
    some (if negated then s.compl else s)
  else if negated then none
  else
    some ⟨asciiRanges (match cls with
      | .digit => .digit
      | .space => .space
      | .word => .word)⟩

mutual

def SetNode.set? (f : Flags) : SetNode → Option CharSet
  | .literal l => if !f.unicode && 128 ≤ l.char.toNat then none else some (.single l.char)
  | .range lo hi =>
    if !f.unicode && 128 ≤ hi.char.toNat then none else some (.range lo.char hi.char)
  | .ascii cls negated => finish? f negated ⟨asciiRanges cls⟩
  | .named cls negated => namedClass? f cls negated
  | .property query negated =>
    if f.unicode then do finish? f negated (← property? query) else none
  | .bracketed negated inner => do finish? f negated (← inner.set? f)
  | .union items => items? f items
  | .op op left right => do
    let left ← finish? f false (← left.set? f)
    let right ← finish? f false (← right.set? f)
    some (match op with
      | .intersection => left.inter right
      | .difference => left.diff right
      | .symmetricDifference => left.symmDiff right)

def items? (f : Flags) : List SetNode → Option CharSet
  | [] => some .empty
  | s :: ss => do some ((← s.set? f).union (← items? f ss))

end

def look (f : Flags) : Anchor → Look
  | .textStart => .textStart
  | .textEnd => .textEnd
  | .lineStart => if !f.multiLine then .textStart else if f.crlf then .crlfStart else .lineStart
  | .lineEnd => if !f.multiLine then .textEnd else if f.crlf then .crlfEnd else .lineEnd
  | .wordBoundary => .boundary f.unicode
  | .notWordBoundary => .notBoundary f.unicode
  | .wordStart => .wordStart f.unicode
  | .wordEnd => .wordEnd f.unicode
  | .wordStartHalf => .wordStartHalf f.unicode
  | .wordEndHalf => .wordEndHalf f.unicode

def dotSet? (f : Flags) : Option CharSet :=
  if !f.unicode then none
  else if f.dotAll then some .all
  else if f.crlf then some (CharSet.ofRanges [(0x0A, 0x0A), (0x0D, 0x0D)]).compl
  else some (CharSet.single '\n').compl

def Term.isZeroWidth : Term → Bool
  | .empty => true
  | .chars _ => false
  | .look _ => true
  | .capture body => body.isZeroWidth
  | .sequence items => zeroWidths items
  | .alternation branches => zeroWidths branches
  | .repetition _ most body => most == some 0 || body.isZeroWidth
where
  zeroWidths : List Term → Bool
    | [] => true
    | t :: ts => t.isZeroWidth && zeroWidths ts

def Term.repeated (least : Nat) (most : Option Nat) (body : Term) : Term :=
  -- To repeat what has no width more than once makes no difference.
  if most = some 0 then .empty
  else if body.isZeroWidth then .repetition (Nat.min least 1) (some 1) body
  else .repetition least most body

mutual

def Node.term? (f : Flags) : Node → Option (Term × Flags)
  | .literal l => do some (.chars (← literalSet? f l), f)
  | .dot => do some (.chars (← dotSet? f), f)
  | .anchor a => some (.look (look f a), f)
  | .set s => do some (.chars (← s.set? f), f)
  | .flags changes => some (.empty, changes.foldl Flags.set f)
  | .group captures changes inner => do
    let (t, _) ← inner.term? (changes.foldl Flags.set f)
    some (if captures then .capture t else t, f)
  | .repetition least most body => do
    let (t, f) ← body.term? f
    some (.repeated least most t, f)
  | .sequence items => do
    let (ts, f) ← terms? f items
    some (.sequence ts, f)
  | .alternation branches => do
    let (ts, f) ← terms? f branches
    some (.alternation ts, f)

def terms? (f : Flags) : List Node → Option (List Term × Flags)
  | [] => some ([], f)
  | n :: ns => do
    let (t, f) ← n.term? f
    let (ts, f) ← terms? f ns
    some (t :: ts, f)

end

end FieldRules.Pattern
