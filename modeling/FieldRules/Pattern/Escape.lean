import FieldRules.Pattern.Node
import FieldRules.Text.Blank

set_option autoImplicit false

namespace FieldRules.Pattern

def skipVerbose : Bool → List Char → List Char
  | _, [] => []
  | true, c :: cs => skipVerbose (c != '\n') cs
  | false, c :: cs =>
    if isBlank c then skipVerbose false cs
    else if c = '#' then skipVerbose true cs
    else c :: cs

def skip (verbose : Bool) (cs : List Char) : List Char :=
  if verbose then skipVerbose false cs else cs

def charOf? (n : Nat) : Option Char := if n.isValidChar then some (Char.ofNat n) else none

inductive Primitive where
  | literal (l : Literal)
  | dot
  | anchor (a : Anchor)
  | set (s : SetNode)

def Primitive.node : Primitive → Node
  | literal l => .literal l
  | dot => .dot
  | anchor a => .anchor a
  | set s => .set s

def isMeta (c : Char) : Bool := "\\.+*?()|[]\x7b\x7d^$#&-~".toList.contains c

def isEscapable (c : Char) : Bool :=
  isMeta c || (c.toNat < 128 && !c.isAlphanum && c != '<' && c != '>')

def control? : Char → Option Char
  | 'a' => some '\x07'
  | 'f' => some '\x0C'
  | 't' => some '\t'
  | 'n' => some '\n'
  | 'r' => some '\r'
  | 'v' => some '\x0B'
  | _ => none

def takeHexDigits (verbose : Bool) : Nat → Nat → List Char → Option (Nat × List Char)
  | 0, n, cs => some (n, cs)
  | _ + 1, _, [] => none
  | width + 1, n, c :: cs => do
    takeHexDigits verbose width (16 * n + (← hexDigit? c)) (skip verbose cs)

def takeBraced (verbose : Bool) : Nat → List Char → Option (List Char × List Char)
  | 0, _ => none
  | fuel + 1, cs =>
    match skip verbose cs with
    | [] => none
    | '\x7d' :: cs => some ([], cs)
    | c :: cs => do
      let (name, cs) ← takeBraced verbose fuel cs
      some (c :: name, cs)

def takeHex (verbose : Bool) (width : Nat) (cs : List Char) : Option (Literal × List Char) :=
  -- So many digits, or any number of them in braces.
  match skip verbose cs with
  | '\x7b' :: cs => do
    let (digits, cs) ← takeBraced verbose (cs.length + 1) cs
    if digits = [] then none
    else some (⟨← charOf? (← hexValue? digits), false⟩, skip verbose cs)
  | cs => do
    let (n, cs) ← takeHexDigits verbose width 0 cs
    some (⟨← charOf? n, width == 2⟩, cs)

def splitUnequal : List Char → Option (List Char × List Char)
  | [] => none
  | '!' :: '=' :: cs => some ([], cs)
  | c :: cs => (splitUnequal cs).map fun (before, after) => (c :: before, after)

def propertyNode (negated : Bool) (text : List Char) : SetNode :=
  match splitUnequal text with
  | some (property, value) => .property (.valued property value) (!negated)
  | none =>
    match splitOnce ':' text <|> splitOnce '=' text with
    | some (property, value) => .property (.valued property value) negated
    | none => .property (.named text) negated

def takeProperty (verbose negated : Bool) (cs : List Char) : Option (SetNode × List Char) :=
  match skip verbose cs with
  | [] => none
  | '\x7b' :: cs => do
    let (text, cs) ← takeBraced verbose (cs.length + 1) cs
    some (propertyNode negated text, cs)
  | '\\' :: _ => none
  | c :: cs => some (.property (.named [c]) negated, skip verbose cs)

def isBoundaryNameChar (c : Char) : Bool := c.isAlpha || c == '-'

def boundary? (name : List Char) : Option Anchor :=
  if name = "start".toList then some .wordStart
  else if name = "end".toList then some .wordEnd
  else if name = "start-half".toList then some .wordStartHalf
  else if name = "end-half".toList then some .wordEndHalf
  else none

def takeBoundary (verbose : Bool) (cs : List Char) : Option (Anchor × List Char) :=
  -- A brace that no letter follows belongs to a repetition.
  match cs with
  | '\x7b' :: inner =>
    match skip verbose inner with
    | [] => none
    | c :: _ =>
      if isBoundaryNameChar c then do
        let (name, rest) ← takeBraced verbose (inner.length + 1) inner
        some (← boundary? name, rest)
      else some (.wordBoundary, cs)
  | cs => some (.wordBoundary, cs)

def takeEscape (verbose : Bool) : List Char → Option (Primitive × List Char)
  | [] => none
  | c :: cs =>
    match c with
    | 'x' => (takeHex verbose 2 cs).map fun (l, cs) => (.literal l, cs)
    | 'u' => (takeHex verbose 4 cs).map fun (l, cs) => (.literal l, cs)
    | 'U' => (takeHex verbose 8 cs).map fun (l, cs) => (.literal l, cs)
    | 'p' => (takeProperty verbose false cs).map fun (s, cs) => (.set s, cs)
    | 'P' => (takeProperty verbose true cs).map fun (s, cs) => (.set s, cs)
    | 'd' => some (.set (.named .digit false), cs)
    | 'D' => some (.set (.named .digit true), cs)
    | 's' => some (.set (.named .space false), cs)
    | 'S' => some (.set (.named .space true), cs)
    | 'w' => some (.set (.named .word false), cs)
    | 'W' => some (.set (.named .word true), cs)
    | 'A' => some (.anchor .textStart, cs)
    | 'z' => some (.anchor .textEnd, cs)
    | 'b' => (takeBoundary verbose cs).map fun (a, cs) => (.anchor a, cs)
    | 'B' => some (.anchor .notWordBoundary, cs)
    | '<' => some (.anchor .wordStart, cs)
    | '>' => some (.anchor .wordEnd, cs)
    | c =>
      if isEscapable c then some (.literal ⟨c, false⟩, cs)
      else (control? c).map fun c => (.literal ⟨c, false⟩, cs)

end FieldRules.Pattern
