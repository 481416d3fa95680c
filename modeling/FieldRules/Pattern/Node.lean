import FieldRules.Unicode.CharSet

set_option autoImplicit false

namespace FieldRules.Pattern

inductive Flag where
  | ignoreCase | multiLine | dotAll | swapGreed | unicode | crlf | verbose
deriving DecidableEq

inductive Anchor where
  | lineStart | lineEnd | textStart | textEnd
  | wordBoundary | notWordBoundary | wordStart | wordEnd | wordStartHalf | wordEndHalf
deriving DecidableEq

inductive ClassName where
  | digit | space | word
deriving DecidableEq

inductive AsciiClass where
  -- Written between colons, as in `[:alpha:]`.
  | alnum | alpha | ascii | blank | cntrl | digit | graph | lower | print | punct | space | upper
  | word | xdigit
deriving DecidableEq

structure Literal where
  -- `byte` when written by two hexadecimal digits.
  char : Char
  byte : Bool
deriving DecidableEq

inductive PropertyQuery where
  | named (name : List Char)
  | valued (property value : List Char)
deriving DecidableEq

inductive SetOp where
  | intersection | difference | symmetricDifference
deriving DecidableEq

inductive SetNode where
  | literal (l : Literal)
  | range (first last : Literal)
  | ascii (cls : AsciiClass) (negated : Bool)
  | named (cls : ClassName) (negated : Bool)
  | property (query : PropertyQuery) (negated : Bool)
  | bracketed (negated : Bool) (inner : SetNode)
  | union (items : List SetNode)
  | op (op : SetOp) (left right : SetNode)

inductive Node where
  | literal (l : Literal)
  | dot
  | anchor (a : Anchor)
  | set (s : SetNode)
  | flags (changes : List (Flag × Bool))
  | group (captures : Bool) (changes : List (Flag × Bool)) (inner : Node)
  | repetition (least : Nat) (most : Option Nat) (body : Node)
  | sequence (items : List Node)
  | alternation (branches : List Node)

mutual

def SetNode.depth : SetNode → Nat
  -- A union of one item is no level of its own.
  | .bracketed _ inner => inner.depth + 1
  | .union items =>
    match items with
    | [] => 0
    | [item] => item.depth
    | items => setDepths items + 1
  | .op _ left right => Nat.max left.depth right.depth + 1
  | _ => 0

def setDepths : List SetNode → Nat
  | [] => 0
  | s :: ss => Nat.max s.depth (setDepths ss)

end

mutual

def Node.depth : Node → Nat
  -- A sequence or alternation of one part is no level of its own.
  | .set (.bracketed negated inner) => (SetNode.bracketed negated inner).depth
  | .group _ _ inner => inner.depth + 1
  | .repetition _ _ body => body.depth + 1
  | .sequence items =>
    match items with
    | [] => 0
    | [item] => item.depth
    | items => nodeDepths items + 1
  | .alternation branches =>
    match branches with
    | [] => 0
    | [branch] => branch.depth
    | branches => nodeDepths branches + 1
  | _ => 0

def nodeDepths : List Node → Nat
  | [] => 0
  | n :: ns => Nat.max n.depth (nodeDepths ns)

end

end FieldRules.Pattern
