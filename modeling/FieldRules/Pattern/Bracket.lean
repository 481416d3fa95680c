import FieldRules.Pattern.Escape

set_option autoImplicit false

namespace FieldRules.Pattern

def asciiClass? (name : List Char) : Option AsciiClass :=
  [("alnum", AsciiClass.alnum), ("alpha", .alpha), ("ascii", .ascii), ("blank", .blank),
    ("cntrl", .cntrl), ("digit", .digit), ("graph", .graph), ("lower", .lower), ("print", .print),
    ("punct", .punct), ("space", .space), ("upper", .upper), ("word", .word),
    ("xdigit", .xdigit)].findSome? fun (known, cls) =>
      if known.toList = name then some cls else none

def takeAsciiClass : List Char → Option (SetNode × List Char)
  | ':' :: cs =>
    let (negated, cs) := match cs with
      | '^' :: cs => (true, cs)
      | cs => (false, cs)
    match cs.dropWhile (· ≠ ':') with
    | ':' :: ']' :: rest => do
      some (.ascii (← asciiClass? (cs.takeWhile (· ≠ ':'))) negated, rest)
    | _ => none
  | _ => none

def takeOperator : List Char → Option (SetOp × List Char)
  | '&' :: '&' :: cs => some (.intersection, cs)
  | '-' :: '-' :: cs => some (.difference, cs)
  | '~' :: '~' :: cs => some (.symmetricDifference, cs)
  | _ => none

def takeMember (verbose : Bool) : List Char → Option (Primitive × List Char)
  | [] => none
  | '\\' :: cs => takeEscape verbose cs
  | c :: cs => some (.literal ⟨c, false⟩, cs)

def Primitive.setNode? : Primitive → Option SetNode
  | literal l => some (.literal l)
  | set s => some s
  | _ => none

def Primitive.literal? : Primitive → Option Literal
  | literal l => some l
  | _ => none

def takeRange (verbose : Bool) (cs : List Char) : Option (SetNode × List Char) := do
  let (first, cs) ← takeMember verbose cs
  match skip verbose cs with
  | [] => none
  | '-' :: rest =>
    match skip verbose rest with
    | ']' :: _ | '-' :: _ => some (← first.setNode?, '-' :: rest)
    | rest =>
      let (last, rest) ← takeMember verbose rest
      let lo ← first.literal?
      let hi ← last.literal?
      if lo.char ≤ hi.char then some (.range lo hi, rest) else none
  | cs => some (← first.setNode?, cs)

def takeDashes (verbose : Bool) : Nat → List Char → List SetNode × List Char
  | 0, cs => ([], cs)
  | fuel + 1, cs =>
    match cs with
    | '-' :: cs =>
      let (dashes, cs) := takeDashes verbose fuel (skip verbose cs)
      (.literal ⟨'-', false⟩ :: dashes, cs)
    | cs => ([], cs)

def closeOperand (left : Option (SetOp × SetNode)) (items : List SetNode) : SetNode :=
  match left with
  | none => .union items.reverse
  | some (op, operand) => .op op operand (.union items.reverse)

mutual

def takeBracketed (verbose : Bool) : Nat → List Char → Option (SetNode × List Char)
  | 0, _ => none
  | fuel + 1, cs =>
    let (negated, cs) := match skip verbose cs with
      | '^' :: cs => (true, skip verbose cs)
      | cs => (false, cs)
    let (dashes, cs) := takeDashes verbose cs.length cs
    let (items, cs) := match dashes, cs with
      | [], ']' :: cs => ([SetNode.literal ⟨']', false⟩], skip verbose cs)
      | dashes, cs => (dashes.reverse, cs)
    do
      let (inner, cs) ← takeOperands verbose fuel none items cs
      some (.bracketed negated inner, cs)

def takeOperands (verbose : Bool) : Nat → Option (SetOp × SetNode) → List SetNode → List Char →
    Option (SetNode × List Char)
  -- The items of the operand so far come last to first.
  | 0, _, _, _ => none
  | fuel + 1, left, items, cs =>
    let cs := skip verbose cs
    match takeOperator cs with
    | some (op, cs) => takeOperands verbose fuel (some (op, closeOperand left items)) [] cs
    | none =>
      match cs with
      | ']' :: cs => some (closeOperand left items, cs)
      | '[' :: cs =>
        match takeAsciiClass cs with
        | some (cls, cs) => takeOperands verbose fuel left (cls :: items) cs
        | none => do
          let (nested, cs) ← takeBracketed verbose fuel cs
          takeOperands verbose fuel left (nested :: items) cs
      | cs => do
        let (item, cs) ← takeRange verbose cs
        takeOperands verbose fuel left (item :: items) cs

end

end FieldRules.Pattern
