import FieldRules.Number.Power
import FieldRules.Text.Hex
import FieldRules.Text.Split

set_option autoImplicit false

namespace FieldRules.Ip

def valueIn (base : Nat) (digits : List Char) : Option Nat :=
  digits.foldlM (fun n c => do
    let d ← hexDigit? c
    if d < base then some (base * n + d) else none) 0

def number? : List Char → Option Nat
  | [] => none
  | '0' :: 'x' :: digits | '0' :: 'X' :: digits => valueIn 16 digits
  | '0' :: d :: digits => valueIn 8 (d :: digits)
  | digits => valueIn 10 digits

def withoutRoot (labels : List (List Char)) : List (List Char) :=
  match labels.reverse with
  | [] :: rest => rest.reverse
  | _ => labels

def endsInNumber (labels : List (List Char)) : Bool :=
  match (withoutRoot labels).getLast? with
  | none => false
  | some last => (last ≠ [] && last.all Char.isDigit) || (number? last).isSome

def isV4 (labels : List (List Char)) : Bool :=
  match (withoutRoot labels).mapM number? with
  | none => false
  | some numbers =>
    match numbers.reverse with
    | [] => false
    | last :: rest => rest.length ≤ 3 && rest.all (· < 256) && last < 256 ^ (4 - rest.length)

def isGroup (cs : List Char) : Bool := cs ≠ [] && cs.length ≤ 4 && cs.all isHexDigit

def isOctet (cs : List Char) : Bool :=
  cs ≠ [] && cs.all Char.isDigit && (cs.length = 1 || cs.head? != some '0') &&
    (valueIn 10 cs).any (· < 256)

def isDotted (cs : List Char) : Bool :=
  let parts := splitAt '.' cs
  parts.length = 4 && parts.all isOctet

def groups? (dotted : Bool) : List (List Char) → Option Nat
  -- Four numbers with points may stand for the last two groups.
  | [] => some 0
  | [last] => if isGroup last then some 1 else if dotted && isDotted last then some 2 else none
  | piece :: pieces => if isGroup piece then (groups? dotted pieces).map (· + 1) else none

def splitGap : List Char → Option (List Char × List Char)
  | [] => none
  | ':' :: ':' :: cs => some ([], cs)
  | c :: cs => (splitGap cs).map fun (before, after) => (c :: before, after)

def pieces (cs : List Char) : List (List Char) := if cs = [] then [] else splitAt ':' cs

def isV6 (cs : List Char) : Bool :=
  match splitGap cs with
  | none => groups? true (pieces cs) == some 8
  | some (before, after) =>
    match groups? false (pieces before), groups? true (pieces after) with
    | some m, some n => m + n ≤ 7
    | _, _ => false

end FieldRules.Ip
