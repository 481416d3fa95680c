import FieldRules.Number.Power
import FieldRules.Pattern.Bracket
import FieldRules.Unicode.Category
import FieldRules.Unicode.Property

set_option autoImplicit false

namespace FieldRules.Pattern

structure Scope where
  verbose : Bool
  names : List (List Char)

def alphabetic : CharSet := (NamedSet.find? properties (looseName "Alphabetic".toList)).getD .empty

def numeric : CharSet :=
  ["Nd", "Nl", "No"].foldl
    (fun s name => s.union ((NamedSet.find? categories (looseName name.toList)).getD .empty)) .empty

def isNameStart (c : Char) : Bool := c = '_' || alphabetic.contains c

def isNameChar (c : Char) : Bool :=
  c = '_' || c = '.' || c = '[' || c = ']' || alphabetic.contains c || numeric.contains c

def takeGroupName (cs : List Char) : Option (List Char × List Char) := do
  let (name, cs) ← splitOnce '>' cs
  match name with
  | [] => none
  | c :: rest => if isNameStart c && rest.all isNameChar then some (name, cs) else none

def flag? : Char → Option Flag
  | 'i' => some .ignoreCase
  | 'm' => some .multiLine
  | 's' => some .dotAll
  | 'U' => some .swapGreed
  | 'u' => some .unicode
  | 'R' => some .crlf
  | 'x' => some .verbose
  | _ => none

def takeFlags : Bool → List (Flag × Bool) → List Char → Option (List (Flag × Bool) × List Char)
  -- No flag twice; those after a dash are switched off.
  | _, _, [] => none
  | on, seen, c :: cs =>
    if c = ':' ∨ c = ')' then some (seen.reverse, c :: cs)
    else if c = '-' then
      match on, cs with
      | true, d :: _ => if d = ':' ∨ d = ')' then none else takeFlags false seen cs
      | _, _ => none
    else do
      let flag ← flag? c
      if seen.any (·.1 = flag) then none else takeFlags on ((flag, on) :: seen) cs

def setting? (changes : List (Flag × Bool)) (flag : Flag) : Option Bool :=
  (changes.find? (·.1 = flag)).map (·.2)

inductive Opening where
  | switch (changes : List (Flag × Bool))
  | group (captures : Bool) (changes : List (Flag × Bool)) (names : List (List Char))

def takeOpening (scope : Scope) (cs : List Char) : Option (Opening × List Char) :=
  -- Conditions on the text around have no written form.
  let named (cs : List Char) : Option (Opening × List Char) := do
    let (name, cs) ← takeGroupName cs
    if scope.names.contains name then none
    else some (.group true [] (name :: scope.names), cs)
  match skip scope.verbose cs with
  | '?' :: '=' :: _ | '?' :: '!' :: _ | '?' :: '<' :: '=' :: _ | '?' :: '<' :: '!' :: _ => none
  | '?' :: 'P' :: '<' :: cs | '?' :: '<' :: cs => named cs
  | '?' :: cs => do
    let (changes, cs) ← takeFlags true [] cs
    match cs with
    | ':' :: cs => some (.group false changes scope.names, cs)
    | _ :: cs => if changes = [] then none else some (.switch changes, cs)
    | [] => none
  | cs => some (.group true [] scope.names, cs)

def takeDigits (verbose : Bool) : Nat → List Char → List Char × List Char
  | 0, cs => ([], cs)
  | fuel + 1, cs =>
    match cs with
    | [] => ([], [])
    | c :: cs =>
      if c.isDigit then
        let (digits, cs) := takeDigits verbose fuel (skip verbose cs)
        (c :: digits, cs)
      else ([], c :: cs)

def takeCount (verbose : Bool) (cs : List Char) : Option (Nat × List Char) :=
  let (digits, cs) := takeDigits verbose cs.length (skipBlanks cs)
  let n := digits.foldl (fun n d => 10 * n + (d.toNat - '0'.toNat)) 0
  if digits = [] ∨ 2 ^ 32 ≤ n then none else some (n, skip verbose (skipBlanks cs))

def takeBounds (verbose : Bool) (cs : List Char) : Option (Nat × Option Nat × List Char) := do
  let (least, cs) ← takeCount verbose (skip verbose cs)
  let (most, cs) ← match cs with
    | ',' :: cs =>
      match skip verbose cs with
      | '\x7d' :: cs => some (none, '\x7d' :: cs)
      | cs => do
        let (most, cs) ← takeCount verbose cs
        some (some most, cs)
    | cs => some (some least, cs)
  match cs with
  | '\x7d' :: cs =>
    if most.all (least ≤ ·) then some (least, most, skip verbose cs) else none
  | _ => none

def repeatLast (least : Nat) (most : Option Nat) : List Node → List Char →
    Option (List Node × List Char)
  -- Which of several matches is taken does not matter here, so a question mark behind is read and
  -- dropped.
  | [], _ => none
  | .flags _ :: _, _ => none
  | item :: items, cs =>
    let cs := match cs with
      | '?' :: cs => cs
      | cs => cs
    some (.repetition least most item :: items, cs)

mutual

def takeBranches : Nat → Scope → List Char → Option (List Node × Scope × List Char)
  | 0, _, _ => none
  | fuel + 1, scope, cs => do
    let (items, scope, cs) ← takeItems fuel scope [] cs
    match cs with
    | '|' :: cs =>
      let (branches, scope, cs) ← takeBranches fuel scope cs
      some (.sequence items :: branches, scope, cs)
    | cs => some ([.sequence items], scope, cs)

def takeItems : Nat → Scope → List Node → List Char → Option (List Node × Scope × List Char)
  -- The items read before come last to first.
  | 0, _, _, _ => none
  | fuel + 1, scope, items, cs =>
    match skip scope.verbose cs with
    | [] => some (items.reverse, scope, [])
    | '|' :: cs => some (items.reverse, scope, '|' :: cs)
    | ')' :: cs => some (items.reverse, scope, ')' :: cs)
    | '(' :: cs => do
      let (opening, cs) ← takeOpening scope cs
      match opening with
      | .switch changes =>
        let verbose := (setting? changes .verbose).getD scope.verbose
        takeItems fuel { scope with verbose } (.flags changes :: items) cs
      | .group captures changes names =>
        let verbose := (setting? changes .verbose).getD scope.verbose
        let (branches, inner, cs) ← takeBranches fuel ⟨verbose, names⟩ cs
        match cs with
        | ')' :: cs =>
          takeItems fuel { inner with verbose := scope.verbose }
            (.group captures changes (.alternation branches) :: items) cs
        | _ => none
    | '[' :: cs => do
      let (s, cs) ← takeBracketed scope.verbose (2 * cs.length + 2) cs
      takeItems fuel scope (.set s :: items) cs
    | '?' :: cs => do
      let (items, cs) ← repeatLast 0 (some 1) items cs
      takeItems fuel scope items cs
    | '*' :: cs => do
      let (items, cs) ← repeatLast 0 none items cs
      takeItems fuel scope items cs
    | '+' :: cs => do
      let (items, cs) ← repeatLast 1 none items cs
      takeItems fuel scope items cs
    | '\x7b' :: cs => do
      let (least, most, cs) ← takeBounds scope.verbose cs
      let (items, cs) ← repeatLast least most items cs
      takeItems fuel scope items cs
    | '\\' :: cs => do
      let (primitive, cs) ← takeEscape scope.verbose cs
      takeItems fuel scope (primitive.node :: items) cs
    | '.' :: cs => takeItems fuel scope (.dot :: items) cs
    | '^' :: cs => takeItems fuel scope (.anchor .lineStart :: items) cs
    | '$' :: cs => takeItems fuel scope (.anchor .lineEnd :: items) cs
    | c :: cs => takeItems fuel scope (.literal ⟨c, false⟩ :: items) cs

end

-- Nested at most 250 deep. Each level of recursion but two takes a character.
def readNode? (text : List Char) : Option Node := do
  let (branches, _, rest) ← takeBranches (2 * text.length + 2) ⟨false, []⟩ text
  let node := Node.alternation branches
  if rest = [] ∧ node.depth ≤ 250 then some node else none

end FieldRules.Pattern
