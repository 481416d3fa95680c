import FieldRules.Json.Document
import FieldRules.Number.Scaling
import FieldRules.Text.Hex

set_option autoImplicit false

namespace FieldRules.Document

def isGap (c : Char) : Bool := c = ' ' || c = '\t' || c = '\n' || c = '\r'

def skipGap (cs : List Char) : List Char := cs.dropWhile isGap

def escaped? : Char → Option Char
  | '"' => some '"'
  | '\\' => some '\\'
  | '/' => some '/'
  | 'b' => some '\x08'
  | 'f' => some '\x0C'
  | 'n' => some '\n'
  | 'r' => some '\r'
  | 't' => some '\t'
  | _ => none

def takeCodePoints : List Char → Option (List Nat × List Char)
  | [] => none
  | '"' :: cs => some ([], cs)
  | '\\' :: 'u' :: a :: b :: c :: d :: cs => do
    let n ← hexValue? [a, b, c, d]
    let (ns, cs) ← takeCodePoints cs
    some (n :: ns, cs)
  | '\\' :: letter :: cs => do
    let c ← escaped? letter
    let (ns, cs) ← takeCodePoints cs
    some (c.toNat :: ns, cs)
  | c :: cs =>
    if c.toNat < 0x20 then none
    else do
      let (ns, cs) ← takeCodePoints cs
      some (c.toNat :: ns, cs)

def joinPairs? : List Nat → Option (List Char)
  -- Half a pair on its own is no character.
  | [] => some []
  | n :: ns =>
    if 0xD800 ≤ n ∧ n < 0xDC00 then
      match ns with
      | low :: ns =>
        if 0xDC00 ≤ low ∧ low < 0xE000 then
          (joinPairs? ns).map (Char.ofNat (0x10000 + (n - 0xD800) * 0x400 + (low - 0xDC00)) :: ·)
        else none
      | [] => none
    else if 0xDC00 ≤ n ∧ n < 0xE000 then none
    else (joinPairs? ns).map (Char.ofNat n :: ·)

-- The inner `none` is a text without value.
def takeText (cs : List Char) : Option (Option String × List Char) := do
  let (ns, cs) ← takeCodePoints cs
  some ((joinPairs? ns).map String.ofList, cs)

def takeWhole (cs : List Char) : Option (List Char × List Char) :=
  match cs.takeWhile Char.isDigit with
  | [] => none
  | '0' :: _ :: _ => none
  | digits => some (digits, cs.dropWhile Char.isDigit)

def takeExponent : List Char → Option (Option Int × List Char)
  | [] => some (none, [])
  | c :: cs =>
    if c = 'e' ∨ c = 'E' then
      let (negative, cs) := takeSign cs
      match cs.takeWhile Char.isDigit with
      | [] => none
      | digits =>
        let n : Int := digitsValue digits
        some (some (if negative then -n else n), cs.dropWhile Char.isDigit)
    else some (none, c :: cs)

def fillWord (n : Nat) : List Char → Nat × List Char
  -- The digits that still fit 64 bits behind `n`, and those that are left.
  | [] => (n, [])
  | d :: ds =>
    let m := 10 * n + (d.toNat - '0'.toNat)
    if m < 2 ^ 64 then fillWord m ds else (n, d :: ds)

def integer? (negative : Bool) (n dropped : Nat) : Option Number :=
  -- Zero with a minus sign is a float, as is what does not fit 64 bits.
  if h : dropped = 0 ∧ negative = true ∧ 0 < n ∧ n ≤ 2 ^ 63 then some (.int (-n) (by omega))
  else if h : dropped = 0 ∧ negative = false ∧ n < 2 ^ 64 then some (.int n (by omega))
  else (Binary64.ofParts? negative n dropped).map .float

def takeNumber (cs : List Char) : Option (Option Number × List Char) := do
  -- The inner `none` is a number that is too large.
  let (negative, cs) := match cs with
    | '-' :: cs => (true, cs)
    | cs => (false, cs)
  let (whole, cs) ← takeWhole cs
  let pointed := cs.head? == some '.'
  let (fraction, cs) := takeFraction cs
  if pointed && fraction.isEmpty then none
  else
    let (exponent, cs) ← takeExponent cs
    let (n, left) := fillWord 0 whole
    if !pointed && exponent.isNone then some (integer? negative n left.length, cs)
    else
      -- Behind digits that are left out, one of the fraction may fit again.
      let (n, unused) := fillWord n fraction
      let places : Int := fraction.length - unused.length
      let x := Binary64.ofParts? negative n (exponent.getD 0 + left.length - places)
      some (x.map .float, cs)

mutual

-- There is `room` for that many levels of nesting.
def takeValue : Nat → Nat → List Char → Option (Document × List Char)
  | 0, _, _ => none
  | fuel + 1, room, cs =>
    match skipGap cs with
    | 'n' :: 'u' :: 'l' :: 'l' :: cs => some (.null, cs)
    | 't' :: 'r' :: 'u' :: 'e' :: cs => some (.bool true, cs)
    | 'f' :: 'a' :: 'l' :: 's' :: 'e' :: cs => some (.bool false, cs)
    | '"' :: cs => do
      let (s, cs) ← takeText cs
      some ((s.map Document.text).getD .unreadable, cs)
    | '[' :: cs =>
      match skipGap cs with
      | ']' :: cs => some (if room = 0 then .unreadable else .array [], cs)
      | cs => do
        let (items, cs) ← takeItems fuel (room - 1) cs
        some (if room = 0 then .unreadable else .array items, cs)
    | '{' :: cs =>
      match skipGap cs with
      | '}' :: cs => some (if room = 0 then .unreadable else .object [], cs)
      | cs => do
        let (members, cs) ← takeMembers fuel (room - 1) cs
        match members with
        | some members => some (if room = 0 then .unreadable else .object members, cs)
        | none => some (.unreadable, cs)
    | cs => do
      let (n, cs) ← takeNumber cs
      some ((n.map Document.number).getD .unreadable, cs)

def takeItems : Nat → Nat → List Char → Option (List Document × List Char)
  | 0, _, _ => none
  | fuel + 1, room, cs => do
    let (item, cs) ← takeValue fuel room cs
    match skipGap cs with
    | ',' :: cs =>
      let (items, cs) ← takeItems fuel room cs
      some (item :: items, cs)
    | ']' :: cs => some ([item], cs)
    | _ => none

def takeMembers : Nat → Nat → List Char →
    Option (Option (List (String × Document)) × List Char)
  -- The inner `none` is a name without value.
  | 0, _, _ => none
  | fuel + 1, room, cs =>
    match skipGap cs with
    | '"' :: cs => do
      let (name, cs) ← takeText cs
      match skipGap cs with
      | ':' :: cs =>
        let (value, cs) ← takeValue fuel room cs
        match skipGap cs with
        | ',' :: cs =>
          let (members, cs) ← takeMembers fuel room cs
          some (do some (((← name), value) :: (← members)), cs)
        | '}' :: cs => some (name.map fun name => [(name, value)], cs)
        | _ => none
      | _ => none
    | _ => none

end

-- Each level of recursion takes at least one character of two.
def read? (text : List Char) : Option Document := do
  let (d, rest) ← takeValue (2 * text.length + 2) 127 text
  if skipGap rest = [] then some d else none

def readJson? (text : List Char) : Option Json := do (← read? text).json?

end FieldRules.Document
