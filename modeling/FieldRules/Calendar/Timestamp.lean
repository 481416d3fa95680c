import FieldRules.Calendar.Format

set_option autoImplicit false

namespace FieldRules.Timestamp

def takeExactly? (width : Nat) (cs : List Char) : Option (Nat × List Char) :=
  let digits := cs.take width
  if digits.length = width ∧ digits.all Char.isDigit then
    some (digitsValue digits, cs.drop width)
  else none

def takeChar? (c : Char) : List Char → Option (List Char)
  | [] => none
  | d :: cs => if c = d then some cs else none

def takeDivider? : List Char → Option (List Char)
  | [] => none
  | d :: cs => if d = 'T' ∨ d = 't' ∨ d = ' ' then some cs else none

def takeFractionNanos? : List Char → Option (Nat × List Char)
  | '.' :: cs => takeNanos? cs
  | cs => some (0, cs)

def offsetSign? : Char → Option Int
  | '+' => some 1
  | '-' => some (-1)
  | '\u2212' => some (-1)
  | _ => none

def offset? : List Char → Option Int
  -- A day or more is too much.
  | [] => none
  | c :: cs =>
    if c = 'Z' ∨ c = 'z' then if cs = [] then some 0 else none
    else do
      let sign ← offsetSign? c
      let (hours, cs) ← takeExactly? 2 cs
      let cs ← takeChar? ':' cs
      let (minutes, cs) ← takeExactly? 2 cs
      if cs = [] ∧ hours < 24 ∧ minutes < 60 then
        some (sign * ((hours * 3600 + minutes * 60 : Nat) : Int))
      else none

def takeLocal? (cs : List Char) : Option (DateParts × List Char) := do
  let (year, cs) ← takeExactly? 4 cs
  let cs ← takeChar? '-' cs
  let (month, cs) ← takeExactly? 2 cs
  let cs ← takeChar? '-' cs
  let (day, cs) ← takeExactly? 2 cs
  let cs ← takeDivider? cs
  let (hour, cs) ← takeExactly? 2 cs
  let cs ← takeChar? ':' cs
  let (minute, cs) ← takeExactly? 2 cs
  let cs ← takeChar? ':' cs
  let (second, cs) ← takeExactly? 2 cs
  let (nano, cs) ← takeFractionNanos? cs
  some (⟨year, month, day, hour, minute, second, nano⟩, cs)

def moment? (cs : List Char) : Option Moment := do
  let (parts, cs) ← takeLocal? cs
  let offset ← offset? cs
  let moment ← parts.moment?
  some (moment.addSeconds (-offset))

end FieldRules.Timestamp
