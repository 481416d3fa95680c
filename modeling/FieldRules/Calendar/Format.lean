import FieldRules.Calendar.Moment
import FieldRules.Number.Reading

set_option autoImplicit false

namespace FieldRules

structure DateParts where
  year : Int := 0
  month : Nat := 0
  day : Nat := 0
  hour : Nat := 0
  minute : Nat := 0
  second : Nat := 0
  nano : Nat := 0
deriving DecidableEq

namespace DateParts

def date (p : DateParts) : Date := ⟨p.year, p.month, p.day⟩

def moment? (p : DateParts) : Option Moment :=
  -- The sixtieth second is a leap second.
  if h : p.date.isValid ∧ p.hour < 24 ∧ p.minute < 60 ∧ p.second ≤ 60 ∧
      p.nano < 1000000000 then
    some
      { day := p.date.dayNumber
        second := p.hour * 3600 + p.minute * 60 + min p.second 59
        nano := p.nano + (if p.second = 60 then 1000000000 else 0)
        second_lt := by
          have := Nat.min_le_right p.second 59
          obtain ⟨_, _, _, _, _⟩ := h
          omega
        nano_lt := by split <;> omega }
  else none

end DateParts

inductive FormatItem where
  | year | month | day | hour | minute | second | fraction
  | blanks
  | exactly (c : Char)
deriving DecidableEq

def takeDigits? (width : Nat) (cs : List Char) : Option (Nat × List Char) :=
  match (cs.takeWhile Char.isDigit).take width with
  | [] => none
  | digits => some (digitsValue digits, cs.drop digits.length)

def takeNanos? (cs : List Char) : Option (Nat × List Char) :=
  -- Digits after the ninth do not count.
  match cs.takeWhile Char.isDigit with
  | [] => none
  | digits =>
    let counted := digits.take 9
    some (digitsValue counted * 10 ^ (9 - counted.length), cs.drop digits.length)

def takeYear? (cs : List Char) : Option (Int × List Char) :=
  -- At most four digits, or a sign and any number of them.
  match cs with
  | '-' :: cs => (takeDigits? cs.length cs).map fun (n, cs) => (-(n : Int), cs)
  | '+' :: cs => (takeDigits? cs.length cs).map fun (n, cs) => ((n : Int), cs)
  | cs => (takeDigits? 4 cs).map fun (n, cs) => ((n : Int), cs)

namespace FormatItem

def take? (p : DateParts) (cs : List Char) : FormatItem → Option (DateParts × List Char)
  | year => (takeYear? (skipBlanks cs)).map fun (n, cs) => ({ p with year := n }, cs)
  | month => (takeDigits? 2 (skipBlanks cs)).map fun (n, cs) => ({ p with month := n }, cs)
  | day => (takeDigits? 2 (skipBlanks cs)).map fun (n, cs) => ({ p with day := n }, cs)
  | hour => (takeDigits? 2 (skipBlanks cs)).map fun (n, cs) => ({ p with hour := n }, cs)
  | minute => (takeDigits? 2 (skipBlanks cs)).map fun (n, cs) => ({ p with minute := n }, cs)
  | second => (takeDigits? 2 (skipBlanks cs)).map fun (n, cs) => ({ p with second := n }, cs)
  | fraction =>
    match cs with
    | '.' :: cs => (takeNanos? cs).map fun (n, cs) => ({ p with nano := n }, cs)
    | cs => some (p, cs)
  | blanks => some (p, skipBlanks cs)
  | exactly c =>
    match cs with
    | [] => none
    | d :: cs => if c = d then some (p, cs) else none

end FormatItem

abbrev DateFormat := List FormatItem

namespace DateFormat

def parts? : DateFormat → DateParts → List Char → Option DateParts
  | [], p, [] => some p
  | [], _, _ :: _ => none
  | item :: items, p, cs => do
    let (p, cs) ← item.take? p cs
    parts? items p cs

def moment? (format : DateFormat) (cs : List Char) : Option Moment :=
  (parts? format {} cs).bind DateParts.moment?

open FormatItem in
def withTime : List DateFormat :=
  let date := [year, exactly '-', month, exactly '-', day]
  let time := [hour, exactly ':', minute, exactly ':', second]
  [date ++ blanks :: time,
    date ++ exactly 'T' :: time,
    date ++ exactly 'T' :: time ++ [fraction],
    date ++ [blanks, hour, exactly ':', minute]]

open FormatItem in
def dateOnly : List DateFormat :=
  -- A date alone stands for its midnight.
  [[year, exactly '-', month, exactly '-', day],
    [year, exactly '/', month, exactly '/', day],
    [month, exactly '-', day, exactly '-', year],
    [month, exactly '/', day, exactly '/', year]]

end DateFormat

end FieldRules
