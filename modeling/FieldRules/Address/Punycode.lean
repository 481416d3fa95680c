set_option autoImplicit false

namespace FieldRules.Punycode

def digit? (c : Char) : Option Nat :=
  if c.isDigit then some (c.toNat - '0'.toNat + 26)
  else if c.isLower then some (c.toNat - 'a'.toNat)
  else if c.isUpper then some (c.toNat - 'A'.toNat)
  else none

def adapt (delta count : Nat) (first : Bool) : Nat :=
  -- The width expected of the next numbers follows from the size of the last one.
  let delta := if first then delta / 700 else delta / 2
  settle 0 (delta + delta / count) 32
where
  settle (k delta : Nat) : Nat → Nat
    -- Each step takes away a factor of 35, so these are enough for every number below `35^32`.
    | 0 => k
    | steps + 1 =>
      if delta > 455 then settle (k + 36) (delta / 35) steps else k + 36 * delta / (delta + 38)

-- A label in the making: its characters, where and which the next one is counted from, and the
-- number that is being read.
structure Progress where
  label : List Nat
  char : Nat := 128
  position : Nat := 0
  bias : Nat := 72
  first : Bool := true
  delta : Nat := 0
  weight : Nat := 1
  place : Nat := 36

def Progress.threshold (p : Progress) : Nat :=
  -- A digit from here on has another one behind it.
  if p.place ≤ p.bias then 1
  else if p.bias + 26 ≤ p.place then 26
  else p.place - p.bias

def Progress.put? (p : Progress) (delta : Nat) : Option Progress :=
  let count := p.label.length + 1
  let char := p.char + (p.position + delta) / count
  let position := (p.position + delta) % count
  if char.isValidChar then
    some
      { label := p.label.take position ++ char :: p.label.drop position
        char
        position := position + 1
        bias := adapt delta count p.first
        first := false }
  else none

def Progress.read? (p : Progress) (c : Char) : Option Progress := do
  let d ← digit? c
  let delta := p.delta + d * p.weight
  if d < p.threshold then p.put? delta
  else some { p with delta, weight := p.weight * (36 - p.threshold), place := p.place + 36 }

def parts (cs : List Char) : List Char × List Char :=
  -- A dash in front divides nothing.
  match (cs.reverse.takeWhile (· ≠ '-')).reverse, (cs.reverse.dropWhile (· ≠ '-')).reverse with
  | digits, plain =>
    match plain.dropLast with
    | [] => ([], plain ++ digits)
    | basic => (basic, digits)

def decode? (cs : List Char) : Option (List Char) := do
  let (basic, digits) := parts cs
  let p ← digits.foldlM Progress.read? { label := basic.map Char.toNat }
  if p.weight = 1 ∧ p.place = 36 then some (p.label.map Char.ofNat) else none

end FieldRules.Punycode
