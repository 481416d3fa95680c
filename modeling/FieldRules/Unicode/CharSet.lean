import FieldRules.Text.Hex
import FieldRules.Text.Split

set_option autoImplicit false

namespace FieldRules

structure CharSet where
  ranges : List (Nat × Nat)
deriving DecidableEq

namespace CharSet

def join : List (Nat × Nat) → List (Nat × Nat)
  -- The ranges come in ascending order of their first code point.
  | [] => []
  | r :: rs =>
    match join rs with
    | [] => [r]
    | s :: ss => if s.1 ≤ r.2 + 1 then (r.1, Nat.max r.2 s.2) :: ss else r :: s :: ss

def gaps (next last : Nat) : List (Nat × Nat) → List (Nat × Nat)
  -- The gaps run from `next` up to `last`.
  | [] => if next ≤ last then [(next, last)] else []
  | (lo, hi) :: rs =>
    if next < lo then (next, lo - 1) :: gaps (hi + 1) last rs else gaps (hi + 1) last rs

def withoutSurrogates (r : Nat × Nat) : List (Nat × Nat) :=
  [(r.1, Nat.min r.2 0xD7FF), (Nat.max r.1 0xE000, r.2)].filter fun s => s.1 ≤ s.2

def ofRanges (rs : List (Nat × Nat)) : CharSet :=
  ⟨join (rs.mergeSort fun r s => r.1 ≤ s.1)⟩

def empty : CharSet := ⟨[]⟩

def single (c : Char) : CharSet := ⟨[(c.toNat, c.toNat)]⟩

def range (lo hi : Char) : CharSet := ⟨withoutSurrogates (lo.toNat, hi.toNat)⟩

def union (s t : CharSet) : CharSet := ofRanges (s.ranges ++ t.ranges)

def compl (s : CharSet) : CharSet :=
  ⟨(gaps 0 0x10FFFF s.ranges).flatMap withoutSurrogates⟩

def all : CharSet := compl empty

def inter (s t : CharSet) : CharSet := (s.compl.union t.compl).compl

def diff (s t : CharSet) : CharSet := s.inter t.compl

def symmDiff (s t : CharSet) : CharSet := (s.union t).diff (s.inter t)

def within (n : Nat) : List (Nat × Nat) → Bool
  | [] => false
  | (lo, hi) :: rs => if n < lo then false else n ≤ hi || within n rs

def contains (s : CharSet) (c : Char) : Bool := within c.toNat s.ranges

def isAscii (s : CharSet) : Bool := s.ranges.all fun r => r.2 < 128

def tablePieces (table : String) : List (List Char) :=
  ((splitAt '\n' table.toList).flatMap (splitAt ' ')).filter (· ≠ [])

def readRange? (piece : List Char) : Option (Nat × Nat) := do
  -- One or two hexadecimal numbers with a dash between.
  match splitOnce '-' piece with
  | some (lo, hi) => some (← hexValue? lo, ← hexValue? hi)
  | none =>
    let n ← hexValue? piece
    some (n, n)

def ofTable (table : String) : CharSet :=
  ⟨((tablePieces table).filterMap readRange?).flatMap withoutSurrogates⟩

end CharSet

end FieldRules
