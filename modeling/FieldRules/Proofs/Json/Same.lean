import FieldRules.Json.Basic

set_option autoImplicit false

namespace FieldRules

namespace Binary64

def unsignedZero (x : Binary64) : Binary64 := if x.units = 0 then zero else x

theorem toUnits_unsignedZero (x : Binary64) : x.unsignedZero.toUnits = x.toUnits := by
  unfold unsignedZero
  split
  next none => simp [zero, toUnits, none]
  next => rfl

theorem same_iff {x y : Binary64} : x.same y = true ↔ x.unsignedZero = y.unsignedZero := by
  rw [same, beq_iff_eq]
  constructor
  · intro equal
    obtain ⟨negative, units, representable⟩ := x
    obtain ⟨negative', units', representable'⟩ := y
    have magnitude : units = units' := by
      simp only [toUnits] at equal
      split at equal <;> split at equal <;> omega
    subst magnitude
    unfold unsignedZero
    dsimp only
    split
    next => rfl
    next some =>
      -- Only zero is its own negative.
      have sign : negative = negative' := by
        cases negative <;> cases negative' <;> simp [toUnits] at equal ⊢ <;> omega
      rw [sign]
  · intro equal
    rw [← x.toUnits_unsignedZero, equal, y.toUnits_unsignedZero]

end Binary64

namespace Number

def unsignedZero : Number → Number
  | .int n inRange => .int n inRange
  | .float x => .float x.unsignedZero

theorem same_iff {m n : Number} : m.same n = true ↔ m.unsignedZero = n.unsignedZero := by
  cases m <;> cases n <;> simp [same, unsignedZero, Binary64.same_iff]

theorem toUnits_of_same {m n : Number} (equal : m.same n = true) :
    m.value.toUnits = n.value.toUnits := by
  cases m <;> cases n <;> simp_all [same, value, Binary64.same]

end Number

namespace Json

mutual

def unsignedZeros : Json → Json
  | .number n => .number n.unsignedZero
  | .array items => .array (unsignedItems items)
  | .object members => .object (unsignedMembers members)
  | v => v

def unsignedItems : List Json → List Json
  | [] => []
  | x :: xs => x.unsignedZeros :: unsignedItems xs

def unsignedMembers : List (String × Json) → List (String × Json)
  | [] => []
  | (k, x) :: ms => (k, x.unsignedZeros) :: unsignedMembers ms

end

mutual

theorem same_iff : ∀ v w : Json, v.same w = true ↔ v.unsignedZeros = w.unsignedZeros
  | .number m, w => by cases w <;> simp [same, unsignedZeros, Number.same_iff]
  | .array items, w => by cases w <;> simp [same, unsignedZeros, sameItems_iff items]
  | .object members, w => by cases w <;> simp [same, unsignedZeros, sameMembers_iff members]
  | .null, w | .bool _, w | .text _, w => by cases w <;> simp [same, unsignedZeros]

theorem sameItems_iff : ∀ xs ys : List Json,
    sameItems xs ys = true ↔ unsignedItems xs = unsignedItems ys
  | [], ys => by cases ys <;> simp [sameItems, unsignedItems]
  | x :: xs, ys => by cases ys <;> simp [sameItems, unsignedItems, same_iff x, sameItems_iff xs]

theorem sameMembers_iff : ∀ ms ns : List (String × Json),
    sameMembers ms ns = true ↔ unsignedMembers ms = unsignedMembers ns
  | [], ns => by cases ns <;> simp [sameMembers, unsignedMembers]
  | (_, x) :: ms, ns => by
    cases ns <;> simp [sameMembers, unsignedMembers, same_iff x, sameMembers_iff ms]

end

end Json

end FieldRules
