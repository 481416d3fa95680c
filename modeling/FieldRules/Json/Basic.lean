import FieldRules.Number.Basic
import FieldRules.SortedMap

set_option autoImplicit false

namespace FieldRules

inductive Json where
  | null
  | bool (b : Bool)
  | number (n : Number)
  | text (s : String)
  | array (items : List Json)
  | object (members : List (String × Json))

namespace Json

mutual

def same : Json → Json → Bool
  | .null, .null => true
  | .bool a, .bool b => a == b
  | .number m, .number n => m.same n
  | .text s, .text t => s == t
  | .array xs, .array ys => sameItems xs ys
  | .object ms, .object ns => sameMembers ms ns
  | _, _ => false

def sameItems : List Json → List Json → Bool
  | [], [] => true
  | x :: xs, y :: ys => x.same y && sameItems xs ys
  | _, _ => false

def sameMembers : List (String × Json) → List (String × Json) → Bool
  | [], [] => true
  | (j, x) :: ms, (k, y) :: ns => j == k && x.same y && sameMembers ms ns
  | _, _ => false

end

mutual

def Ordered : Json → Prop
  | .array items => OrderedItems items
  | .object members => Ascending members ∧ OrderedMembers members
  | _ => True

def OrderedItems : List Json → Prop
  | [] => True
  | x :: xs => x.Ordered ∧ OrderedItems xs

def OrderedMembers : List (String × Json) → Prop
  | [] => True
  | (_, x) :: ms => x.Ordered ∧ OrderedMembers ms

end

theorem orderedMembers_iff {members : List (String × Json)} :
    OrderedMembers members ↔ ∀ m ∈ members, m.2.Ordered := by
  induction members with
  | nil => simp [OrderedMembers]
  | cons m ms ih => simp [OrderedMembers, ih]

def isEmpty : Json → Bool
  | .null => true
  | .text s => s == ""
  | .array items => items.isEmpty
  | _ => false

end Json

structure Datum where
  value : Json
  ordered : value.Ordered

namespace Datum

def null : Datum := ⟨.null, trivial⟩

end Datum

end FieldRules
