import FieldRules.Pattern.Reading

set_option autoImplicit false

namespace FieldRules.Pattern

-- A bracket in front of the text is closed in front of the rest.
def Opens (cs : List Char) (s : SetNode) (rest : List Char) : Prop :=
  takeBracketed false (2 * cs.length + 2) cs = some (s, rest)

-- What the reader does at a character when blanks are not skipped.
section Steps

variable {scope : Scope} (written : scope.verbose = false)
include written

theorem takeItems_lineStart (n : Nat) (items : List Node) (cs : List Char) :
    takeItems (n + 1) scope items ('^' :: cs) =
      takeItems n scope (.anchor .lineStart :: items) cs := by
  simp [takeItems, skip, written]

theorem takeItems_lineEnd (n : Nat) (items : List Node) :
    takeItems (n + 2) scope items ['$'] =
      some ((Node.anchor .lineEnd :: items).reverse, scope, []) := by
  simp [takeItems, skip, written]

theorem takeItems_atSign (n : Nat) (items : List Node) (cs : List Char) :
    takeItems (n + 1) scope items ('@' :: cs) =
      takeItems n scope (.literal ⟨'@', false⟩ :: items) cs := by
  simp [takeItems, skip, written]

theorem takeItems_point (n : Nat) (items : List Node) (cs : List Char) :
    takeItems (n + 1) scope items ('\\' :: '.' :: cs) =
      takeItems n scope (.literal ⟨'.', false⟩ :: items) cs := by
  have escape : takeEscape false ('.' :: cs) = some (.literal ⟨'.', false⟩, cs) := rfl
  simp [takeItems, skip, written, escape, Primitive.node]

theorem takeItems_bracket {cs rest : List Char} {s : SetNode}
    (opened : Opens cs s rest) (n : Nat) (items : List Node) :
    takeItems (n + 1) scope items ('[' :: cs) = takeItems n scope (.set s :: items) rest := by
  rw [Opens] at opened
  simp [takeItems, skip, written, opened]

theorem takeItems_plus {c : Char} (other : c ≠ '?') (n : Nat) (s : SetNode) (items : List Node)
    (cs : List Char) :
    takeItems (n + 1) scope (.set s :: items) ('+' :: c :: cs) =
      takeItems n scope (.repetition 1 none (.set s) :: items) (c :: cs) := by
  simp [takeItems, skip, written, repeatLast, other]

theorem takeItems_bounds {cs rest : List Char} {least : Nat} {most : Option Nat} {c : Char}
    (bounds : takeBounds false cs = some (least, most, c :: rest)) (other : c ≠ '?') (n : Nat)
    (s : SetNode) (items : List Node) :
    takeItems (n + 1) scope (.set s :: items) ('\x7b' :: cs) =
      takeItems n scope (.repetition least most (.set s) :: items) (c :: rest) := by
  simp [takeItems, skip, written, bounds, repeatLast, other]

end Steps

theorem readNode?_of_items {text : List Char} {items : List Node} {scope : Scope}
    (read : takeItems (2 * text.length + 1) ⟨false, []⟩ [] text = some (items, scope, []))
    (shallow : (Node.alternation [.sequence items]).depth ≤ 250) :
    readNode? text = some (.alternation [.sequence items]) := by
  simp [readNode?, takeBranches, read, shallow]

end FieldRules.Pattern
