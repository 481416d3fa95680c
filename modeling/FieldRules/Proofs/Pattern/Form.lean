import FieldRules.Pattern.Reading
import FieldRules.Proofs.Pattern.Term

set_option autoImplicit false

namespace FieldRules.Pattern

open Relation

-- The text is read as a pattern, and the pattern worked out to the expression.
def Denotes (text : String) (e : Expr) : Prop :=
  ∃ node t flags, readNode? text.toList = some node ∧ node.term? {} = some (t, flags) ∧ t.expr = e

theorem ofText?_of_node {text : List Char} {node : Node} {t : Term} {flags : Flags} {e : Expr}
    (read : readNode? text = some node) (meant : node.term? {} = some (t, flags))
    (cheap : t.cost ≤ costLimit) (same : t.expr = e) : ofText? text = some ⟨e⟩ := by
  simp [ofText?, read, meant, cheap, same]

theorem denotes_of_ofText? {text : String} {p : Pattern} (read : ofText? text.toList = some p) :
    Denotes text p.expr := by
  simp only [ofText?, bind, Option.bind_eq_some_iff] at read
  obtain ⟨node, parsed, ⟨t, flags⟩, meant, read⟩ := read
  dsimp only at read
  split at read
  · obtain rfl := Option.some.inj read
    exact ⟨node, t, flags, parsed, meant, rfl⟩
  · contradiction

-- Every match of the text behind the spot is replaced, one after the other from the left. Each
-- begins where the first one can and is as long as it can be.
inductive Replaced (R : Spot → Spot → Prop) (fill : List Char → List Char) :
    Spot → List Char → Prop
  | none {p : Spot} (free : ∀ q r, p.Reaches q → ¬ R q r) : Replaced R fill p p.rest
  | next {p q r : Spot} {front word out : List Char} (skipped : p.Reads front q)
      (first : ∀ q' r', p.Reaches q' → R q' r' → q.Reaches q') (found : R q r)
      (longest : ∀ r', R q r' → r'.Reaches r) (read : q.Reads word r)
      (later : Replaced R fill r out) : Replaced R fill p (front ++ (fill word ++ out))

variable {R : Spot → Spot → Prop} {fill : List Char → List Char} {p : Spot} {out : List Char}

theorem Replaced.unique {out' : List Char} (left : Replaced R fill p out)
    (right : Replaced R fill p out') : out = out' := by
  induction left generalizing out' with
  | none free =>
    cases right with
    | none => rfl
    | next skipped first found => exact absurd found (free _ _ ⟨_, skipped⟩)
  | next skipped first found longest read later ih =>
    cases right with
    | none free => exact absurd found (free _ _ ⟨_, skipped⟩)
    | next skipped' first' found' longest' read' later' =>
      obtain rfl := (first _ _ ⟨_, skipped'⟩ found').antisymm (first' _ _ ⟨_, skipped⟩ found)
      obtain rfl := (longest _ found').antisymm (longest' _ found)
      rw [skipped.unique skipped', read.unique read', ih later']

theorem Replaced.cons {before : Option Char} {c : Char} {rest : List Char}
    (none : ∀ r, ¬ R ⟨before, c :: rest⟩ r) (later : Replaced R fill ⟨some c, rest⟩ out) :
    Replaced R fill ⟨before, c :: rest⟩ (c :: out) := by
  have behind {q r : Spot} (reach : (Spot.mk before (c :: rest)).Reaches q) (found : R q r) :
      (Spot.mk (some c) rest).Reaches q := by
    rcases Spot.reaches_cons_iff.1 reach with rfl | reach
    · exact absurd found (none r)
    · exact reach
  cases later with
  | none free => exact .none fun q r reach found => free q r (behind reach found) found
  | next skipped first found longest read later =>
    exact .next (.cons skipped) (fun q' r' reach found => first q' r' (behind reach found) found)
      found longest read later

end FieldRules.Pattern
