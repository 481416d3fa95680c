import FieldRules.Number.Power
import FieldRules.Pattern.Term

set_option autoImplicit false

namespace FieldRules

namespace Pattern

structure Place where
  before : Option Char
  behind : Option Char

def isWordIn (unicode : Bool) : Option Char → Bool
  | none => false
  | some c => if unicode then isWord c else c.isAlphanum || c == '_'

namespace Look

def holds (p : Place) : Look → Bool
  | textStart => p.before.isNone
  | textEnd => p.behind.isNone
  | lineStart => p.before.isNone || p.before == some '\n'
  | lineEnd => p.behind.isNone || p.behind == some '\n'
  | crlfStart =>
    p.before.isNone || p.before == some '\n' ||
      (p.before == some '\r' && p.behind != some '\n')
  | crlfEnd =>
    p.behind.isNone || p.behind == some '\r' ||
      (p.behind == some '\n' && p.before != some '\r')
  | boundary u => isWordIn u p.before != isWordIn u p.behind
  | notBoundary u => isWordIn u p.before == isWordIn u p.behind
  | wordStart u => !isWordIn u p.before && isWordIn u p.behind
  | wordEnd u => isWordIn u p.before && !isWordIn u p.behind
  | wordStartHalf u => !isWordIn u p.before
  | wordEndHalf u => !isWordIn u p.behind

end Look

-- A set is marked when it has just matched the last character read. Reading a character moves all
-- marks at once.
inductive Expr where
  | empty
  | look (l : Look)
  | chars (s : CharSet) (marked : Bool)
  | seq (e₁ e₂ : Expr)
  | alt (e₁ e₂ : Expr)
  | star (e : Expr)

namespace Expr

def nullable (p : Place) : Expr → Bool
  | empty => true
  | look l => l.holds p
  | chars _ _ => false
  | seq e₁ e₂ => e₁.nullable p && e₂.nullable p
  | alt e₁ e₂ => e₁.nullable p || e₂.nullable p
  | star _ => true

def final (p : Place) : Expr → Bool
  | empty => false
  | look _ => false
  | chars _ marked => marked
  | seq e₁ e₂ => e₂.final p || (e₁.final p && e₂.nullable p)
  | alt e₁ e₂ => e₁.final p || e₂.final p
  | star e => e.final p

def shift (p : Place) (c : Char) : Expr → Bool → Expr
  | empty, _ => empty
  | look l, _ => look l
  | chars s _, entered => chars s (entered && s.contains c)
  | seq e₁ e₂, entered =>
    seq (e₁.shift p c entered) (e₂.shift p c ((entered && e₁.nullable p) || e₁.final p))
  | alt e₁ e₂, entered => alt (e₁.shift p c entered) (e₂.shift p c entered)
  | star e, entered => star (e.shift p c (entered || e.final p))

def times (e : Expr) (n : Nat) : Expr :=
  -- Halved again and again, so that the copies nest little.
  if n = 0 then empty
  else if n = 1 then e
  else seq (times e (n / 2)) (times e (n - n / 2))

def search (e : Expr) (before : Option Char) : List Char → Bool
  | [] => e.nullable ⟨before, none⟩ || e.final ⟨before, none⟩
  | c :: cs =>
    let p : Place := ⟨before, some c⟩
    e.nullable p || e.final p || search (e.shift p c true) (some c) cs

end Expr

mutual

def Term.expr : Term → Expr
  | .empty => .empty
  | .chars s => .chars s false
  | .look l => .look l
  | .capture body => body.expr
  | .sequence items => sequenceExpr items
  | .alternation branches => alternationExpr branches
  | .repetition least none body => .seq (body.expr.times least) body.expr.star
  | .repetition least (some most) body =>
    .seq (body.expr.times least) ((Expr.alt .empty body.expr).times (most - least))

def sequenceExpr : List Term → Expr
  | [] => .empty
  | [t] => t.expr
  | t :: ts => .seq t.expr (sequenceExpr ts)

def alternationExpr : List Term → Expr
  | [] => .chars .empty false
  | [t] => t.expr
  | t :: ts => .alt t.expr (alternationExpr ts)

end

def stateSize : Nat := 32

def setCost (s : CharSet) : Nat :=
  -- Beyond ASCII a range takes about two states, and a set with no upper end takes some more.
  match s.ranges with
  | [(lo, hi)] =>
    if lo = hi then stateSize * (Char.ofNat lo).utf8Size else 2 * stateSize + 8 + openEnd
  | ranges => if s.isAscii then 2 * stateSize + 8 * ranges.length
      else 2 * stateSize * (ranges.length + 1) + openEnd
where
  openEnd : Nat := if s.ranges.any (·.2 == 0x10FFFF) then 25 * stateSize else 0

def Term.cost : Term → Nat
  | .empty => stateSize
  | .chars s => setCost s
  | .look _ => stateSize
  | .capture body => body.cost + 2 * stateSize
  | .sequence items => costs items
  | .alternation branches => costs branches + 2 * stateSize
  | .repetition least none body => Nat.max least 1 * body.cost + stateSize + 8
  | .repetition least (some most) body =>
    least * body.cost + (most - least) * (body.cost + stateSize + 8) + stateSize
where
  costs : List Term → Nat
    | [] => 0
    | t :: ts => t.cost + costs ts

def costLimit : Nat := 10 * 2 ^ 20

end Pattern

structure Pattern where
  expr : Pattern.Expr

namespace Pattern

def ofText? (text : List Char) : Option Pattern := do
  let (term, _) ← (← readNode? text).term? {}
  if term.cost ≤ costLimit then some ⟨term.expr⟩ else none

def occursIn (p : Pattern) (text : List Char) : Bool := p.expr.search none text

end Pattern

end FieldRules
