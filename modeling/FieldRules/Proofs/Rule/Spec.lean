import FieldRules.Proofs.Text.Split
import FieldRules.Proofs.Traversal
import FieldRules.Rule.Spec

set_option autoImplicit false

namespace FieldRules

theorem Rule.ofToken_eq_ok_iff (token : String) (rule : Rule) :
    Rule.ofToken token = .ok rule ↔ Rule.ofToken? token = some rule := by
  cases read : Rule.ofToken? token <;> simp [Rule.ofToken, read]

theorem Rule.ofToken_eq_error_iff (token : String) (e : UnknownRule) :
    Rule.ofToken token = .error e ↔ Rule.ofToken? token = none ∧ e = ⟨token⟩ := by
  cases read : Rule.ofToken? token <;> simp [Rule.ofToken, read, eq_comm]

def rulesBeforeError (tokens : List String) : List Rule :=
  (tokens.takeWhile fun token => (Rule.ofToken? token).isSome).filterMap Rule.ofToken?

theorem rulesBeforeError_cons_of_ok {token : String} {rule : Rule}
    (read : Rule.ofToken token = .ok rule) (tokens : List String) :
    rulesBeforeError (token :: tokens) = rule :: rulesBeforeError tokens := by
  simp [rulesBeforeError, (Rule.ofToken_eq_ok_iff token rule).1 read]

theorem rulesBeforeError_cons_of_error {token : String} {e : UnknownRule}
    (refused : Rule.ofToken token = .error e) (tokens : List String) :
    rulesBeforeError (token :: tokens) = [] := by
  simp [rulesBeforeError, ((Rule.ofToken_eq_error_iff token e).1 refused).1]

theorem mapM_ofToken_eq_readRules (tokens : List String) :
    tokens.mapM Rule.ofToken =
      match readRules tokens with
      | (rules, none) => .ok rules
      | (_, some token) => .error ⟨token⟩ := by
  induction tokens with
  | nil => rfl
  | cons token tokens ih =>
    cases read : Rule.ofToken? token with
    | none => simp [readRules, Rule.ofToken, read, bind, Except.bind]
    | some rule =>
      rw [List.mapM_cons, ih]
      obtain ⟨rules, stop, rest⟩ : ∃ rules stop, readRules tokens = (rules, stop) := ⟨_, _, rfl⟩
      cases stop <;>
        simp [readRules, Rule.ofToken, read, rest, bind, Except.bind, pure, Except.pure]

def Rule.Writes (kind : Kind) (token : String) : Prop :=
  ∃ rule, Rule.ofToken token = .ok rule ∧ rule.kind = kind

theorem Rule.Writes.unique {kind other : Kind} {token : String} (writes : Rule.Writes kind token)
    (writes' : Rule.Writes other token) : kind = other := by
  obtain ⟨rule, read, rfl⟩ := writes
  obtain ⟨rule', read', rfl⟩ := writes'
  rw [read] at read'
  cases read'
  rfl

namespace RuleSpec

theorem tokens_piped_intercalate {tokens : List String}
    (free : ∀ token ∈ tokens, '|' ∉ token.toList) :
    (piped ("|".intercalate tokens)).tokens = (list tokens).tokens := by
  cases tokens with
  | nil => rfl
  | cons token rest =>
    have pieces : ∀ piece ∈ (token :: rest).map String.toList, '|' ∉ piece := by
      intro piece member
      obtain ⟨origin, among, rfl⟩ := List.mem_map.1 member
      exact free origin among
    have cut : splitAt '|' ("|".intercalate (token :: rest)).toList =
        (token :: rest).map String.toList := by
      rw [String.toList_intercalate]
      exact splitAt_intercalate (by simp) pieces
    have restored : ((token :: rest).map String.toList).map String.ofList = token :: rest := by
      simp [Function.comp_def]
    rw [RuleSpec.tokens, RuleSpec.tokens, cut, restored]

theorem bar_not_mem_of_mem_tokens {text token : String} (member : token ∈ (piped text).tokens) :
    '|' ∉ token.toList := by
  obtain ⟨piece, among, rfl⟩ := List.mem_map.1 (List.mem_of_mem_filter member)
  rw [String.toList_ofList]
  exact not_mem_of_mem_splitAt among

theorem ne_empty_of_mem_tokens {spec : RuleSpec} {token : String}
    (member : token ∈ spec.tokens) : token ≠ "" := by
  cases spec <;> exact of_decide_eq_true (List.mem_filter.1 member).2

theorem tokens_list_tokens (spec : RuleSpec) : (list spec.tokens).tokens = spec.tokens := by
  apply List.filter_eq_self.2
  intro token member
  exact decide_eq_true (ne_empty_of_mem_tokens member)

theorem rules_eq_mapM (spec : RuleSpec) : spec.rules = spec.tokens.mapM Rule.ofToken :=
  (mapM_ofToken_eq_readRules spec.tokens).symm

theorem rules_congr {spec other : RuleSpec} (same : spec.tokens = other.tokens) :
    spec.rules = other.rules := by
  rw [rules_eq_mapM, rules_eq_mapM, same]

theorem rules_eq_error_iff (spec : RuleSpec) (e : UnknownRule) :
    spec.rules = .error e ↔ FirstError Rule.ofToken spec.tokens e := by
  rw [rules_eq_mapM, mapM_eq_error_iff]

-- The token may stand anywhere, also behind one that writes no rule.
def Names (spec : RuleSpec) (kind : Kind) : Prop :=
  ∃ token ∈ spec.tokens, ∃ rule, Rule.ofToken token = .ok rule ∧ rule.kind = kind

theorem contains_iff (spec : RuleSpec) (kind : Kind) :
    spec.contains kind = true ↔ spec.Names kind := by
  simp only [contains, Names, List.any_eq_true, List.mem_filterMap, Rule.ofToken_eq_ok_iff,
    decide_eq_true_eq]
  constructor
  next =>
    rintro ⟨rule, ⟨token, member, read⟩, same⟩
    exact ⟨token, member, rule, read, same⟩
  next =>
    rintro ⟨token, member, rule, read, same⟩
    exact ⟨rule, ⟨token, member, read⟩, same⟩

instance (spec : RuleSpec) (kind : Kind) : Decidable (spec.Names kind) :=
  decidable_of_iff _ (contains_iff spec kind)

end RuleSpec

end FieldRules
