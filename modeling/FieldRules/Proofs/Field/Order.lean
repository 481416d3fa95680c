import FieldRules.Proofs.Field.Notation
import FieldRules.Proofs.Field.Verdict
import Mathlib.Data.List.TakeWhile

set_option autoImplicit false

namespace FieldRules

def Rule.kindOf? (token : String) : Option Kind := (Rule.ofToken? token).map Rule.kind

-- For every kind the tokens that write a rule of it are the same, one after another.
def SameOrder (tokens others : List String) : Prop :=
  ∀ kind, tokens.filter (fun token => Rule.kindOf? token = some kind) =
    others.filter (fun token => Rule.kindOf? token = some kind)

theorem filter_kind_rules (tokens : List String) (kind : Kind) :
    (tokens.filterMap Rule.ofToken?).filter (·.kind = kind) =
      (tokens.filter fun token => Rule.kindOf? token = some kind).filterMap Rule.ofToken? := by
  apply filter_filterMap
  intro token rule read
  simp [Rule.kindOf?, read]

namespace RuleSpec

def Readable (spec : RuleSpec) : Prop :=
  ∀ token ∈ spec.tokens, ∃ rule, Rule.ofToken token = .ok rule

theorem Readable.of_perm {spec other : RuleSpec} (readable : spec.Readable)
    (perm : spec.tokens.Perm other.tokens) : other.Readable := by
  intro token member
  exact readable token (perm.mem_iff.2 member)

theorem Readable.rulesBeforeError_eq {spec : RuleSpec} (readable : spec.Readable) :
    rulesBeforeError spec.tokens = spec.tokens.filterMap Rule.ofToken? := by
  have all : (spec.tokens.takeWhile fun token => (Rule.ofToken? token).isSome) = spec.tokens := by
    apply List.takeWhile_eq_self_iff.2
    intro token member
    obtain ⟨rule, read⟩ := readable token member
    simp [(Rule.ofToken_eq_ok_iff token rule).1 read]
  rw [rulesBeforeError, all]

theorem names_iff_of_perm {spec other : RuleSpec} (perm : spec.tokens.Perm other.tokens)
    (kind : Kind) : spec.Names kind ↔ other.Names kind := by
  simp only [Names, perm.mem_iff]

end RuleSpec

namespace FieldSpec

variable (now : Moment) {field : FieldSpec} {spec : RuleSpec} (settings : Settings)

theorem conflicting_iff_of_perm (perm : field.rules.tokens.Perm spec.tokens) :
    field.Conflicting ↔ (field.withRules spec).Conflicting := by
  rw [Conflicting, RuleSpec.names_iff_of_perm perm, RuleSpec.names_iff_of_perm perm]
  exact Iff.rfl

theorem absent_iff_of_perm (perm : field.rules.tokens.Perm spec.tokens) :
    field.Absent ↔ (field.withRules spec).Absent := by
  rw [Absent, RuleSpec.names_iff_of_perm perm]
  exact Iff.rfl

theorem checkedRules_withRules (readable : spec.Readable)
    (perm : field.rules.tokens.Perm spec.tokens) :
    (field.withRules spec).checkedRules =
      if field.Absent then [] else spec.tokens.filterMap Rule.ofToken? := by
  simp only [checkedRules, absent_iff_of_perm perm, withRules, readable.rulesBeforeError_eq]

theorem checkedRules_of_readable (readable : field.rules.Readable) :
    field.checkedRules = if field.Absent then [] else field.rules.tokens.filterMap Rule.ofToken? :=
  checkedRules_withRules readable (.refl _)

theorem exists_validate_of_readable
    (readable : field.rules.Readable) (compatible : ¬ field.Conflicting) :
    ∃ r, field.validate now settings = .ok r := by
  apply (exists_validate_eq_ok_iff now field settings).2
  refine ⟨compatible, ?_⟩
  rintro ⟨-, ⟨token, malformed⟩, -⟩
  obtain ⟨before, bad, after, split, -, refused⟩ := (field.rules.rules_eq_error_iff _).1 malformed
  obtain ⟨rule, read⟩ := readable bad (by simp [split])
  simp [read] at refused

theorem eq_result_of_validate {r : FieldResult}
    (validated : field.validate now settings = .ok r) :
    r = field.result settings (field.failures now settings field.checkedRules) := by
  have start : FieldResult.passed field.key = field.tally [] := rfl
  rw [eq_finish_of_validate now field settings validated, start, foldl_applyRule_tally]
  rfl

theorem filter_kind_failures (rules : List Rule) (kind : Kind) :
    (field.failures now settings rules).filter (·.1 = kind) =
      field.failures now settings (rules.filter (·.kind = kind)) := by
  apply filter_filterMap
  intro rule failure told
  obtain ⟨message, -, rfl⟩ := Option.map_eq_some_iff.1 told
  rfl

theorem verdict_result_of_perm {failures others : List (Kind × String)}
    (perm : failures.Perm others) :
    (field.result settings failures).verdict = (field.result settings others).verdict := by
  have failed : (SortedMap.ofList failures).keys = (SortedMap.ofList others).keys := by
    apply SortedMap.keys_ext
    intro kind
    rw [SortedMap.mem_keys_ofList_iff, SortedMap.mem_keys_ofList_iff, (perm.map _).mem_iff]
  simp only [FieldResult.verdict, FieldResult.failedRules, result, perm.isEmpty_eq, failed]

theorem result_congr {failures others : List (Kind × String)} (perm : failures.Perm others)
    (same : ∀ kind, failures.filter (·.1 = kind) = others.filter (·.1 = kind)) :
    field.result settings failures = field.result settings others := by
  simp only [result, perm.isEmpty_eq, SortedMap.ofList_congr same]

theorem failures_checkedRules_perm
    (readable : field.rules.Readable) (perm : field.rules.tokens.Perm spec.tokens) :
    (field.failures now settings field.checkedRules).Perm
      (field.failures now settings (field.withRules spec).checkedRules) := by
  apply List.Perm.filterMap
  rw [checkedRules_of_readable readable, checkedRules_withRules (readable.of_perm perm) perm]
  by_cases absent : field.Absent
  next => simp [absent]
  next =>
    simp only [absent, if_false]
    exact perm.filterMap _

theorem filter_kind_checkedRules
    (readable : field.rules.Readable) (perm : field.rules.tokens.Perm spec.tokens)
    (same : SameOrder field.rules.tokens spec.tokens) (kind : Kind) :
    field.checkedRules.filter (·.kind = kind) =
      (field.withRules spec).checkedRules.filter (·.kind = kind) := by
  rw [checkedRules_of_readable readable, checkedRules_withRules (readable.of_perm perm) perm]
  by_cases absent : field.Absent
  next => simp [absent]
  next =>
    simp only [absent, if_false]
    rw [filter_kind_rules, same kind, ← filter_kind_rules]

theorem verdict_eq_of_perm {r s : FieldResult} (readable : field.rules.Readable)
    (perm : field.rules.tokens.Perm spec.tokens) (left : field.validate now settings = .ok r)
    (right : (field.withRules spec).validate now settings = .ok s) : r.verdict = s.verdict := by
  rw [eq_result_of_validate now settings left, eq_result_of_validate now settings right]
  exact verdict_result_of_perm settings (failures_checkedRules_perm now settings readable perm)

theorem eq_of_sameOrder {r s : FieldResult} (readable : field.rules.Readable)
    (perm : field.rules.tokens.Perm spec.tokens) (same : SameOrder field.rules.tokens spec.tokens)
    (left : field.validate now settings = .ok r)
    (right : (field.withRules spec).validate now settings = .ok s) : r = s := by
  rw [eq_result_of_validate now settings left, eq_result_of_validate now settings right]
  apply result_congr settings (failures_checkedRules_perm now settings readable perm)
  intro kind
  rw [filter_kind_failures, filter_kind_checkedRules readable perm same, ← filter_kind_failures]

-- Where every token writes a rule, their order decides neither whether there is a result nor what
-- its verdict is. It decides nothing at all when tokens of one kind keep their order.
theorem validate_of_reordered_tokens
    (readable : field.rules.Readable) (perm : field.rules.tokens.Perm spec.tokens) :
    (field.validate now settings = .error (.requiredAndNullable field.key) ∧
      (field.withRules spec).validate now settings = .error (.requiredAndNullable field.key)) ∨
    ∃ r s, field.validate now settings = .ok r ∧
      (field.withRules spec).validate now settings = .ok s ∧
      r.valid = s.valid ∧ r.failedRules = s.failedRules ∧
      (SameOrder field.rules.tokens spec.tokens → r = s) := by
  have readable' : (field.withRules spec).rules.Readable := readable.of_perm perm
  by_cases conflict : field.Conflicting
  next =>
    have conflict' := (conflicting_iff_of_perm perm).1 conflict
    exact .inl ⟨validate_of_conflicting now field settings conflict,
      validate_of_conflicting now (field.withRules spec) settings conflict'⟩
  next =>
    have compatible' := mt (conflicting_iff_of_perm perm).2 conflict
    obtain ⟨r, left⟩ := exists_validate_of_readable now settings readable conflict
    obtain ⟨s, right⟩ := exists_validate_of_readable now settings readable' compatible'
    have verdict := verdict_eq_of_perm now settings readable perm left right
    refine .inr ⟨r, s, left, right, congrArg Prod.fst verdict, congrArg Prod.snd verdict, ?_⟩
    intro same
    exact eq_of_sameOrder now settings readable perm same left right

-- The two rules `min` fail in different ways and stay in their order, so the last one is told.
theorem validate_of_reordered_tokens_of_repeated_kind :
    let field : FieldSpec :=
      { data := ⟨.text "x", trivial⟩, key := "pin", rules := .piped "min:5|equalTo|min:x|string" }
    let spec : RuleSpec := .list ["string", "min:5", "min:x", "equalTo"]
    field.rules.Readable ∧ field.rules.tokens.Perm spec.tokens ∧
      SameOrder field.rules.tokens spec.tokens ∧
      ∃ r, field.validate (.midnight 0) {} = .ok r ∧
        (field.withRules spec).validate (.midnight 0) {} = .ok r ∧
        r.valid = false ∧ r.message.get? .min = some "pin is not a number" := by
  intro field spec
  have tokens : field.rules.tokens = ["min:5", "equalTo", "min:x", "string"] := by decide
  have tokens' : spec.tokens = ["string", "min:5", "min:x", "equalTo"] := by decide
  have readable : field.rules.Readable := by
    simp only [RuleSpec.Readable, tokens, List.forall_mem_cons]
    exact ⟨⟨_, rfl⟩, ⟨_, rfl⟩, ⟨_, rfl⟩, ⟨_, rfl⟩, by simp⟩
  have perm : field.rules.tokens.Perm spec.tokens := by
    rw [tokens, tokens']
    decide
  have same : SameOrder field.rules.tokens spec.tokens := by
    have small : Rule.kindOf? "min:5" = some .min := by decide
    have equal : Rule.kindOf? "equalTo" = some .equalTo := by decide
    have least : Rule.kindOf? "min:x" = some .min := by decide
    have text : Rule.kindOf? "string" = some .string := by decide
    intro kind
    rw [tokens, tokens']
    cases kind <;> simp [small, equal, least, text]
  have validated : field.validate (.midnight 0) {} = .ok _ := rfl
  rcases validate_of_reordered_tokens (.midnight 0) {} readable perm with
    ⟨conflict, -⟩ | ⟨r, s, left, right, -, -, full⟩
  · rw [validated] at conflict
    simp at conflict
  · rw [validated] at left
    cases left
    cases full same
    exact ⟨readable, perm, same, _, validated, right, by decide +kernel, by decide +kernel⟩

end FieldSpec

end FieldRules
