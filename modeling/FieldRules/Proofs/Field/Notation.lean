import FieldRules.Field.Validation
import FieldRules.Proofs.Rule.Spec

set_option autoImplicit false

namespace FieldRules

namespace FieldSpec

def withRules (field : FieldSpec) (rules : RuleSpec) : FieldSpec := { field with rules }

theorem validate_withRules_congr (now : Moment) (field : FieldSpec) (settings : Settings)
    {spec other : RuleSpec} (same : spec.tokens = other.tokens) :
    (field.withRules spec).validate now settings =
      (field.withRules other).validate now settings := by
  simp only [validate, withRules, RuleSpec.contains, same]
  rfl

end FieldSpec

namespace RuleSpec

structure Interchangeable (spec other : RuleSpec) : Prop where
  tokens : spec.tokens = other.tokens
  rules : spec.rules = other.rules
  contains : ∀ kind, spec.contains kind = other.contains kind
  isEmpty : spec.isEmpty = other.isEmpty
  validate : ∀ (now : Moment) (field : FieldSpec) (settings : Settings),
    (field.withRules spec).validate now settings = (field.withRules other).validate now settings

theorem interchangeable_of_tokens_eq {spec other : RuleSpec} (same : spec.tokens = other.tokens) :
    Interchangeable spec other where
  tokens := same
  rules := rules_congr same
  contains := by
    intro kind
    rw [RuleSpec.contains, RuleSpec.contains, same]
  isEmpty := by rw [RuleSpec.isEmpty, RuleSpec.isEmpty, same]
  validate := by
    intro now field settings
    exact field.validate_withRules_congr now settings same

theorem piped_interchangeable_list :
    (∀ tokens : List String, (∀ token ∈ tokens, '|' ∉ token.toList) →
      Interchangeable (piped ("|".intercalate tokens)) (list tokens)) ∧
    ∀ text : String, Interchangeable (piped text) (list (piped text).tokens) := by
  constructor
  next =>
    intro tokens free
    exact interchangeable_of_tokens_eq (tokens_piped_intercalate free)
  next =>
    intro text
    exact interchangeable_of_tokens_eq (tokens_list_tokens (piped text)).symm

theorem piped_interchangeable_list_of_empty_tokens :
    let tokens := ["", "min:3", "", "", "bogus:1", "nullable", ""]
    (∀ token ∈ tokens, '|' ∉ token.toList) ∧
      "|".intercalate tokens = "|min:3|||bogus:1|nullable|" ∧
      (piped "|min:3|||bogus:1|nullable|").tokens = ["min:3", "bogus:1", "nullable"] ∧
      (piped "|min:3|||bogus:1|nullable|").rules = .error ⟨"bogus:1"⟩ ∧
      (piped "|min:3|||bogus:1|nullable|").contains .nullable = true := by
  intro tokens
  have free : ∀ token ∈ tokens, '|' ∉ token.toList := by decide
  have text : "|".intercalate tokens = "|min:3|||bogus:1|nullable|" := by decide
  have same := piped_interchangeable_list.1 tokens free
  rw [text] at same
  refine ⟨free, text, ?_, ?_, ?_⟩
  · rw [same.tokens]
    decide
  · rw [same.rules]
    rfl
  · rw [same.contains]
    decide

end RuleSpec

end FieldRules
