import FieldRules.Proofs.Rule.Token

set_option autoImplicit false

namespace FieldRules.RuleSpec

theorem exists_rules_iff (spec : RuleSpec) :
    (∃ rules, spec.rules = .ok rules) ↔
      ∀ token ∈ spec.tokens, ∃ rule, Rule.ofToken token = .ok rule := by
  rw [rules_eq_mapM, exists_mapM_eq_ok_iff]

theorem rules_eq_ok_iff (spec : RuleSpec) (rules : List Rule) :
    spec.rules = .ok rules ↔ List.Forall₂ Rule.Spelling spec.tokens rules := by
  rw [rules_eq_mapM, mapM_eq_ok_iff]
  simp only [Rule.ofToken_eq_ok_iff_spelling]

theorem rules_eq_error_iff_split (spec : RuleSpec) (e : UnknownRule) :
    spec.rules = .error e ↔
      ∃ before after, spec.tokens = before ++ e.token :: after ∧
        (∀ token ∈ before, ∃ rule, Rule.ofToken token = .ok rule) ∧
        Rule.ofToken e.token = .error e := by
  rw [rules_eq_error_iff]
  constructor
  next =>
    rintro ⟨before, token, after, split, earlier, refused⟩
    obtain ⟨-, rfl⟩ := (Rule.ofToken_eq_error_iff token e).1 refused
    exact ⟨before, after, split, earlier, refused⟩
  next =>
    rintro ⟨before, after, split, earlier, refused⟩
    exact ⟨before, e.token, after, split, earlier, refused⟩

theorem map_token_of_spellings {tokens : List String} {rules : List Rule}
    (spellings : List.Forall₂ Rule.Spelling tokens rules) : rules.map Rule.token = tokens := by
  induction spellings with
  | nil => rfl
  | cons spelling _ ih => rw [List.map_cons, spelling.token_eq, ih]

theorem tokens_piped_of_tokens (text : String) :
    (piped ("|".intercalate (piped text).tokens)).tokens = (piped text).tokens := by
  rw [tokens_piped_intercalate fun token => bar_not_mem_of_mem_tokens, tokens_list_tokens]

theorem rules_restore_tokens (spec : RuleSpec) :
    ((∃ rules, spec.rules = .ok rules) ↔
      ∀ token ∈ spec.tokens, ∃ rule, Rule.ofToken token = .ok rule) ∧
    (∀ rules, spec.rules = .ok rules →
      rules.map Rule.token = spec.tokens ∧
      (list (rules.map Rule.token)).rules = .ok rules ∧
      (∀ text, spec = piped text →
        (piped ("|".intercalate (rules.map Rule.token))).rules = .ok rules) ∧
      List.Forall₂ Rule.Spelling spec.tokens rules) ∧
    (∀ e, spec.rules = .error e ↔
      ∃ before after, spec.tokens = before ++ e.token :: after ∧
        (∀ token ∈ before, ∃ rule, Rule.ofToken token = .ok rule) ∧
        Rule.ofToken e.token = .error e) ∧
    ∀ token other rule, Rule.ofToken token = .ok rule → Rule.ofToken other = .ok rule →
      token = other := by
  refine ⟨exists_rules_iff spec, fun rules read => ?_, rules_eq_error_iff_split spec,
    fun token other rule read read' => ?_⟩
  · have spellings := (rules_eq_ok_iff spec rules).1 read
    have printed := map_token_of_spellings spellings
    refine ⟨printed, ?_, fun text given => ?_, spellings⟩
    · rw [printed, rules_congr (tokens_list_tokens spec), read]
    · subst given
      rw [printed, rules_congr (tokens_piped_of_tokens text), read]
  · have spelling := (Rule.ofToken_eq_ok_iff_spelling token rule).1 read
    have spelling' := (Rule.ofToken_eq_ok_iff_spelling other rule).1 read'
    exact spelling.token_eq.symm.trans spelling'.token_eq

theorem rules_restore_tokens_of_colons :
    let spec := piped "|required||after:2024-01-01T10:00:00Z|"
    let rules : List Rule := [⟨.required, none⟩, ⟨.after, some "2024-01-01T10:00:00Z"⟩]
    spec.rules = .ok rules ∧
      rules.map Rule.token = ["required", "after:2024-01-01T10:00:00Z"] ∧
      (piped "required|after:2024-01-01T10:00:00Z").rules = .ok rules ∧
      (list ["nullable", "min:", "bogus"]).rules = .error ⟨"min:"⟩ ∧
      Rule.ofToken "min:3" = .ok ⟨.min, some "3"⟩ ∧
      ∀ other, Rule.ofToken other = .ok ⟨.min, some "3"⟩ → "min:3" = other := by
  intro spec rules
  have read : spec.rules = .ok rules := by decide +kernel
  have first : Rule.ofToken "min:3" = .ok ⟨.min, some "3"⟩ := by decide +kernel
  obtain ⟨-, restored, -, single⟩ := rules_restore_tokens spec
  obtain ⟨-, -, refused, -⟩ := rules_restore_tokens (list ["nullable", "min:", "bogus"])
  obtain ⟨printed, -, again, -⟩ := restored rules read
  refine ⟨read, ?_, ?_, (refused ⟨"min:"⟩).2 ⟨["nullable"], ["bogus"], ?_, ?_, ?_⟩, first, ?_⟩
  · rw [printed]
    decide +kernel
  · have joined : "|".intercalate (rules.map Rule.token) =
        "required|after:2024-01-01T10:00:00Z" := by decide +kernel
    exact joined ▸ again _ rfl
  · decide +kernel
  · exact List.forall_mem_singleton.2 ⟨⟨.nullable, none⟩, by decide +kernel⟩
  · decide +kernel
  · exact fun other => single "min:3" other _ first

end FieldRules.RuleSpec
