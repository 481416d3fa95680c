import FieldRules.Proofs.Field.Validation

set_option autoImplicit false

namespace FieldRules

def FieldResult.verdict (r : FieldResult) : Bool × List Kind := (r.valid, r.failedRules)

namespace FieldSpec

-- The two may have different templates of their own.
structure SameInput (field other : FieldSpec) : Prop where
  data : field.data = other.data
  key : field.key = other.key
  rules : field.rules = other.rules

theorem SameInput.exists_message {field other : FieldSpec} (same : SameInput field other) :
    ∃ message, other = { field with message } := by
  obtain ⟨data, key, rules, own⟩ := field
  obtain ⟨data', key', rules', message⟩ := other
  cases same with
  | mk data key rules =>
    subst data key rules
    exact ⟨message, rfl⟩

variable (now : Moment) {field other : FieldSpec} {settings settings' : Settings}

theorem checkedRules_of_sameInput (same : SameInput field other) :
    other.checkedRules = field.checkedRules := by
  obtain ⟨message, rfl⟩ := same.exists_message
  rfl

theorem passes_of_sameInput (same : SameInput field other) (rule : Rule) :
    other.Passes now rule ↔ field.Passes now rule := by
  obtain ⟨message, rfl⟩ := same.exists_message
  exact Iff.rfl

theorem validate_eq_error_iff_of_sameInput (same : SameInput field other)
    (policy : settings.policy = settings'.policy) (e : ValidationError) :
    field.validate now settings = .error e ↔ other.validate now settings' = .error e := by
  obtain ⟨message, rfl⟩ := same.exists_message
  rw [validate_eq_error_iff, validate_eq_error_iff, policy]
  exact Iff.rfl

variable {now}

theorem recorded_of_validate {r : FieldResult}
    (validated : field.validate now settings = .ok r) :
    Recorded now field field.checkedRules r := by
  have run := foldl_applyRule_recorded now field settings (passed_recorded now field)
    field.checkedRules
  rw [List.nil_append] at run
  rw [eq_finish_of_validate now field settings validated]
  exact { key := run.key, valid := run.valid, failed := run.failed }

theorem Recorded.verdict_eq {rules : List Rule} {r s : FieldResult}
    (recorded : Recorded now field rules r) (recorded' : Recorded now other rules s)
    (agree : ∀ rule ∈ rules, (field.Passes now rule ↔ other.Passes now rule)) :
    r.verdict = s.verdict := by
  have valid : r.valid = s.valid := by
    rw [Bool.eq_iff_iff, recorded.valid, recorded'.valid]
    exact forall₂_congr agree
  have failed : r.failedRules = s.failedRules := by
    apply SortedMap.keys_ext
    intro kind
    rw [recorded.failed, recorded'.failed]
    refine exists_congr fun rule => and_congr_right fun member => ?_
    rw [agree rule member]
  rw [FieldResult.verdict, FieldResult.verdict, valid, failed]

variable (now)

theorem validate_alike_of_sameInput (same : SameInput field other)
    (policy : settings.policy = settings'.policy) :
    Alike (fun r s : FieldResult => r.verdict = s.verdict) (field.validate now settings)
      (other.validate now settings') := by
  have errors := validate_eq_error_iff_of_sameInput now same policy
  cases left : field.validate now settings with
  | error d =>
    rw [(errors d).1 left]
    rfl
  | ok r =>
    cases right : other.validate now settings' with
    | error e =>
      rw [(errors e).2 right] at left
      simp at left
    | ok s =>
      have recorded' := recorded_of_validate right
      rw [checkedRules_of_sameInput same] at recorded'
      exact (recorded_of_validate left).verdict_eq recorded' fun rule _ =>
        (passes_of_sameInput now same rule).symm

end FieldSpec

end FieldRules
