import FieldRules.Proofs.Field.Notation
import FieldRules.Proofs.Field.Validation

set_option autoImplicit false

namespace FieldRules

namespace RuleSpec

theorem names_iff_of_inserted {spec other : RuleSpec} {kind added : Kind}
    (inserted : Inserted (Rule.Writes added) spec.tokens other.tokens) (different : kind ≠ added) :
    other.Names kind ↔ spec.Names kind := by
  constructor
  next =>
    rintro ⟨token, member, writes⟩
    rcases inserted.mem_or member with member | writes'
    · exact ⟨token, member, writes⟩
    · exact absurd (Rule.Writes.unique writes writes') different
  next =>
    rintro ⟨token, member, writes⟩
    exact ⟨token, inserted.subset member, writes⟩

end RuleSpec

namespace FieldSpec

variable (now : Moment) (field : FieldSpec) (settings : Settings)

theorem passes_of_nullable {rule : Rule} (nullable : rule.kind = .nullable) :
    field.Passes now rule := by
  rw [Passes, nullable]
  rfl

theorem takeTokens_cons_of_nullable {token : String} (nullable : Rule.Writes .nullable token)
    (r : FieldResult) (tokens : List String) :
    field.takeTokens now settings r (token :: tokens) =
      field.takeTokens now settings r tokens := by
  obtain ⟨rule, read, kind⟩ := nullable
  have passes := field.passes_of_nullable now kind
  simp only [takeTokens, read, applyRule_of_passes now field settings r rule passes]

theorem takeTokens_of_inserted {tokens more : List String}
    (inserted : Inserted (Rule.Writes .nullable) tokens more) (r : FieldResult) :
    field.takeTokens now settings r more = field.takeTokens now settings r tokens := by
  induction inserted generalizing r with
  | nil => rfl
  | keep token _ ih =>
    cases read : Rule.ofToken token with
    | ok rule => simp only [takeTokens, read, ih]
    | error e => cases policy : settings.policy <;> simp only [takeTokens, read, policy]
  | put nullable _ ih => rw [takeTokens_cons_of_nullable now field settings nullable, ih]

theorem takeTokens_withRules (spec : RuleSpec) (r : FieldResult) (tokens : List String) :
    (field.withRules spec).takeTokens now settings r tokens =
      field.takeTokens now settings r tokens := by
  have sameStep :
      (field.withRules spec).applyRule now settings = field.applyRule now settings := rfl
  induction tokens generalizing r with
  | nil => rfl
  | cons token tokens ih =>
    rw [takeTokens, takeTokens, sameStep]
    simp only [ih]
    rfl

theorem validate_of_inserted_nullable {field : FieldSpec} {spec : RuleSpec}
    (unnamed : ¬ field.rules.Names .nullable ∧ ¬ field.rules.Names .required)
    (inserted : Inserted (Rule.Writes .nullable) field.rules.tokens spec.tokens) :
    (field.data.value.isEmpty = false →
      (field.withRules spec).validate now settings = field.validate now settings) ∧
    (field.data.value.isEmpty = true → field.rules.tokens ≠ spec.tokens →
      ∃ r, (field.withRules spec).validate now settings = .ok r ∧ r.key = field.key ∧
        r.valid = true ∧ r.message = .empty ∧
        r.data = if settings.showData then some field.data else none) := by
  have required : ¬ spec.Names .required :=
    mt (RuleSpec.names_iff_of_inserted inserted (by decide)).1 unnamed.2
  have compatible : ¬ (field.withRules spec).Conflicting := fun conflict => required conflict.2
  constructor
  next =>
    intro filled
    have present : ¬ field.Absent := fun absent => unnamed.1 absent.1
    have present' : ¬ (field.withRules spec).Absent := fun absent => by
      have empty : field.data.value.isEmpty = true := ((field.withRules spec).absent_iff.1 absent).2
      simp [filled] at empty
    rw [validate_of_present now _ settings compatible present',
      validate_of_present now _ settings (fun conflict => unnamed.1 conflict.1) present,
      takeTokens_withRules]
    exact congrArg _ (takeTokens_of_inserted now field settings inserted _)
  next =>
    intro empty more
    have nullable : spec.Names .nullable := inserted.eq_or_exists.resolve_left more
    have absent : (field.withRules spec).Absent := (absent_iff _).2 ⟨nullable, empty⟩
    exact ⟨_, validate_of_absent now _ settings compatible absent, rfl, rfl, rfl, rfl⟩

theorem validate_of_inserted_nullable_of_malformed_token :
    let field : FieldSpec :=
      { data := ⟨.text "x", trivial⟩, key := "pin", rules := .piped "number|bogus|string" }
    let empty : FieldSpec := { field with data := .null }
    let spec : RuleSpec := .list ["number", "nullable", "bogus", "nullable:yes", "string"]
    (¬ field.rules.Names .nullable ∧ ¬ field.rules.Names .required) ∧
      Inserted (Rule.Writes .nullable) field.rules.tokens spec.tokens ∧
      (field.withRules spec).validate (.midnight 0) { policy := .reject } =
        .error (.malformedRule "pin" "bogus") ∧
      (∃ r, (field.withRules spec).validate (.midnight 0) {} = .ok r ∧ r.valid = false) ∧
      empty.validate (.midnight 0) { policy := .reject } = .error (.malformedRule "pin" "bogus") ∧
      ∃ r, (empty.withRules spec).validate (.midnight 0) { policy := .reject } = .ok r ∧
        r.valid = true := by
  intro field empty spec
  have unnamed : ¬ field.rules.Names .nullable ∧ ¬ field.rules.Names .required := by decide
  have bare : Rule.Writes .nullable "nullable" := ⟨⟨.nullable, none⟩, by rfl, rfl⟩
  have withParam : Rule.Writes .nullable "nullable:yes" := ⟨⟨.nullable, some "yes"⟩, by rfl, rfl⟩
  have inserted : Inserted (Rule.Writes .nullable) field.rules.tokens spec.tokens :=
    (by decide : field.rules.tokens = ["number", "bogus", "string"]) ▸
      (by decide : spec.tokens = ["number", "nullable", "bogus", "nullable:yes", "string"]) ▸
        .keep _ (.put bare (.keep _ (.put withParam (.keep _ .nil))))
  have strict := validate_of_inserted_nullable (.midnight 0) { policy := .reject } unnamed inserted
  have lenient := validate_of_inserted_nullable (.midnight 0) {} unnamed inserted
  have unnamed' : ¬ empty.rules.Names .nullable ∧ ¬ empty.rules.Names .required := unnamed
  have nothing :=
    validate_of_inserted_nullable (.midnight 0) { policy := .reject } unnamed' inserted
  refine ⟨unnamed, inserted, ?_, ⟨_, (lenient.1 rfl).trans rfl, rfl⟩, rfl, ?_⟩
  · exact (strict.1 rfl).trans rfl
  · obtain ⟨r, validated, -, valid, -⟩ := nothing.2 rfl (by decide)
    exact ⟨r, validated, valid⟩

end FieldSpec

end FieldRules
