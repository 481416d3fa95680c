import FieldRules.Proofs.Field.Run

set_option autoImplicit false

namespace FieldRules

theorem Json.isEmpty_iff (v : Json) :
    v.isEmpty = true ↔ v = .null ∨ v = .text "" ∨ v = .array [] := by
  cases v with
  | array items => cases items <;> simp [isEmpty]
  | _ => simp [isEmpty]

namespace FieldSpec

def Conflicting (field : FieldSpec) : Prop :=
  field.rules.Names .nullable ∧ field.rules.Names .required

instance (field : FieldSpec) : Decidable field.Conflicting :=
  inferInstanceAs (Decidable (_ ∧ _))

def Absent (field : FieldSpec) : Prop :=
  field.rules.Names .nullable ∧
    (field.data.value = .null ∨ field.data.value = .text "" ∨ field.data.value = .array [])

theorem absent_iff (field : FieldSpec) :
    field.Absent ↔ field.rules.Names .nullable ∧ field.data.value.isEmpty = true := by
  rw [Absent, Json.isEmpty_iff]

instance (field : FieldSpec) : Decidable field.Absent :=
  decidable_of_iff _ field.absent_iff.symm

variable (now : Moment) (field : FieldSpec) (settings : Settings)

theorem validate_of_conflicting (conflict : field.Conflicting) :
    field.validate now settings = .error (.requiredAndNullable field.key) := by
  rw [validate_eq_takeTokens, if_pos (by exact conflict)]

theorem validate_of_absent (compatible : ¬ field.Conflicting) (absent : field.Absent) :
    field.validate now settings = .ok (field.finish settings (.passed field.key)) := by
  rw [validate_eq_takeTokens, if_neg (by exact compatible), if_pos (field.absent_iff.1 absent)]

theorem validate_of_present (compatible : ¬ field.Conflicting) (present : ¬ field.Absent) :
    field.validate now settings =
      (field.takeTokens now settings (.passed field.key) field.rules.tokens).map
        (field.finish settings) := by
  rw [validate_eq_takeTokens, if_neg (by exact compatible),
    if_neg (fun absent => present (field.absent_iff.2 absent))]

-- An empty nullable field is not checked at all.
def checkedRules (field : FieldSpec) : List Rule :=
  if field.Absent then [] else rulesBeforeError field.rules.tokens

theorem eq_finish_of_validate {r : FieldResult}
    (validated : field.validate now settings = .ok r) :
    r = field.finish settings
      (field.checkedRules.foldl (field.applyRule now settings) (.passed field.key)) := by
  by_cases conflict : field.Conflicting
  next => simp [validate_of_conflicting now field settings conflict] at validated
  next =>
    by_cases absent : field.Absent
    next =>
      rw [validate_of_absent now field settings conflict absent] at validated
      simpa [checkedRules, absent] using validated.symm
    next =>
      rw [validate_of_present now field settings conflict absent] at validated
      cases ran : field.takeTokens now settings (.passed field.key) field.rules.tokens with
      | error e => simp [ran, Except.map] at validated
      | ok last =>
        rw [ran] at validated
        cases validated
        rw [checkedRules, if_neg absent, eq_foldl_of_takeTokens now field settings ran]

theorem exists_takeTokens_of_skip (lenient : settings.policy = .skip) (r : FieldResult)
    (tokens : List String) : ∃ last, field.takeTokens now settings r tokens = .ok last := by
  cases ran : field.takeTokens now settings r tokens with
  | ok last => exact ⟨last, rfl⟩
  | error e =>
    have strict := ((takeTokens_eq_error_iff now field settings r tokens e).1 ran).1
    simp [lenient] at strict

theorem validate_skip_exact (templates : Option Messages) (showData : Bool)
    (compatible : ¬ field.Conflicting) :
    ∃ r, field.validate now { templates, showData, policy := .skip } = .ok r ∧
      r.key = field.key ∧
      r.data = (if showData then some field.data else none) ∧
      (field.Absent → r.valid = true ∧ r.message = .empty) ∧
      (¬ field.Absent →
        (r.valid = true ↔
          ∀ rule ∈ rulesBeforeError field.rules.tokens, field.Passes now rule) ∧
        ∀ kind, kind ∈ r.message.keys ↔
          ∃ rule ∈ rulesBeforeError field.rules.tokens,
            rule.kind = kind ∧ ¬ field.Passes now rule) := by
  by_cases absent : field.Absent
  next =>
    refine ⟨_, validate_of_absent now field _ compatible absent, rfl, rfl, ?_, ?_⟩
    · exact fun _ => ⟨rfl, rfl⟩
    · exact fun present => absurd absent present
  next =>
    let settings : Settings := { templates, showData, policy := .skip }
    obtain ⟨last, ran⟩ := exists_takeTokens_of_skip now field settings rfl (.passed field.key)
      field.rules.tokens
    have recorded := takeTokens_recorded now field settings (passed_recorded now field) ran
    have validated : field.validate now settings = .ok (field.finish settings last) := by
      rw [validate_of_present now field settings compatible absent, ran]
      rfl
    refine ⟨_, validated, recorded.key, rfl, ?_, ?_⟩
    · exact fun present => absurd present absent
    · exact fun _ => ⟨recorded.valid, recorded.failed⟩

theorem validate_skip_exact_of_malformed_token :
    let field : FieldSpec :=
      { data := ⟨.text "x", trivial⟩, key := "age", rules := .piped "string||min|bogus:1|number" }
    ¬ field.Conflicting ∧
      ∃ r, field.validate (.midnight 0) { showData := true, policy := .skip } = .ok r ∧
        r.data = some field.data ∧ r.valid = false ∧ .min ∈ r.message.keys ∧
        .string ∉ r.message.keys ∧ .number ∉ r.message.keys := by
  intro field
  have compatible : ¬ field.Conflicting := by decide
  have present : ¬ field.Absent := by decide
  obtain ⟨r, validated, -, shown, -, checked⟩ :=
    validate_skip_exact (.midnight 0) field none true compatible
  obtain ⟨valid, failed⟩ := checked present
  refine ⟨compatible, r, validated, shown, ?_, (failed .min).2 (by decide), ?_, ?_⟩
  · exact Bool.eq_false_iff.2 fun all => absurd (valid.1 all) (by decide)
  · exact fun member => absurd ((failed .string).1 member) (by decide)
  · exact fun member => absurd ((failed .number).1 member) (by decide)

theorem validate_eq_error_iff (e : ValidationError) :
    field.validate now settings = .error e ↔
      field.Conflicting ∧ e = .requiredAndNullable field.key ∨
      ¬ field.Conflicting ∧ ¬ field.Absent ∧ settings.policy = .reject ∧
        ∃ token, field.rules.rules = .error ⟨token⟩ ∧ e = .malformedRule field.key token := by
  by_cases conflict : field.Conflicting
  next => simp [validate_of_conflicting now field settings conflict, conflict, eq_comm]
  next =>
    by_cases absent : field.Absent
    next => simp [validate_of_absent now field settings conflict absent, conflict, absent]
    next =>
      simp only [validate_of_present now field settings conflict absent, conflict, absent,
        RuleSpec.rules_eq_error_iff, false_and, false_or, not_false_eq_true, true_and,
        ← takeTokens_eq_error_iff now field settings (.passed field.key)]
      cases field.takeTokens now settings (.passed field.key) field.rules.tokens <;>
        simp [Except.map]

theorem exists_validate_eq_ok_iff :
    (∃ r, field.validate now settings = .ok r) ↔
      ¬ field.Conflicting ∧
        ¬ (settings.policy = .reject ∧ (∃ token, field.rules.rules = .error ⟨token⟩) ∧
          ¬ field.Absent) := by
  have total : (∃ r, field.validate now settings = .ok r) ↔
      ¬ ∃ e, field.validate now settings = .error e := by
    cases field.validate now settings <;> simp
  rw [total]
  simp only [validate_eq_error_iff]
  constructor
  next =>
    refine fun none => ⟨fun conflict => none ⟨_, .inl ⟨conflict, rfl⟩⟩, ?_⟩
    rintro ⟨strict, ⟨token, malformed⟩, present⟩
    by_cases conflict : field.Conflicting
    · exact none ⟨_, .inl ⟨conflict, rfl⟩⟩
    · exact none ⟨_, .inr ⟨conflict, present, strict, token, malformed, rfl⟩⟩
  next =>
    rintro ⟨compatible, accepted⟩ ⟨e, ⟨conflict, -⟩ | ⟨-, present, strict, token, malformed, -⟩⟩
    · exact compatible conflict
    · exact accepted ⟨strict, ⟨token, malformed⟩, present⟩

theorem takeTokens_skip_of_reject {r last : FieldResult} {tokens : List String}
    (ran : field.takeTokens now { settings with policy := .reject } r tokens = .ok last) :
    field.takeTokens now { settings with policy := .skip } r tokens = .ok last := by
  induction tokens generalizing r with
  | nil => exact ran
  | cons token tokens ih =>
    cases read : Rule.ofToken token with
    | ok rule =>
      simp only [takeTokens, read] at ran ⊢
      exact ih ran
    | error e => simp [takeTokens, read] at ran

theorem validate_skip_of_reject {r : FieldResult}
    (strict : field.validate now { settings with policy := .reject } = .ok r) :
    field.validate now { settings with policy := .skip } = .ok r := by
  by_cases conflict : field.Conflicting
  next => simp [validate_of_conflicting now field _ conflict] at strict
  next =>
    by_cases absent : field.Absent
    next =>
      rw [validate_of_absent now field _ conflict absent] at strict ⊢
      exact strict
    next =>
      rw [validate_of_present now field _ conflict absent] at strict ⊢
      cases ran : field.takeTokens now { settings with policy := .reject } (.passed field.key)
          field.rules.tokens with
      | error e => simp [ran, Except.map] at strict
      | ok last =>
        rw [takeTokens_skip_of_reject now field settings ran]
        rwa [ran] at strict

theorem validate_errors_exact :
    (∀ key, field.validate now settings = .error (.requiredAndNullable key) ↔
      field.Conflicting ∧ key = field.key) ∧
    (∀ key token, field.validate now settings = .error (.malformedRule key token) ↔
      ¬ field.Conflicting ∧ settings.policy = .reject ∧ field.rules.rules = .error ⟨token⟩ ∧
        ¬ field.Absent ∧ key = field.key) ∧
    (∀ token, field.rules.rules = .error ⟨token⟩ ↔
      FirstError Rule.ofToken field.rules.tokens ⟨token⟩) ∧
    ((∃ r, field.validate now settings = .ok r) ↔
      ¬ field.Conflicting ∧
        ¬ (settings.policy = .reject ∧ (∃ token, field.rules.rules = .error ⟨token⟩) ∧
          ¬ field.Absent)) ∧
    ∀ r, field.validate now { settings with policy := .reject } = .ok r →
      field.validate now { settings with policy := .skip } = .ok r := by
  refine ⟨fun key => ?_, fun key token => ?_, fun token => ?_, ?_, fun r strict => ?_⟩
  · simp [validate_eq_error_iff]
  · rw [validate_eq_error_iff]
    constructor
    next =>
      rintro (⟨-, other⟩ | ⟨compatible, present, strict, first, malformed, same⟩)
      · cases other
      · cases same
        exact ⟨compatible, strict, malformed, present, rfl⟩
    next =>
      rintro ⟨compatible, strict, malformed, present, rfl⟩
      exact .inr ⟨compatible, present, strict, token, malformed, rfl⟩
  · exact field.rules.rules_eq_error_iff ⟨token⟩
  · exact exists_validate_eq_ok_iff now field settings
  · exact validate_skip_of_reject now field settings strict

-- Contradicting rules come before a malformed token, and an empty nullable field needs no token.
theorem validate_errors_exact_of_three :
    let conflicting : FieldSpec :=
      { data := .null, key := "note", rules := .piped "bogus|nullable|required:x" }
    let malformed : FieldSpec :=
      { data := ⟨.text "", trivial⟩, key := "note", rules := .piped "required|min:|bogus" }
    let absent : FieldSpec := { data := .null, key := "note", rules := .piped "bogus|nullable:x" }
    conflicting.validate (.midnight 0) { policy := .reject } =
        .error (.requiredAndNullable "note") ∧
      malformed.validate (.midnight 0) { policy := .reject } =
        .error (.malformedRule "note" "min:") ∧
      malformed.rules.rules = .error ⟨"min:"⟩ ∧
      ∃ r, absent.validate (.midnight 0) { policy := .reject } = .ok r ∧
        absent.validate (.midnight 0) { policy := .skip } = .ok r := by
  intro conflicting malformed absent
  have conflict : conflicting.Conflicting := by decide
  have compatible : ¬ malformed.Conflicting := by decide
  have present : ¬ malformed.Absent := by decide
  have first : malformed.rules.rules = .error ⟨"min:"⟩ := by decide
  have strict : absent.validate (.midnight 0) { policy := .reject } =
      .ok (absent.finish {} (.passed "note")) := by
    rfl
  obtain ⟨contradictions, -⟩ :=
    validate_errors_exact (.midnight 0) conflicting { policy := .reject }
  obtain ⟨-, tokens, -⟩ := validate_errors_exact (.midnight 0) malformed { policy := .reject }
  obtain ⟨-, -, -, -, keeps⟩ := validate_errors_exact (.midnight 0) absent {}
  exact ⟨(contradictions "note").2 ⟨conflict, rfl⟩,
    (tokens "note" "min:").2 ⟨compatible, rfl, first, present, rfl⟩, first, _, strict,
    keeps _ strict⟩

end FieldSpec

end FieldRules
