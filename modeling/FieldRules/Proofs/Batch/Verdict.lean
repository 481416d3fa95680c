import FieldRules.Proofs.Batch.Run
import FieldRules.Proofs.Field.Verdict

set_option autoImplicit false

namespace FieldRules

-- The keys are the same too, since a key has a verdict where it has a result.
structure BatchResult.SameVerdict (b c : BatchResult) : Prop where
  failed : b.failed = c.failed
  results : ∀ key, (b.results.get? key).map FieldResult.verdict =
    (c.results.get? key).map FieldResult.verdict

theorem BatchResult.SameVerdict.keys_eq {b c : BatchResult} (same : b.SameVerdict c) :
    b.results.keys = c.results.keys := by
  apply SortedMap.keys_ext
  intro key
  have shown : (b.results.get? key).isSome = (c.results.get? key).isSome := by
    simpa using congrArg Option.isSome (same.results key)
  rw [SortedMap.mem_keys_iff, SortedMap.mem_keys_iff, ← Option.isSome_iff_exists,
    ← Option.isSome_iff_exists, shown]

theorem FieldResult.valid_eq_of_verdict_eq {r s : FieldResult} (same : r.verdict = s.verdict) :
    r.valid = s.valid := congrArg Prod.fst same

namespace Config

structure SamePolicy (config other : Config) : Prop where
  malformedRules : config.malformedRules = other.malformedRules
  returnInvalidOnly : config.returnInvalidOnly = other.returnInvalidOnly

variable (now : Moment) {config other : Config}

theorem reports_eq_of_verdict_eq (policy : config.SamePolicy other) {r s : FieldResult}
    (same : r.verdict = s.verdict) : config.reports r = other.reports s := by
  rw [reports, reports, policy.returnInvalidOnly, FieldResult.valid_eq_of_verdict_eq same]

theorem takeField_alike (policy : config.SamePolicy other) {b c : BatchResult}
    (soFar : b.SameVerdict c) {field field' : FieldSpec} (same : field.SameInput field') :
    Alike BatchResult.SameVerdict (config.takeField now b field)
      (other.takeField now c field') := by
  have validated : Alike _ (config.validateField now field) (other.validateField now field') :=
    FieldSpec.validate_alike_of_sameInput now same policy.malformedRules
  apply validated.map
  intro r s verdicts
  have valid := FieldResult.valid_eq_of_verdict_eq verdicts
  have reported := reports_eq_of_verdict_eq policy verdicts
  constructor
  next => simp only [soFar.failed, valid]
  next =>
    intro key
    cases shown : other.reports s with
    | false => simpa [reported, shown] using soFar.results key
    | true =>
      by_cases here : key = field.key
      next => simp [reported, shown, here, same.key, verdicts]
      next =>
        have here' : key ≠ field'.key := same.key ▸ here
        simpa [reported, shown, SortedMap.get?_insert_of_ne, here, here'] using soFar.results key

theorem validate_alike (policy : config.SamePolicy other) {fields fields' : List FieldSpec}
    (same : List.Forall₂ FieldSpec.SameInput fields fields') :
    Alike BatchResult.SameVerdict (config.validate now fields) (other.validate now fields') := by
  rw [validate_eq_foldlM, validate_eq_foldlM]
  have start : BatchResult.SameVerdict { failed := false, results := .empty }
      { failed := false, results := .empty } := ⟨rfl, fun _ => rfl⟩
  refine foldlM_alike ?_ start same
  intro b c field field' soFar pair
  exact takeField_alike now policy soFar pair

theorem validate_verdict_of_sameInput (policy : config.SamePolicy other)
    {fields fields' : List FieldSpec} (same : List.Forall₂ FieldSpec.SameInput fields fields') :
    (∃ e, config.validate now fields = .error e ∧ other.validate now fields' = .error e) ∨
    ∃ b c, config.validate now fields = .ok b ∧ other.validate now fields' = .ok c ∧
      b.failed = c.failed ∧ b.results.keys = c.results.keys ∧
      ∀ key, (b.results.get? key).map (fun r => (r.valid, r.failedRules)) =
        (c.results.get? key).map fun r => (r.valid, r.failedRules) := by
  have alike := validate_alike now policy same
  cases left : config.validate now fields with
  | error d =>
    cases right : other.validate now fields' with
    | error e =>
      rw [left, right] at alike
      exact .inl ⟨d, rfl, congrArg _ alike.symm⟩
    | ok c => simp [left, right, Alike] at alike
  | ok b =>
    cases right : other.validate now fields' with
    | error e => simp [left, right, Alike] at alike
    | ok c =>
      rw [left, right] at alike
      exact .inr ⟨b, c, rfl, rfl, alike.failed, alike.keys_eq, alike.results⟩

-- Templates of the field and of the batch for the rule that fails, an empty one among them, and
-- the value shown. The valid field is left out of both.
theorem validate_verdict_of_sameInput_of_templates :
    let worded : Config :=
      { dataInResult := true, setMessage := some (.ofList [(.required, ":attr?")]) }
    let field (message : Option Messages) : FieldSpec :=
      { data := .null, key := "a", rules := .piped "required|string", message }
    let valid : FieldSpec := { data := .null, key := "b", rules := .piped "nullable|string" }
    let fields := [field none, valid]
    let fields' := [field (some (.ofList [(.string, "")])), valid]
    SamePolicy {} worded ∧ List.Forall₂ FieldSpec.SameInput fields fields' ∧
      ∃ b c, validate (.midnight 0) {} fields = .ok b ∧
        validate (.midnight 0) worded fields' = .ok c ∧
        b.failed = true ∧ c.failed = true ∧ c.results.keys = ["a"] ∧
        (c.results.get? "a").map (fun r => (r.valid, r.failedRules)) =
          some (false, [.required, .string]) := by
  intro worded field valid fields fields'
  have policy : SamePolicy {} worded := ⟨rfl, rfl⟩
  have same : List.Forall₂ FieldSpec.SameInput fields fields' :=
    .cons ⟨rfl, rfl, rfl⟩ (.cons ⟨rfl, rfl, rfl⟩ .nil)
  have plain : validate (.midnight 0) {} fields = .ok _ := rfl
  rcases validate_verdict_of_sameInput (.midnight 0) policy same with
    ⟨e, failed, -⟩ | ⟨b, c, left, right, failed, keys, verdicts⟩
  · rw [plain] at failed
    simp at failed
  · rw [plain] at left
    cases left
    refine ⟨policy, same, _, c, plain, right, rfl, failed.symm, keys.symm, ?_⟩
    rw [← verdicts "a"]
    decide +kernel

end Config

end FieldRules
