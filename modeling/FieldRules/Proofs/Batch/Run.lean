import FieldRules.Batch.Validation
import FieldRules.Proofs.Field.Run

set_option autoImplicit false

namespace FieldRules.Config

def Valid (now : Moment) (config : Config) (field : FieldSpec) : Prop :=
  ∃ r, config.validateField now field = .ok r ∧ r.valid = true

def Invalid (now : Moment) (config : Config) (field : FieldSpec) : Prop :=
  ∃ r, config.validateField now field = .ok r ∧ r.valid = false

def Reported (now : Moment) (config : Config) (field : FieldSpec) : Prop :=
  ∃ r, config.validateField now field = .ok r ∧ (config.returnInvalidOnly = true → r.valid = false)

def ReportedUnder (now : Moment) (config : Config) (key : String) (field : FieldSpec) : Prop :=
  field.key = key ∧ config.Reported now field

def takeField (now : Moment) (config : Config) (b : BatchResult) (field : FieldSpec) :
    Except ValidationError BatchResult :=
  (config.validateField now field).map fun r =>
    { failed := b.failed || !r.valid
      results := if config.reports r then b.results.insert field.key r else b.results }

-- What a batch tells of the fields taken so far.
structure Aggregates (now : Moment) (config : Config) (fields : List FieldSpec) (b : BatchResult) :
    Prop where
  failed : b.failed = true ↔ ∃ field ∈ fields, config.Invalid now field
  results : ∀ key r, b.results.get? key = some r ↔
    ∃ field, LastWith (config.ReportedUnder now key) fields field ∧
      config.validateField now field = .ok r

variable (now : Moment) (config : Config)

theorem invalid_iff {field : FieldSpec} {r : FieldResult}
    (validated : config.validateField now field = .ok r) :
    config.Invalid now field ↔ r.valid = false := by
  simp [Invalid, validated]

theorem reported_iff {field : FieldSpec} {r : FieldResult}
    (validated : config.validateField now field = .ok r) :
    config.Reported now field ↔ config.reports r = true := by
  cases only : config.returnInvalidOnly <;> simp [Reported, validated, reports, only]

theorem takeField_batchResult (results : List FieldResult) {field : FieldSpec} {r : FieldResult}
    (validated : config.validateField now field = .ok r) :
    config.takeField now (config.batchResult results) field =
      .ok (config.batchResult (results ++ [r])) := by
  have key : r.key = field.key := FieldSpec.key_of_validate now field _ validated
  cases shown : config.reports r <;>
    simp [takeField, validated, batchResult, shown, key, SortedMap.ofList_concat, Except.map]

theorem foldlM_takeField_batchResult (results : List FieldResult) (fields : List FieldSpec) :
    fields.foldlM (config.takeField now) (config.batchResult results) =
      (fields.mapM (config.validateField now)).map fun more =>
        config.batchResult (results ++ more) := by
  -- An error ends both sides at once, so only the results in front of it have to agree.
  induction fields generalizing results with
  | nil => simp [pure, Except.pure, Except.map]
  | cons field fields ih =>
    rw [List.foldlM_cons, List.mapM_cons]
    cases validated : config.validateField now field with
    | error e => simp [takeField, validated, bind, Except.bind, Except.map]
    | ok r =>
      rw [takeField_batchResult now config results validated]
      simp only [bind, Except.bind, ih]
      cases fields.mapM (config.validateField now) <;> simp [Except.map, pure, Except.pure]

theorem validate_eq_foldlM (fields : List FieldSpec) :
    config.validate now fields =
      fields.foldlM (config.takeField now) { failed := false, results := .empty } := by
  have run := foldlM_takeField_batchResult now config [] fields
  simp only [List.nil_append] at run
  exact run.symm

theorem start_aggregates : Aggregates now config [] { failed := false, results := .empty } where
  failed := by simp
  results := by simp [not_lastWith_nil]

theorem takeField_aggregates {done : List FieldSpec} {b next : BatchResult} {field : FieldSpec}
    (aggregates : Aggregates now config done b)
    (taken : config.takeField now b field = .ok next) :
    Aggregates now config (done ++ [field]) next := by
  cases validated : config.validateField now field with
  | error e => simp [takeField, validated, Except.map] at taken
  | ok r =>
    simp only [takeField, validated, Except.map, Except.ok.injEq] at taken
    subst taken
    constructor
    next => simp [aggregates.failed, invalid_iff now config validated, or_and_right, exists_or]
    next =>
      intro key shown
      by_cases counts : config.ReportedUnder now key field
      next =>
        obtain ⟨rfl, reported⟩ := counts
        have reports := (reported_iff now config validated).1 reported
        have last : config.ReportedUnder now field.key field := ⟨rfl, reported⟩
        simp [reports, lastWith_concat_of_holds last, validated]
      next =>
        -- What is put in under another key leaves this one as it was.
        have kept :
            (if config.reports r then b.results.insert field.key r else b.results).get? key =
              b.results.get? key := by
          split
          next reports =>
            have other : key ≠ field.key := fun same =>
              counts ⟨same.symm, (reported_iff now config validated).2 reports⟩
            exact SortedMap.get?_insert_of_ne _ _ other
          next => rfl
        simp only [kept, aggregates.results, lastWith_concat_of_not_holds counts]

theorem foldlM_takeField_aggregates {done fields : List FieldSpec} {b last : BatchResult}
    (aggregates : Aggregates now config done b)
    (taken : fields.foldlM (config.takeField now) b = .ok last) :
    Aggregates now config (done ++ fields) last := by
  induction fields generalizing done b with
  | nil =>
    cases taken
    simpa using aggregates
  | cons field fields ih =>
    rw [List.foldlM_cons] at taken
    cases step : config.takeField now b field with
    | error e => simp [step, bind, Except.bind] at taken
    | ok next =>
      simp only [step, bind, Except.bind] at taken
      simpa using ih (takeField_aggregates now config aggregates step) taken

theorem aggregates_of_validate {fields : List FieldSpec} {b : BatchResult}
    (validated : config.validate now fields = .ok b) : Aggregates now config fields b := by
  rw [validate_eq_foldlM] at validated
  exact foldlM_takeField_aggregates now config (start_aggregates now config) validated

end FieldRules.Config
