import FieldRules.Proofs.Batch.Run

set_option autoImplicit false

namespace FieldRules.Config

variable {now : Moment} {config : Config} {fields fields' : List FieldSpec}

theorem lastWith_reportedUnder_iff (distinct : (fields.map FieldSpec.key).Nodup) (key : String)
    (field : FieldSpec) :
    LastWith (config.ReportedUnder now key) fields field ↔
      field ∈ fields ∧ config.ReportedUnder now key field := by
  apply lastWith_iff_mem
  apply (List.pairwise_map.1 distinct).imp
  rintro x y other ⟨⟨left, -⟩, right, -⟩
  exact other (left.trans right.symm)

theorem Aggregates.of_perm {b : BatchResult} (aggregates : Aggregates now config fields b)
    (distinct : (fields.map FieldSpec.key).Nodup) (perm : fields.Perm fields') :
    Aggregates now config fields' b := by
  have distinct' : (fields'.map FieldSpec.key).Nodup := (perm.map _).nodup_iff.1 distinct
  constructor
  next => simp only [aggregates.failed, perm.mem_iff]
  next =>
    intro key r
    simp only [aggregates.results, lastWith_reportedUnder_iff distinct,
      lastWith_reportedUnder_iff distinct', perm.mem_iff]

-- What a batch has to tell leaves nothing of it open.
theorem Aggregates.unique {b c : BatchResult} (left : Aggregates now config fields b)
    (right : Aggregates now config fields c) : b = c := by
  have failed : b.failed = c.failed := by
    rw [Bool.eq_iff_iff, left.failed, right.failed]
  have results : b.results = c.results := by
    apply SortedMap.ext_get?
    intro key
    apply Option.ext
    intro r
    rw [left.results, right.results]
  cases b
  cases c
  simp_all

variable (now config)

theorem exists_batch_iff (fields : List FieldSpec) :
    (∃ b, config.validate now fields = .ok b) ↔
      ∀ field ∈ fields, ∃ r, config.validateField now field = .ok r := by
  rw [← exists_mapM_eq_ok_iff, validate]
  cases fields.mapM (config.validateField now) <;> simp [Except.map]

theorem validate_of_perm {b : BatchResult} (distinct : (fields.map FieldSpec.key).Nodup)
    (perm : fields.Perm fields') (validated : config.validate now fields = .ok b) :
    config.validate now fields' = .ok b := by
  have all := (exists_batch_iff now config fields).1 ⟨b, validated⟩
  have all' : ∀ field ∈ fields', ∃ r, config.validateField now field = .ok r := by
    intro field member
    exact all field (perm.mem_iff.2 member)
  obtain ⟨c, validated'⟩ := (exists_batch_iff now config fields').2 all'
  have left := (aggregates_of_validate now config validated).of_perm distinct perm
  have right := aggregates_of_validate now config validated'
  rw [validated', left.unique right]

def withInvalidOnly (config : Config) (only : Bool) : Config :=
  { config with returnInvalidOnly := only }

theorem validate_withInvalidOnly (only : Bool) (fields : List FieldSpec) :
    (config.withInvalidOnly only).validate now fields =
      (fields.mapM (config.validateField now)).map (config.withInvalidOnly only).batchResult := by
  rfl

theorem get?_of_invalid_only (distinct : (fields.map FieldSpec.key).Nodup) {b c : BatchResult}
    (only : Aggregates now (config.withInvalidOnly true) fields b)
    (all : Aggregates now (config.withInvalidOnly false) fields c) (key : String) :
    b.results.get? key = (c.results.get? key).filter fun r => !r.valid := by
  apply Option.ext
  intro r
  rw [Option.filter_eq_some_iff]
  simp only [only.results, all.results, lastWith_reportedUnder_iff distinct]
  constructor
  next =>
    rintro ⟨field, ⟨member, same, s, validated, invalid⟩, validated'⟩
    obtain rfl : s = r := Except.ok.inj (validated.symm.trans validated')
    have reported : (config.withInvalidOnly false).ReportedUnder now key field :=
      ⟨same, s, validated, by simp [withInvalidOnly]⟩
    exact ⟨⟨field, ⟨member, reported⟩, validated⟩, by simpa using invalid rfl⟩
  next =>
    rintro ⟨⟨field, ⟨member, same, -⟩, validated⟩, invalid⟩
    have reported : (config.withInvalidOnly true).ReportedUnder now key field :=
      ⟨same, r, validated, fun _ => by simpa using invalid⟩
    exact ⟨field, ⟨member, reported⟩, validated⟩

theorem validate_of_distinct_keys (distinct : (fields.map FieldSpec.key).Nodup) :
    (∀ fields', fields.Perm fields' →
      (∃ d e, config.validate now fields = .error d ∧ config.validate now fields' = .error e) ∨
      ∃ b, config.validate now fields = .ok b ∧ config.validate now fields' = .ok b) ∧
    ((∃ e, (config.withInvalidOnly true).validate now fields = .error e ∧
        (config.withInvalidOnly false).validate now fields = .error e) ∨
      ∃ b c, (config.withInvalidOnly true).validate now fields = .ok b ∧
        (config.withInvalidOnly false).validate now fields = .ok c ∧
        b.failed = c.failed ∧
        ∀ key, b.results.get? key = (c.results.get? key).filter fun r => !r.valid) := by
  constructor
  next =>
    intro fields' perm
    cases left : config.validate now fields with
    | ok b => exact .inr ⟨b, rfl, validate_of_perm now config distinct perm left⟩
    | error d =>
      cases right : config.validate now fields' with
      | error e => exact .inl ⟨d, e, rfl, rfl⟩
      | ok c =>
        -- A result of the other list would be one of this list.
        have distinct' := (perm.map FieldSpec.key).nodup_iff.1 distinct
        rw [validate_of_perm now config distinct' perm.symm right] at left
        cases left
  next =>
    cases run : fields.mapM (config.validateField now) with
    | error e =>
      refine .inl ⟨e, ?_, ?_⟩ <;> rw [validate_withInvalidOnly, run] <;> rfl
    | ok results =>
      have validated (only : Bool) : (config.withInvalidOnly only).validate now fields =
          .ok ((config.withInvalidOnly only).batchResult results) := by
        rw [validate_withInvalidOnly, run]
        rfl
      refine .inr ⟨_, _, validated true, validated false, rfl, ?_⟩
      exact get?_of_invalid_only now config distinct
        (aggregates_of_validate now _ (validated true))
        (aggregates_of_validate now _ (validated false))

theorem validate_of_distinct_keys_of_rotation :
    let field (key : String) (data : Datum) : FieldSpec :=
      { data, key, rules := .piped "required" }
    let valid := field "b" ⟨.text "x", trivial⟩
    let fields := [field "a" .null, valid, field "c" .null]
    let fields' := [field "c" .null, field "a" .null, valid]
    (fields.map FieldSpec.key).Nodup ∧ fields.Perm fields' ∧
      ∃ b, validate (.midnight 0) {} fields = .ok b ∧ validate (.midnight 0) {} fields' = .ok b ∧
        b.failed = true ∧ b.results.keys = ["a", "c"] ∧
        ∃ c, (withInvalidOnly {} false).validate (.midnight 0) fields = .ok c ∧
          c.results.keys = ["a", "b", "c"] ∧ b.results.get? "b" = none := by
  intro field valid fields fields'
  have distinct : (fields.map FieldSpec.key).Nodup := by decide
  have perm : fields.Perm fields' :=
    (List.perm_append_comm : ([field "a" .null, valid] ++ [field "c" .null]).Perm _)
  have validated : validate (.midnight 0) {} fields = .ok _ := rfl
  have complete : (withInvalidOnly {} false).validate (.midnight 0) fields = .ok _ := rfl
  obtain ⟨ordered, modes⟩ := validate_of_distinct_keys (.midnight 0) {} distinct
  refine ⟨distinct, perm, _, validated, ?_, rfl, by decide +kernel, _, complete,
    by decide +kernel, ?_⟩
  · rcases ordered fields' perm with ⟨d, e, refused, -⟩ | ⟨b, left, right⟩
    · rw [validated] at refused
      cases refused
    · rw [validated] at left
      cases left
      exact right
  · rcases modes with ⟨e, -, refused⟩ | ⟨b, c, only, all, -, entries⟩
    · rw [complete] at refused
      cases refused
    · rw [complete] at all
      cases all
      have same : validate (.midnight 0) {} fields = .ok b := only
      rw [validated] at same
      cases same
      rw [entries "b"]
      decide +kernel

end FieldRules.Config
