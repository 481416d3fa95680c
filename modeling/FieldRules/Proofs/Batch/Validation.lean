import FieldRules.Proofs.Batch.Run

set_option autoImplicit false

namespace FieldRules.Config

variable {now : Moment} {config : Config}

theorem Aggregates.exists_result_iff {fields : List FieldSpec} {b : BatchResult}
    (aggregates : Aggregates now config fields b) (key : String) :
    (∃ r, b.results.get? key = some r) ↔ ∃ field ∈ fields, config.ReportedUnder now key field := by
  simp only [aggregates.results, ← exists_lastWith_iff]
  constructor
  next =>
    rintro ⟨r, field, last, -⟩
    exact ⟨field, last⟩
  next =>
    rintro ⟨field, last⟩
    obtain ⟨-, r, validated, -⟩ := last.holds
    exact ⟨r, field, last, validated⟩

theorem Aggregates.key_of_mem {fields : List FieldSpec} {b : BatchResult}
    (aggregates : Aggregates now config fields b) {entry : String × FieldResult}
    (member : entry ∈ b.results.entries) : entry.2.key = entry.1 := by
  obtain ⟨field, last, validated⟩ :=
    (aggregates.results entry.1 entry.2).1 (SortedMap.get?_of_mem member)
  exact (FieldSpec.key_of_validate now field _ validated).trans last.holds.1

variable (now config)

theorem validate_aggregates_fields (fields : List FieldSpec) :
    (∀ e, config.validate now fields = .error e ↔
      FirstError (config.validateField now) fields e) ∧
    ((∃ b, config.validate now fields = .ok b) ↔
      ∀ field ∈ fields, ∃ r, config.validateField now field = .ok r) ∧
    ∀ b, config.validate now fields = .ok b →
      (b.failed = true ↔ ∃ field ∈ fields, config.Invalid now field) ∧
      (∀ key r, b.results.get? key = some r ↔
        ∃ field, LastWith (config.ReportedUnder now key) fields field ∧
          config.validateField now field = .ok r) ∧
      (∀ key, b.results.get? key = none ↔
        ∀ field ∈ fields, ¬ config.ReportedUnder now key field) ∧
      ∀ entry ∈ b.results.entries, entry.2.key = entry.1 := by
  refine ⟨fun e => ?_, ?_, fun b validated => ?_⟩
  · rw [← mapM_eq_error_iff, validate]
    cases fields.mapM (config.validateField now) <;> simp [Except.map]
  · rw [← exists_mapM_eq_ok_iff, validate]
    cases fields.mapM (config.validateField now) <;> simp [Except.map]
  · have aggregates := aggregates_of_validate now config validated
    refine ⟨aggregates.failed, aggregates.results, fun key => ?_, fun _ => aggregates.key_of_mem⟩
    have found := not_congr (aggregates.exists_result_iff key)
    simpa [Option.eq_none_iff_forall_ne_some] using found

-- The second field with the key `a` is valid and so not reported, the third takes the place of
-- the first.
theorem validate_aggregates_fields_of_shared_key :
    let field (data : Datum) (rules : String) : FieldSpec :=
      { data, key := "a", rules := .piped rules }
    let last := field ⟨.bool true, trivial⟩ "string|array"
    ∃ b r, Config.validate (.midnight 0) {}
        [field .null "required", field .null "nullable", last] = .ok b ∧
      b.failed = true ∧ FieldSpec.validate (.midnight 0) last {} = .ok r ∧
      b.results.get? "a" = some r := by
  intro field last
  obtain ⟨-, -, aggregated⟩ := validate_aggregates_fields (.midnight 0) {}
    [field .null "required", field .null "nullable", last]
  obtain ⟨failed, results, -, -⟩ := aggregated _ rfl
  have invalid : Config.Invalid (.midnight 0) {} last := ⟨_, rfl, rfl⟩
  refine ⟨_, _, rfl, failed.2 ⟨last, by simp, invalid⟩, rfl, (results "a" _).2 ?_⟩
  refine ⟨last, ⟨[_, _], [], rfl, ⟨rfl, _, rfl, fun _ => rfl⟩, by simp⟩, rfl⟩

variable {now config}

theorem Invalid.reported {field : FieldSpec} (invalid : config.Invalid now field) :
    config.Reported now field := by
  obtain ⟨r, validated, valid⟩ := invalid
  exact ⟨r, validated, fun _ => valid⟩

theorem Valid.reported {field : FieldSpec} (valid : config.Valid now field)
    (all : config.returnInvalidOnly = false) : config.Reported now field := by
  obtain ⟨r, validated, -⟩ := valid
  exact ⟨r, validated, by simp [all]⟩

theorem Reported.invalid {field : FieldSpec} (reported : config.Reported now field)
    (refused : config.returnInvalidOnly = true ∨ ¬ config.Valid now field) :
    config.Invalid now field := by
  obtain ⟨r, validated, shown⟩ := reported
  refine ⟨r, validated, ?_⟩
  rcases refused with only | other
  · exact shown only
  · exact Bool.eq_false_iff.2 fun valid => other ⟨r, validated, valid⟩

theorem Aggregates.exists_invalid_entry_iff {fields : List FieldSpec} {b : BatchResult}
    (aggregates : Aggregates now config fields b) :
    (∃ entry ∈ b.results.entries, entry.2.valid = false) ↔
      ∃ key field, LastWith (config.ReportedUnder now key) fields field ∧
        config.Invalid now field := by
  constructor
  next =>
    rintro ⟨⟨key, r⟩, member, invalid⟩
    obtain ⟨field, last, validated⟩ := (aggregates.results key r).1 (SortedMap.get?_of_mem member)
    exact ⟨key, field, last, r, validated, invalid⟩
  next =>
    rintro ⟨key, field, last, r, validated, invalid⟩
    have found := (aggregates.results key r).2 ⟨field, last, validated⟩
    exact ⟨(key, r), SortedMap.mem_of_get? found, invalid⟩

theorem exists_last_invalid {field : FieldSpec} {after : List FieldSpec}
    (invalid : config.Invalid now field)
    (kept : ∀ later ∈ after, later.key = field.key →
      config.returnInvalidOnly = true ∨ ¬ config.Valid now later) (before : List FieldSpec) :
    ∃ last, LastWith (config.ReportedUnder now field.key) (before ++ field :: after) last ∧
      config.Invalid now last := by
  -- The last one stands at the invalid field or behind it, where none that is valid is reported.
  have start : ∃ x ∈ field :: after, config.ReportedUnder now field.key x :=
    ⟨field, by simp, rfl, invalid.reported⟩
  obtain ⟨last, isLast⟩ := (exists_lastWith_iff _ _).2 start
  refine ⟨last, isLast.append_left before, ?_⟩
  obtain ⟨same, reported⟩ := isLast.holds
  rcases List.mem_cons.1 isLast.mem with rfl | later
  · exact invalid
  · exact reported.invalid (kept last later same)

variable (now config)

-- A batch shows a failure when it has failed and, if valid fields are reported too, none of them
-- takes the place of some invalid field.
theorem invalid_entry_iff_failed {fields : List FieldSpec} {b : BatchResult}
    (validated : config.validate now fields = .ok b) :
    (∃ entry ∈ b.results.entries, entry.2.valid = false) ↔
      b.failed = true ∧
        (config.returnInvalidOnly = true ∨
          ∃ before field after, fields = before ++ field :: after ∧ config.Invalid now field ∧
            ∀ later ∈ after, later.key = field.key → ¬ config.Valid now later) := by
  have aggregates := aggregates_of_validate now config validated
  rw [aggregates.exists_invalid_entry_iff, aggregates.failed]
  constructor
  next =>
    rintro ⟨key, field, last, invalid⟩
    refine ⟨⟨field, last.mem, invalid⟩, ?_⟩
    cases all : config.returnInvalidOnly with
    | true => exact .inl rfl
    | false =>
      obtain ⟨before, after, split, ⟨same, -⟩, later⟩ := last
      refine .inr ⟨before, field, after, split, invalid, fun x member equal valid => ?_⟩
      exact later x member ⟨equal.trans same, valid.reported all⟩
  next =>
    rintro ⟨⟨field, member, invalid⟩, only | ⟨before, field, after, rfl, invalid, kept⟩⟩
    · obtain ⟨before, after, rfl⟩ := List.append_of_mem member
      exact ⟨field.key, exists_last_invalid invalid (fun _ _ _ => .inl only) before⟩
    · exact ⟨field.key,
        exists_last_invalid invalid (fun later inside same => .inr (kept later inside same)) before⟩

theorem invalid_entry_iff_failed_of_last_invalid :
    let all : Config := { returnInvalidOnly := false }
    let field (key : String) (data : Datum) : FieldSpec :=
      { data, key, rules := .piped "required" }
    let earlier := field "a" ⟨.text "x", trivial⟩
    let other := field "b" ⟨.text "y", trivial⟩
    ∃ b, all.validate (.midnight 0) [earlier, field "a" .null, other] = .ok b ∧
      ∃ entry ∈ b.results.entries, entry.2.valid = false := by
  intro all field earlier other
  have validated : all.validate (.midnight 0) [earlier, field "a" .null, other] = .ok _ := rfl
  have invalid : all.Invalid (.midnight 0) (field "a" .null) := ⟨_, rfl, rfl⟩
  refine ⟨_, validated, (invalid_entry_iff_failed (.midnight 0) all validated).2 ⟨rfl, .inr ?_⟩⟩
  refine ⟨[earlier], _, [other], rfl, invalid, fun later member same => ?_⟩
  simp [List.mem_singleton.1 member, other, field] at same

-- A valid field takes the place of an invalid one with the same key.
theorem failed_without_invalid_entry :
    let field (data : Datum) : FieldSpec := { data, key := "k", rules := .piped "required" }
    ∃ b, Config.validate (.midnight 0) { returnInvalidOnly := false }
        [field .null, field ⟨.text "x", trivial⟩] = .ok b ∧
      ¬ (b.failed = true ↔ ∃ entry ∈ b.results.entries, entry.2.valid = false) := by
  intro field
  refine ⟨_, rfl, fun agree => ?_⟩
  obtain ⟨entry, member, invalid⟩ := agree.1 rfl
  exact absurd invalid (by revert entry; decide)

end FieldRules.Config
