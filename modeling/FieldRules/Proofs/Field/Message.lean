import FieldRules.Proofs.Field.Validation

set_option autoImplicit false

namespace FieldRules

theorem Template.exists_builtIn {kind : Kind} (other : kind ≠ .nullable) :
    ∃ template, builtIn? kind = some template := by
  cases kind with
  | nullable => exact absurd rfl other
  | _ => exact ⟨_, rfl⟩

def Settings.template? (settings : Settings) (kind : Kind) : Option String :=
  settings.templates.bind (·.get? kind)

namespace FieldSpec

def ownTemplate? (field : FieldSpec) (kind : Kind) : Option String :=
  field.message.bind (·.get? kind)

def Refutes (now : Moment) (field : FieldSpec) (rule : Rule) : Prop :=
  rule.kind.check now field.data.value rule.param = .invalid

instance (now : Moment) (field : FieldSpec) (rule : Rule) : Decidable (field.Refutes now rule) :=
  inferInstanceAs (Decidable (_ = _))

inductive Told (now : Moment) (field : FieldSpec) (settings : Settings) (rule : Rule) :
    String → Prop
  | badParam {e : ParamError}
      (refused : rule.kind.check now field.data.value rule.param = .badParam e) :
      Told now field settings rule (field.key ++ " " ++ e.text)
  | own {template : String} (fails : field.Refutes now rule)
      (given : field.ownTemplate? rule.kind = some template) :
      Told now field settings rule (Template.render template rule.kind field.key rule.param)
  | shared {template : String} (fails : field.Refutes now rule)
      (noOwn : field.ownTemplate? rule.kind = none)
      (given : settings.template? rule.kind = some template) :
      Told now field settings rule (Template.render template rule.kind field.key rule.param)
  | builtIn {template : String} (fails : field.Refutes now rule)
      (noOwn : field.ownTemplate? rule.kind = none)
      (noShared : settings.template? rule.kind = none)
      (given : Template.builtIn? rule.kind = some template) :
      Told now field settings rule (Template.render template rule.kind field.key rule.param)

def FailsAs (now : Moment) (field : FieldSpec) (kind : Kind) (rule : Rule) : Prop :=
  rule.kind = kind ∧ ¬ field.Passes now rule

instance (now : Moment) (field : FieldSpec) (kind : Kind) (rule : Rule) :
    Decidable (field.FailsAs now kind rule) :=
  inferInstanceAs (Decidable (_ ∧ _))

variable {now : Moment} {field : FieldSpec} {settings : Settings} {rule : Rule}

theorem messageOf?_of_refutes (fails : field.Refutes now rule) {template : String}
    (chosen : ((field.ownTemplate? rule.kind <|> settings.template? rule.kind) <|>
      Template.builtIn? rule.kind) = some template) :
    field.messageOf? settings rule (rule.kind.check now field.data.value rule.param) =
      some (Template.render template rule.kind field.key rule.param) := by
  have first : (field.template? settings rule.kind <|> Template.builtIn? rule.kind) =
      some template := chosen
  rw [Refutes] at fails
  simp only [fails, messageOf?, Template.resolve, first]

theorem Told.messageOf? {text : String} (told : field.Told now settings rule text) :
    field.messageOf? settings rule (rule.kind.check now field.data.value rule.param) =
      some text := by
  cases told with
  | badParam refused =>
    rw [refused]
    rfl
  | own fails given => exact messageOf?_of_refutes fails (by simp [given])
  | shared fails noOwn given => exact messageOf?_of_refutes fails (by simp [noOwn, given])
  | builtIn fails noOwn noShared given =>
    exact messageOf?_of_refutes fails (by simp [noOwn, noShared, given])

theorem Told.unique {text other : String} (told : field.Told now settings rule text)
    (told' : field.Told now settings rule other) : text = other :=
  Option.some.inj (told.messageOf?.symm.trans told'.messageOf?)

theorem exists_told (settings : Settings) (fails : ¬ field.Passes now rule) :
    ∃ text, field.Told now settings rule text := by
  cases checked : rule.kind.check now field.data.value rule.param with
  | pass => exact absurd checked fails
  | badParam e => exact ⟨_, .badParam checked⟩
  | invalid =>
    cases own : field.ownTemplate? rule.kind with
    | some template => exact ⟨_, .own checked own⟩
    | none =>
      cases shared : settings.template? rule.kind with
      | some template => exact ⟨_, .shared checked own shared⟩
      | none =>
        -- The one rule without a built-in template passes always.
        have other : rule.kind ≠ .nullable := by
          intro nullable
          rw [nullable] at checked
          simp [Kind.check, Kind.condition, Outcome.ofBool] at checked
        obtain ⟨template, given⟩ := Template.exists_builtIn other
        exact ⟨_, .builtIn checked own shared given⟩

theorem applyRule_of_told {text : String} (told : field.Told now settings rule text)
    (r : FieldResult) : field.applyRule now settings r rule = r.fail rule.kind text := by
  simp only [applyRule, told.messageOf?]

-- What the messages of a run tell of the rules checked so far.
def Worded (now : Moment) (field : FieldSpec) (settings : Settings) (rules : List Rule)
    (r : FieldResult) : Prop :=
  ∀ kind text, r.message.get? kind = some text ↔
    ∃ rule, LastWith (field.FailsAs now kind) rules rule ∧ field.Told now settings rule text

theorem passed_worded (now : Moment) (field : FieldSpec) (settings : Settings) :
    Worded now field settings [] (.passed field.key) := by
  intro kind text
  simp [FieldResult.passed, not_lastWith_nil]

theorem applyRule_worded {done : List Rule} {r : FieldResult}
    (worded : Worded now field settings done r) (rule : Rule) :
    Worded now field settings (done ++ [rule]) (field.applyRule now settings r rule) := by
  intro kind text
  by_cases passes : field.Passes now rule
  next =>
    have counts : ¬ field.FailsAs now kind rule := fun fails => fails.2 passes
    simp only [applyRule_of_passes now field settings r rule passes, worded kind text,
      lastWith_concat_of_not_holds counts]
  next =>
    obtain ⟨message, told⟩ := exists_told settings passes
    rw [applyRule_of_told told]
    by_cases same : rule.kind = kind
    next =>
      -- The new message takes the place of an earlier one of the kind.
      subst same
      have counts : field.FailsAs now rule.kind rule := ⟨rfl, passes⟩
      simp only [FieldResult.fail, SortedMap.get?_insert_self, lastWith_concat_of_holds counts,
        Option.some.injEq, exists_eq_left]
      constructor
      · rintro rfl
        exact told
      · exact told.unique
    next =>
      have counts : ¬ field.FailsAs now kind rule := fun fails => same fails.1
      simp only [FieldResult.fail, SortedMap.get?_insert_of_ne _ _ (Ne.symm same),
        worded kind text, lastWith_concat_of_not_holds counts]

theorem message_of_last_failure {r : FieldResult}
    (validated : field.validate now settings = .ok r) (kind : Kind) (text : String) :
    r.message.get? kind = some text ↔
      ∃ rule, LastWith (field.FailsAs now kind) field.checkedRules rule ∧
        field.Told now settings rule text := by
  have run := foldl_account (P := Worded now field settings)
    (fun _ _ rule worded => applyRule_worded worded rule) (passed_worded now field settings)
    field.checkedRules
  rw [List.nil_append] at run
  rw [eq_finish_of_validate now field settings validated]
  exact run kind text

-- The second `equalTo` lacks its parameter, and of the rules `min` the one behind a malformed token
-- is not checked. Both have templates in the field and in the settings.
theorem message_of_last_failure_of_repeated_kinds :
    let field : FieldSpec :=
      { data := ⟨.text "x", trivial⟩, key := "age"
        rules := .list ["equalTo:a", "min:5", "equalTo", "min:9", "bogus", "min:7"]
        message := some (.ofList [(.equalTo, "own"), (.min, ":attr < :min")]) }
    let settings : Settings := { templates := some (.ofList [(.equalTo, "all"), (.min, "all")]) }
    ∃ r, field.validate (.midnight 0) settings = .ok r ∧
      r.message.get? .equalTo = some "age is missing a rule parameter" ∧
      r.message.get? .min = some "age < 9" := by
  intro field settings
  have validated : field.validate (.midnight 0) settings = .ok _ := rfl
  let rules : List Rule :=
    [⟨.equalTo, some "a"⟩, ⟨.min, some "5"⟩, ⟨.equalTo, none⟩, ⟨.min, some "9"⟩]
  have checked : field.checkedRules = rules := by decide +kernel
  have filled : "age < 9" = Template.render ":attr < :min" .min "age" (some "9") := by
    decide +kernel
  refine ⟨_, validated, (message_of_last_failure validated _ _).2 ?_,
    (message_of_last_failure validated _ _).2 ?_⟩
  · rw [checked]
    have last : LastWith (field.FailsAs (.midnight 0) .equalTo) rules ⟨.equalTo, none⟩ :=
      ⟨[_, _], [⟨.min, some "9"⟩], rfl, by decide +kernel, by decide +kernel⟩
    exact ⟨_, last, .badParam (e := .missing) (by decide +kernel)⟩
  · rw [checked, filled]
    have last : LastWith (field.FailsAs (.midnight 0) .min) rules ⟨.min, some "9"⟩ :=
      ⟨[_, _, _], [], rfl, by decide +kernel, by simp⟩
    exact ⟨_, last, .own (by decide +kernel) (by decide +kernel)⟩

end FieldSpec

end FieldRules
