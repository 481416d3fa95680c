import FieldRules.Field.Validation
import FieldRules.Proofs.Rule.Spec
import FieldRules.Proofs.SortedMap
import Mathlib.Tactic.SplitIfs

set_option autoImplicit false

namespace FieldRules.FieldSpec

def Passes (now : Moment) (field : FieldSpec) (rule : Rule) : Prop :=
  rule.kind.check now field.data.value rule.param = .pass

instance (now : Moment) (field : FieldSpec) (rule : Rule) : Decidable (field.Passes now rule) :=
  inferInstanceAs (Decidable (_ = _))

def applyRule (now : Moment) (field : FieldSpec) (settings : Settings) (r : FieldResult)
    (rule : Rule) : FieldResult :=
  match field.messageOf? settings rule (rule.kind.check now field.data.value rule.param) with
  | some message => r.fail rule.kind message
  | none => r

-- A token that writes no rule ends the run, with the result so far or with an error.
def takeTokens (now : Moment) (field : FieldSpec) (settings : Settings) :
    FieldResult → List String → Except ValidationError FieldResult
  | r, [] => .ok r
  | r, token :: tokens =>
    match Rule.ofToken token, settings.policy with
    | .ok rule, _ => takeTokens now field settings (field.applyRule now settings r rule) tokens
    | .error _, .skip => .ok r
    | .error e, .reject => .error (.malformedRule field.key e.token)

def finish (field : FieldSpec) (settings : Settings) (r : FieldResult) : FieldResult :=
  { r with data := if settings.showData then some field.data else none }

-- What the result of a run tells of the rules checked so far.
structure Recorded (now : Moment) (field : FieldSpec) (rules : List Rule) (r : FieldResult) :
    Prop where
  key : r.key = field.key
  valid : r.valid = true ↔ ∀ rule ∈ rules, field.Passes now rule
  failed : ∀ kind, kind ∈ r.message.keys ↔
    ∃ rule ∈ rules, rule.kind = kind ∧ ¬ field.Passes now rule

variable (now : Moment) (field : FieldSpec) (settings : Settings)

theorem messageOf?_eq_none_iff (rule : Rule) (outcome : Outcome) :
    field.messageOf? settings rule outcome = none ↔ outcome = .pass := by
  cases outcome <;> simp [messageOf?]

theorem applyRule_of_passes (r : FieldResult) (rule : Rule) (passes : field.Passes now rule) :
    field.applyRule now settings r rule = r := by
  have silent := (field.messageOf?_eq_none_iff settings rule _).2 passes
  simp only [applyRule, silent]

theorem applyRule_of_not_passes (r : FieldResult) (rule : Rule)
    (fails : ¬ field.Passes now rule) :
    ∃ message, field.applyRule now settings r rule = r.fail rule.kind message := by
  cases told : field.messageOf? settings rule (rule.kind.check now field.data.value rule.param) with
  | none => exact absurd ((field.messageOf?_eq_none_iff settings rule _).1 told) fails
  | some message => exact ⟨message, by simp only [applyRule, told]⟩

theorem passed_recorded : Recorded now field [] (.passed field.key) where
  key := rfl
  valid := by simp [FieldResult.passed]
  failed := by simp [FieldResult.passed]

theorem applyRule_recorded {done : List Rule} {r : FieldResult}
    (recorded : Recorded now field done r) (rule : Rule) :
    Recorded now field (done ++ [rule]) (field.applyRule now settings r rule) := by
  by_cases passes : field.Passes now rule
  next =>
    rw [applyRule_of_passes now field settings r rule passes]
    exact
      { key := recorded.key
        valid := by simp [recorded.valid, or_imp, forall_and, passes]
        failed := by simp [recorded.failed, or_and_right, exists_or, passes] }
  next =>
    obtain ⟨message, failed⟩ := applyRule_of_not_passes now field settings r rule passes
    rw [failed]
    exact
      { key := recorded.key
        valid := by simp [FieldResult.fail, or_imp, forall_and, passes]
        failed := by
          intro kind
          simp [FieldResult.fail, SortedMap.mem_keys_insert, recorded.failed, or_and_right,
            exists_or, passes, eq_comm, or_comm] }

theorem foldl_applyRule_recorded {done : List Rule} {r : FieldResult}
    (recorded : Recorded now field done r) (rules : List Rule) :
    Recorded now field (done ++ rules) (rules.foldl (field.applyRule now settings) r) := by
  refine foldl_account ?_ recorded rules
  intro done r rule recorded
  exact applyRule_recorded now field settings recorded rule

theorem eq_foldl_of_takeTokens {r last : FieldResult} {tokens : List String}
    (ran : field.takeTokens now settings r tokens = .ok last) :
    last = (rulesBeforeError tokens).foldl (field.applyRule now settings) r := by
  induction tokens generalizing r with
  | nil =>
    cases ran
    rfl
  | cons token tokens ih =>
    cases read : Rule.ofToken token with
    | ok rule =>
      simp only [takeTokens, read] at ran
      rw [rulesBeforeError_cons_of_ok read, List.foldl_cons]
      exact ih ran
    | error e =>
      rw [rulesBeforeError_cons_of_error read]
      cases policy : settings.policy with
      | skip =>
        simp only [takeTokens, read, policy, Except.ok.injEq] at ran
        exact ran.symm
      | reject => simp [takeTokens, read, policy] at ran

theorem takeTokens_recorded {done : List Rule} {r last : FieldResult} {tokens : List String}
    (recorded : Recorded now field done r)
    (ran : field.takeTokens now settings r tokens = .ok last) :
    Recorded now field (done ++ rulesBeforeError tokens) last := by
  rw [eq_foldl_of_takeTokens now field settings ran]
  exact foldl_applyRule_recorded now field settings recorded (rulesBeforeError tokens)

theorem takeTokens_eq_error_iff (r : FieldResult) (tokens : List String) (e : ValidationError) :
    field.takeTokens now settings r tokens = .error e ↔
      settings.policy = .reject ∧
        ∃ token, FirstError Rule.ofToken tokens ⟨token⟩ ∧ e = .malformedRule field.key token := by
  induction tokens generalizing r with
  | nil => simp [takeTokens, not_firstError_nil]
  | cons token tokens ih =>
    cases read : Rule.ofToken token with
    | ok rule => simp only [takeTokens, read, ih, firstError_cons_of_ok read]
    | error d =>
      obtain ⟨-, rfl⟩ := (Rule.ofToken_eq_error_iff token d).1 read
      cases policy : settings.policy <;>
        simp [takeTokens, read, policy, firstError_cons_of_error read, eq_comm]

theorem takeTokens_eq_readRules (r : FieldResult) (tokens : List String) :
    field.takeTokens now settings r tokens =
      match (readRules tokens).2, settings.policy with
      | some token, .reject => .error (.malformedRule field.key token)
      | _, _ => .ok ((readRules tokens).1.foldl (field.applyRule now settings) r) := by
  induction tokens generalizing r with
  | nil => rfl
  | cons token tokens ih =>
    cases read : Rule.ofToken? token with
    | none =>
      cases policy : settings.policy <;>
        simp [takeTokens, readRules, Rule.ofToken, read, policy]
    | some rule => simp [takeTokens, readRules, Rule.ofToken, read, ih]

def tally (field : FieldSpec) (failures : List (Kind × String)) : FieldResult where
  key := field.key
  valid := failures.isEmpty
  message := .ofList failures

theorem applyRule_tally (failures : List (Kind × String)) (rule : Rule) :
    field.applyRule now settings (field.tally failures) rule =
      field.tally (failures ++ field.failures now settings [rule]) := by
  cases told : field.messageOf? settings rule (rule.kind.check now field.data.value rule.param) with
  | none => simp [applyRule, FieldSpec.failures, told]
  | some message =>
    simp [applyRule, FieldSpec.failures, told, tally, FieldResult.fail, SortedMap.ofList_concat]

theorem foldl_applyRule_tally (failures : List (Kind × String)) (rules : List Rule) :
    rules.foldl (field.applyRule now settings) (field.tally failures) =
      field.tally (failures ++ field.failures now settings rules) := by
  induction rules generalizing failures with
  | nil => simp [FieldSpec.failures]
  | cons rule rules ih =>
    rw [List.foldl_cons, applyRule_tally, ih, List.append_assoc]
    simp only [FieldSpec.failures, ← List.filterMap_append, List.singleton_append]

theorem key_of_validate {r : FieldResult} (validated : field.validate now settings = .ok r) :
    r.key = field.key := by
  simp only [validate] at validated
  split_ifs at validated
  · cases validated; rfl
  · split at validated <;> cases validated
    rfl

theorem validate_eq_takeTokens :
    field.validate now settings =
      if field.rules.Names .nullable ∧ field.rules.Names .required then
        .error (.requiredAndNullable field.key)
      else if field.rules.Names .nullable ∧ field.data.value.isEmpty = true then
        .ok (field.finish settings (.passed field.key))
      else
        (field.takeTokens now settings (.passed field.key) field.rules.tokens).map
          (field.finish settings) := by
  have start : FieldResult.passed field.key = field.tally [] := rfl
  simp only [validate, ← RuleSpec.contains_iff, Bool.and_eq_true]
  split_ifs
  · rfl
  · rfl
  · rw [takeTokens_eq_readRules, start, foldl_applyRule_tally, List.nil_append]
    obtain ⟨rules, stop⟩ := readRules field.rules.tokens
    cases stop <;> cases settings.policy <;> rfl

end FieldRules.FieldSpec
