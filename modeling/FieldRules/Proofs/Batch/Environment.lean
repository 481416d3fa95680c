import FieldRules.Proofs.Batch.Variable

set_option autoImplicit false

namespace FieldRules

section First

variable {lookup : String → Option String}

inductive FirstUnreadable (lookup : String → Option String) : List Variable → ConfigError → Prop
  | here {v : Variable} {vs : List Variable} {text : String} (given : lookup v.name = some text)
      (unreadable : ¬ v.Readable text) : FirstUnreadable lookup (v :: vs) (v.error text)
  | later {v : Variable} {vs : List Variable} {e : ConfigError}
      (readable : ∀ text ∈ lookup v.name, v.Readable text) (rest : FirstUnreadable lookup vs e) :
      FirstUnreadable lookup (v :: vs) e

theorem FirstUnreadable.later_iff {v : Variable}
    (readable : ∀ text ∈ lookup v.name, v.Readable text) (vs : List Variable) (e : ConfigError) :
    FirstUnreadable lookup (v :: vs) e ↔ FirstUnreadable lookup vs e := by
  constructor
  next =>
    intro first
    cases first with
    | here given unreadable => exact absurd (readable _ given) unreadable
    | later _ rest => exact rest
  next => exact .later readable

theorem FirstUnreadable.here_iff {v : Variable} {text : String} (given : lookup v.name = some text)
    (unreadable : ¬ v.Readable text) (vs : List Variable) (e : ConfigError) :
    FirstUnreadable lookup (v :: vs) e ↔ v.error text = e := by
  constructor
  next =>
    intro first
    cases first with
    | here same _ => rw [Option.some.inj (given.symm.trans same)]
    | later readable _ => exact absurd (readable text given) unreadable
  next =>
    rintro rfl
    exact .here given unreadable

theorem exists_firstUnreadable_iff (vs : List Variable) :
    (∃ e, FirstUnreadable lookup vs e) ↔
      ¬ ∀ v ∈ vs, ∀ text ∈ lookup v.name, v.Readable text := by
  induction vs with
  | nil =>
    refine iff_of_false ?_ (by simp)
    rintro ⟨e, first⟩
    cases first
  | cons v vs ih =>
    rw [List.forall_mem_cons]
    by_cases readable : ∀ text ∈ lookup v.name, v.Readable text
    next => simp only [FirstUnreadable.later_iff readable, ih, and_iff_right readable]
    next =>
      refine iff_of_true ?_ (mt And.left readable)
      push Not at readable
      obtain ⟨text, given, unreadable⟩ := readable
      exact ⟨v.error text, .here given unreadable⟩

theorem bind_eq_error_iff {α β : Type} {v : Variable} {vs : List Variable}
    {read : String → Except ConfigError α} {next : Option α → Except ConfigError β}
    {e : ConfigError} (reader : v.ReadBy read)
    (others : ∀ given, next given = .error e ↔ FirstUnreadable lookup vs e) :
    (lookup v.name).mapM read >>= next = .error e ↔ FirstUnreadable lookup (v :: vs) e := by
  cases given : lookup v.name with
  | none =>
    rw [FirstUnreadable.later_iff (by simp [given])]
    exact others none
  | some text =>
    cases outcome : read text with
    | ok a =>
      have readable : v.Readable text := (reader.ok text).1 ⟨a, outcome⟩
      rw [FirstUnreadable.later_iff (by simpa [given] using readable), ← others (some a)]
      simp [outcome, bind, Except.bind]
    | error d =>
      have unreadable : ¬ v.Readable text := by simp [← reader.ok text, outcome]
      rw [FirstUnreadable.here_iff given unreadable, ← reader.error text d outcome]
      simp [outcome, bind, Except.bind]

end First

section Readable

theorem bind_eq_ok_iff {α β : Type} {x : Except ConfigError α} {next : α → Except ConfigError β}
    {b : β} : x >>= next = .ok b ↔ ∃ a, x = .ok a ∧ next a = .ok b := by
  cases x <;> simp [bind, Except.bind]

theorem mapM_eq_ok_iff_rel {α : Type} {read : String → Except ConfigError α}
    {Writes : String → α → Prop} (ok : ∀ text a, read text = .ok a ↔ Writes text a)
    (o : Option String) (given : Option α) :
    o.mapM read = .ok given ↔ Option.Rel Writes o given := by
  cases o with
  | none => cases given <;> simp [pure, Except.pure]
  | some text =>
    cases outcome : read text with
    | error e =>
      have refused (a : α) : ¬ Writes text a := by simp [← ok, outcome]
      cases given <;> simp [outcome, refused]
    | ok a =>
      cases given with
      | none => simp [outcome]
      | some b => simp [outcome, ← ok]

end Readable

namespace Environment

def inOrder : List Variable :=
  [.bool "FIELDCHECK_DATA_IN_RESULT" "data_in_result",
    .bool "FIELDCHECK_RETURN_INVALID_ONLY" "return_invalid_only",
    .policy "FIELDCHECK_MALFORMED_RULES", .messages "FIELDCHECK_MESSAGES"]

structure Gives (lookup : String → Option String) (setup : Setup) : Prop where
  dataInResult : Option.Rel WritesBool (lookup "FIELDCHECK_DATA_IN_RESULT") setup.dataInResult
  returnInvalidOnly :
    Option.Rel WritesBool (lookup "FIELDCHECK_RETURN_INVALID_ONLY") setup.returnInvalidOnly
  malformedRules :
    Option.Rel WritesPolicy (lookup "FIELDCHECK_MALFORMED_RULES") setup.malformedRules
  setMessage : Option.Rel WritesMessages (lookup "FIELDCHECK_MESSAGES") setup.setMessage

variable (lookup : String → Option String)

theorem setup_eq_ok_iff (setup : Setup) :
    (ofLookup lookup).setup = .ok setup ↔ Gives lookup setup := by
  simp only [Environment.setup, ofLookup, bind_eq_ok_iff, Except.ok.injEq,
    mapM_eq_ok_iff_rel (readBool_eq_ok_iff _), mapM_eq_ok_iff_rel MalformedPolicy.read_eq_ok_iff,
    mapM_eq_ok_iff_rel Messages.read_eq_ok_iff]
  constructor
  next =>
    rintro ⟨_, first, _, second, _, third, _, fourth, rfl⟩
    exact ⟨first, second, third, fourth⟩
  next =>
    intro gives
    exact ⟨_, gives.dataInResult, _, gives.returnInvalidOnly, _, gives.malformedRules, _,
      gives.setMessage, rfl⟩

theorem setup_eq_error_iff (e : ConfigError) :
    (ofLookup lookup).setup = .error e ↔ FirstUnreadable lookup inOrder e := by
  refine bind_eq_error_iff (Variable.readBy_bool _ _) fun _ => ?_
  refine bind_eq_error_iff (Variable.readBy_bool _ _) fun _ => ?_
  refine bind_eq_error_iff (Variable.readBy_policy _) fun _ => ?_
  refine bind_eq_error_iff (Variable.readBy_messages _) fun _ => ?_
  refine iff_of_false (by simp) ?_
  intro first
  cases first

theorem config_eq_ok_iff (config : Config) :
    (ofLookup lookup).config = .ok config ↔
      ∃ setup, Gives lookup setup ∧ config = Config.apply {} setup := by
  simp only [Environment.config, ← setup_eq_ok_iff]
  cases (ofLookup lookup).setup <;> simp [Except.map, eq_comm]

theorem config_eq_error_iff (e : ConfigError) :
    (ofLookup lookup).config = .error e ↔ FirstUnreadable lookup inOrder e := by
  rw [← setup_eq_error_iff, Environment.config]
  cases (ofLookup lookup).setup <;> simp [Except.map]

theorem exists_config_iff :
    (∃ config, (ofLookup lookup).config = .ok config) ↔
      ∀ v ∈ inOrder, ∀ text ∈ lookup v.name, v.Readable text := by
  rw [← not_iff_not, ← exists_firstUnreadable_iff]
  simp only [← config_eq_error_iff]
  cases (ofLookup lookup).config <;> simp

theorem config_of_variables :
    (∀ config, (ofLookup lookup).config = .ok config ↔
      ∃ setup, Gives lookup setup ∧ config = Config.apply {} setup) ∧
    ((∃ config, (ofLookup lookup).config = .ok config) ↔
      ∀ v ∈ inOrder, ∀ text ∈ lookup v.name, v.Readable text) ∧
    (∀ e, (ofLookup lookup).config = .error e ↔ FirstUnreadable lookup inOrder e) ∧
    ∀ s t, SameLetters s t →
      (∀ field b, readBool field t = .ok b ↔ readBool field s = .ok b) ∧
      ∀ policy, MalformedPolicy.read t = .ok policy ↔ MalformedPolicy.read s = .ok policy := by
  refine ⟨config_eq_ok_iff lookup, exists_config_iff lookup, config_eq_error_iff lookup, ?_⟩
  intro s t same
  have word := plainWord_of_sameLetters same
  constructor
  next =>
    intro field b
    rw [readBool_eq_ok_iff, readBool_eq_ok_iff, writesBool_iff, writesBool_iff, word]
  next =>
    intro policy
    rw [MalformedPolicy.read_eq_ok_iff, MalformedPolicy.read_eq_ok_iff, writesPolicy_iff,
      writesPolicy_iff, word]

theorem config_of_variables_of_capitals :
    let given : String → Option String
      | "FIELDCHECK_MALFORMED_RULES" => some " rEJECT\n"
      | "FIELDCHECK_MESSAGES" => some "\x7b\"required\": \"x\"\x7d"
      | _ => none
    let wrong : String → Option String
      | "FIELDCHECK_RETURN_INVALID_ONLY" => some "maybe"
      | "FIELDCHECK_MESSAGES" => some "\x7b"
      | _ => none
    SameLetters "reject" " rEJECT\n" ∧
      MalformedPolicy.read " rEJECT\n" = .ok .reject ∧
      (ofLookup given).config =
        .ok { malformedRules := .reject, setMessage := some (.ofList [(.required, "x")]) } ∧
      (ofLookup wrong).config =
        .error (.invalidValue "return_invalid_only" "maybe"
          "a boolean (true/false, 1/0, yes/no, on/off)") := by
  intro given wrong
  have same : SameLetters "reject" " rEJECT\n" :=
    @SameLetters.mk _ _ [' '] "rEJECT".toList ['\n'] (by simp [isBlank, blankRanges])
      (by simp [isBlank, blankRanges]) (by decide) (by decide)
  have read : MalformedPolicy.read " rEJECT\n" = .ok .reject :=
    (((config_of_variables fun _ => none).2.2.2 _ _ same).2 .reject).2 (by decide)
  have messages : WritesMessages "\x7b\"required\": \"x\"\x7d" (.ofList [(.required, "x")]) := by
    have noGap : ∀ c ∈ ([] : List Char), Document.isGap c = true := by simp
    have gap : ∀ c ∈ [' '], Document.isGap c = true := by simp [Document.isGap]
    have plainName : ∀ c ∈ "required".toList, Document.IsPlain c := by simp [Document.IsPlain]
    have plainText : ∀ c ∈ "x".toList, Document.IsPlain c := by simp [Document.IsPlain]
    have member := Document.TextMember.mk
      (.quoted noGap noGap (Document.textSpelling_plain plainName))
      (.quoted gap noGap (Document.textSpelling_plain plainText))
    exact ⟨[(.required, "x")],
      .members noGap noGap (by simp) (.cons member .nil) (by decide +kernel), rfl⟩
  refine ⟨same, read, ?_, ?_⟩
  next =>
    refine ((config_of_variables given).1 _).2
      ⟨{ malformedRules := some .reject, setMessage := some _ }, ?_, rfl⟩
    exact ⟨.none, .none, .some ((MalformedPolicy.read_eq_ok_iff _ _).1 read), .some messages⟩
  next =>
    have unreadable : ¬ ∃ b, WritesBool "maybe" b := by
      simp only [writesBool_iff]
      decide +kernel
    refine ((config_of_variables wrong).2.2.1 _).2 (.later (by simp [Variable.bool, wrong]) ?_)
    exact .here rfl unreadable

end Environment

end FieldRules
