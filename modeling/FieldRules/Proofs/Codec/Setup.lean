import FieldRules.Proofs.Codec.Config
import FieldRules.Proofs.Traversal

set_option autoImplicit false

namespace FieldRules

namespace Document

inductive NullField (names : List String) : Document → String → Prop
  | member {members : List (String × Document)} {name : String} (null : (name, .null) ∈ members) :
      NullField names (.object members) name
  | item {items : List Document} {i : Nat} {name : String} (place : names[i]? = some name)
      (null : items[i]? = some .null) : NullField names (.array items) name

theorem nullField_object_iff {names : List String} {members : List (String × Document)}
    {name : String} : NullField names (.object members) name ↔ (name, .null) ∈ members := by
  constructor
  next => rintro ⟨null⟩; exact null
  next => exact .member

theorem member?_eq_null_iff {members : List (String × Document)} {name : String}
    {field : Option Document} (read : member? members name = some field) :
    field = some .null ↔ (name, .null) ∈ members := by
  have among : (name, .null) ∈ members ↔ (name, .null) ∈ members.filter (·.1 = name) := by simp
  rw [among]
  unfold member? at read
  split at read
  next none =>
    obtain rfl := Option.some.inj read
    simp [none]
  next found d only =>
    obtain rfl := Option.some.inj read
    have inside : (found, d) ∈ members.filter (·.1 = name) := by simp [only]
    have same : found = name := by simpa using (List.mem_filter.1 inside).2
    rw [only, List.mem_singleton]
    simp [same, eq_comm]
  next => contradiction

theorem nullField_iff {names : List String} (distinct : names.Nodup) {d : Document}
    {fields : List (Option Document)} (read : d.fields? names = some fields) {i : Nat}
    {name : String} (place : names[i]? = some name) :
    d.NullField names name ↔ fields[i]? = some (some .null) := by
  cases d with
  | object members =>
    obtain ⟨field, member, given⟩ := exists_getElem?_of_mapM read place
    rw [given, Option.some.injEq, member?_eq_null_iff member, nullField_object_iff]
  | array items =>
    have given : fields[i]? = some (some .null) ↔ items[i]? = some .null := by
      rw [fields?] at read
      split at read
      next =>
        obtain rfl := Option.some.inj read
        -- Behind the items there are only fields that are left out.
        rw [List.getElem?_append]
        split
        next => simp
        next behind =>
          rw [List.length_map] at behind
          simp [List.getElem?_replicate, List.getElem?_eq_none (Nat.not_lt.1 behind)]
      next => contradiction
    rw [given]
    constructor
    next =>
      intro nullField
      cases nullField with
      | @item _ j _ same null =>
        have inside := (List.getElem?_eq_some_iff.1 place).1
        obtain rfl : i = j := (List.getElem?_inj inside distinct).1 (place.trans same.symm)
        exact null
    next => exact .item place
  | _ => simp [fields?] at read

section Missing

variable {α : Type} {read? : Document → Option α}

theorem fieldOr_eq_some_iff (refused : read? .null = none) (default a : α) (o : Option Document) :
    fieldOr default read? o = some a ↔
      o ≠ some .null ∧ ∃ given, fieldOr none (nullable read?) o = some given ∧
        a = given.getD default := by
  cases o with
  | none => simp [fieldOr, eq_comm]
  | some d =>
    cases d with
    | null => simp [fieldOr, refused]
    | _ => simp [fieldOr, nullable]

end Missing

end Document

section Options

variable {d : Document} {dataInResult returnInvalidOnly setMessage malformedRules : Option Document}

theorem bind_four_eq_some_iff {α β γ δ σ : Type} {make : α → β → γ → δ → σ}
    (apart : ∀ a b c d a' b' c' d', make a b c d = make a' b' c' d' →
      a = a' ∧ b = b' ∧ c = c' ∧ d = d')
    {first : Option α} {second : Option β} {third : Option γ} {fourth : Option δ} (a : α) (b : β)
    (c : γ) (d : δ) :
    (first.bind fun a => second.bind fun b => third.bind fun c => fourth.bind fun d =>
        some (make a b c d)) = some (make a b c d) ↔
      first = some a ∧ second = some b ∧ third = some c ∧ fourth = some d := by
  simp only [Option.bind_eq_some_iff, Option.some.injEq]
  constructor
  next =>
    rintro ⟨_, first, _, second, _, third, _, fourth, same⟩
    obtain ⟨rfl, rfl, rfl, rfl⟩ := apart _ _ _ _ _ _ _ _ same
    exact ⟨first, second, third, fourth⟩
  next =>
    rintro ⟨first, second, third, fourth⟩
    exact ⟨a, first, b, second, c, third, d, fourth, rfl⟩

theorem Config.ofDocument?_of_fields
    (read : d.fields? optionNames =
      some [dataInResult, returnInvalidOnly, setMessage, malformedRules]) (config : Config) :
    ofDocument? d = some config ↔
      Document.fieldOr false Document.bool? dataInResult = some config.dataInResult ∧
      Document.fieldOr true Document.bool? returnInvalidOnly = some config.returnInvalidOnly ∧
      Document.fieldOr none (Document.nullable Messages.ofDocument?) setMessage =
        some config.setMessage ∧
      Document.fieldOr .skip MalformedPolicy.ofDocument? malformedRules =
        some config.malformedRules := by
  rw [ofDocument?, read]
  exact bind_four_eq_some_iff (fun _ _ _ _ _ _ _ _ same => Config.mk.inj same) _ _ _ _

theorem Setup.ofDocument?_of_fields
    (read : d.fields? optionNames =
      some [dataInResult, returnInvalidOnly, setMessage, malformedRules]) (setup : Setup) :
    ofDocument? d = some setup ↔
      Document.fieldOr none (Document.nullable Document.bool?) dataInResult =
        some setup.dataInResult ∧
      Document.fieldOr none (Document.nullable Document.bool?) returnInvalidOnly =
        some setup.returnInvalidOnly ∧
      Document.fieldOr none (Document.nullable Messages.ofDocument?) setMessage =
        some setup.setMessage ∧
      Document.fieldOr none (Document.nullable MalformedPolicy.ofDocument?) malformedRules =
        some setup.malformedRules := by
  rw [ofDocument?, read]
  exact bind_four_eq_some_iff (fun _ _ _ _ _ _ _ _ same => Setup.mk.inj same) _ _ _ _

-- Put over the defaults, what a partial reading leaves out is what a full one supplies.
theorem Config.ofDocument?_of_fields_iff
    (read : d.fields? optionNames =
      some [dataInResult, returnInvalidOnly, setMessage, malformedRules]) (config : Config) :
    Config.ofDocument? d = some config ↔
      (dataInResult ≠ some .null ∧ returnInvalidOnly ≠ some .null ∧ malformedRules ≠ some .null) ∧
        ∃ setup, Setup.ofDocument? d = some setup ∧ config = Config.apply {} setup := by
  have bool := @Document.fieldOr_eq_some_iff Bool Document.bool? rfl
  have policy := @Document.fieldOr_eq_some_iff MalformedPolicy MalformedPolicy.ofDocument? rfl
  rw [Config.ofDocument?_of_fields read, bool, bool, policy]
  constructor
  next =>
    rintro ⟨⟨first, showData, readFirst, same⟩, ⟨second, invalidOnly, readSecond, same'⟩, readThird,
      ⟨fourth, policy, readFourth, same''⟩⟩
    refine ⟨⟨first, second, fourth⟩, ⟨showData, invalidOnly, config.setMessage, policy⟩,
      (Setup.ofDocument?_of_fields read _).2 ⟨readFirst, readSecond, readThird, readFourth⟩, ?_⟩
    cases config
    simp_all [Config.apply]
  next =>
    rintro ⟨⟨first, second, fourth⟩, setup, part, rfl⟩
    obtain ⟨readFirst, readSecond, readThird, readFourth⟩ :=
      (Setup.ofDocument?_of_fields read setup).1 part
    refine ⟨⟨first, _, readFirst, rfl⟩, ⟨second, _, readSecond, rfl⟩, ?_,
      ⟨fourth, _, readFourth, rfl⟩⟩
    rw [readThird, Config.apply]
    simp

end Options

namespace Setup

def followedBy (first second : Setup) : Setup where
  dataInResult := second.dataInResult <|> first.dataInResult
  returnInvalidOnly := second.returnInvalidOnly <|> first.returnInvalidOnly
  setMessage := second.setMessage <|> first.setMessage
  malformedRules := second.malformedRules <|> first.malformedRules

end Setup

namespace Config

theorem apply_apply (config : Config) (first second : Setup) :
    (config.apply first).apply second = config.apply (first.followedBy second) := by
  simp [apply, Setup.followedBy, Option.getD_or, Option.or_assoc]

-- The options that are never null when they are read in full.
def plainOptions : List String := ["dataInResult", "returnInvalidOnly", "malformedRules"]

theorem ofDocument?_eq_some_iff (d : Document) (config : Config) :
    Config.ofDocument? d = some config ↔
      (∀ name ∈ plainOptions, ¬ d.NullField optionNames name) ∧
        ∃ setup, Setup.ofDocument? d = some setup ∧ config = Config.apply {} setup := by
  cases read : d.fields? optionNames with
  | none => simp [Config.ofDocument?, Setup.ofDocument?, read]
  | some fields =>
    rcases fields with _ | ⟨a, _ | ⟨b, _ | ⟨m, _ | ⟨p, _ | ⟨q, rest⟩⟩⟩⟩⟩
    case some.cons.cons.cons.cons.nil =>
      have nulls (i : Nat) (name : String) (place : optionNames[i]? = some name) :=
        Document.nullField_iff (by decide) read place
      rw [Config.ofDocument?_of_fields_iff read]
      simp [plainOptions, nulls 0 _ rfl, nulls 1 _ rfl, nulls 3 _ rfl]
    all_goals simp [Config.ofDocument?, Setup.ofDocument?, read]

theorem readers_agree :
    (∀ (d : Document) (config : Config), Config.ofDocument? d = some config ↔
      (∀ name ∈ plainOptions, ¬ d.NullField optionNames name) ∧
        ∃ setup, Setup.ofDocument? d = some setup ∧ config = Config.apply {} setup) ∧
    ∀ (config : Config) (first second : Setup),
      (config.apply first).apply second = config.apply (first.followedBy second) :=
  ⟨ofDocument?_eq_some_iff, apply_apply⟩

theorem readers_agree_of_two_options :
    let d : Document := .object [("malformedRules", .text "reject"), ("setMessage", .null),
      ("dataInResult", .bool true)]
    let setup : Setup := { dataInResult := some true, malformedRules := some .reject }
    (∀ name ∈ plainOptions, ¬ d.NullField optionNames name) ∧
      Setup.ofDocument? d = some setup ∧
      Config.ofDocument? d = some { dataInResult := true, malformedRules := .reject } ∧
      Config.ofDocument? (.array [.bool true, .null]) = none ∧
      (Config.apply {} setup).apply { dataInResult := some false } =
        { malformedRules := .reject } := by
  intro d setup
  have part : Setup.ofDocument? d = some setup := by rfl
  have plain : ∀ name ∈ plainOptions, ¬ d.NullField optionNames name := by
    simp [d, Document.nullField_object_iff, plainOptions]
  have null : (Document.array [.bool true, .null]).NullField optionNames "returnInvalidOnly" :=
    .item (i := 1) rfl rfl
  obtain ⟨agree, applied⟩ := readers_agree
  refine ⟨plain, part, (agree d _).2 ⟨plain, setup, part, rfl⟩, ?_, applied {} setup _⟩
  refine Option.eq_none_iff_forall_ne_some.2 fun config full => ?_
  exact ((agree _ config).1 full).1 "returnInvalidOnly" (by decide) null

end Config

end FieldRules
