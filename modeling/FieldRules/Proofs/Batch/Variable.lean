import FieldRules.Proofs.Batch.Word
import FieldRules.Proofs.Codec.Rules
import FieldRules.Proofs.Json.Object

set_option autoImplicit false

namespace FieldRules

section Readers

def boolWords : Bool → List String
  | true => ["true", "1", "yes", "on"]
  | false => ["false", "0", "no", "off"]

def WritesBool (text : String) (b : Bool) : Prop := ∃ word ∈ boolWords b, Spells text word

def WritesPolicy (text : String) (policy : MalformedPolicy) : Prop := Spells text policy.name

-- Of a name that is repeated the last text counts.
def WritesMessages (text : String) (messages : Messages) : Prop :=
  ∃ entries : List (Kind × String),
    Document.TextObject text.toList (entries.map fun e => (e.1.name, e.2)) ∧
      messages = .ofList entries

theorem writesBool_iff (text : String) (b : Bool) :
    WritesBool text b ↔ String.ofList (plainWord text) ∈ boolWords b := by
  have solid : ∀ word ∈ boolWords b, ∀ l ∈ word.toList, isBlank l = false := by
    cases b <;> simp [boolWords, isBlank, blankRanges]
  constructor
  next =>
    rintro ⟨word, member, spells⟩
    rwa [(plainWord_eq_iff (solid word member) text).2 spells]
  next =>
    intro member
    exact ⟨_, member, (plainWord_eq_iff (solid _ member) text).1 rfl⟩

theorem writesPolicy_iff (text : String) (policy : MalformedPolicy) :
    WritesPolicy text policy ↔ String.ofList (plainWord text) = policy.name := by
  have solid : ∀ l ∈ policy.name.toList, isBlank l = false := by
    cases policy <;> simp [MalformedPolicy.name, isBlank, blankRanges]
  exact (plainWord_eq_iff solid text).symm

theorem readBool_eq (field text : String) :
    readBool field text =
      if String.ofList (plainWord text) ∈ boolWords true then .ok true
      else if String.ofList (plainWord text) ∈ boolWords false then .ok false
      else .error (.invalidValue field text "a boolean (true/false, 1/0, yes/no, on/off)") :=
  if_congr List.contains_iff_mem rfl (if_congr List.contains_iff_mem rfl rfl)

theorem readBool_eq_ok_iff (field text : String) (b : Bool) :
    readBool field text = .ok b ↔ WritesBool text b := by
  have apart : ∀ word ∈ boolWords true, word ∉ boolWords false := by decide
  rw [writesBool_iff, readBool_eq]
  split
  next yes =>
    cases b with
    | true => simp [yes]
    | false => simp [apart _ yes]
  next notYes =>
    split
    next no =>
      cases b with
      | true => simp [notYes]
      | false => simp [no]
    next notNo =>
      cases b with
      | true => simp [notYes]
      | false => simp [notNo]

theorem MalformedPolicy.ofName?_eq_some_iff (name : String) (policy : MalformedPolicy) :
    ofName? name = some policy ↔ name = policy.name := by
  unfold ofName?
  cases policy <;> split <;> simp_all [MalformedPolicy.name]

theorem MalformedPolicy.read_eq_ok_iff (text : String) (policy : MalformedPolicy) :
    MalformedPolicy.read text = .ok policy ↔ WritesPolicy text policy := by
  rw [writesPolicy_iff, ← ofName?_eq_some_iff, MalformedPolicy.read]
  split
  next found => simp [found]
  next none => simp [none]

namespace Messages

theorem entry?_eq_some_iff (member : String × Document) (entry : Kind × String) :
    ofDocument?.entry? member = some entry ↔ member = (entry.1.name, .text entry.2) := by
  obtain ⟨name, d⟩ := member
  obtain ⟨kind, text⟩ := entry
  constructor
  next =>
    intro read
    simp only [ofDocument?.entry?, bind, Option.bind_eq_some_iff, Option.some.injEq,
      Prod.mk.injEq] at read
    obtain ⟨_, named, _, given, rfl, rfl⟩ := read
    cases d <;> simp_all [Document.text?, Kind.name_of_ofName? named]
  next =>
    intro same
    obtain ⟨rfl, rfl⟩ := Prod.mk.inj same
    simp [ofDocument?.entry?, Kind.ofName?_name, Document.text?]

theorem mapM_entry?_eq_some_iff (members : List (String × Document))
    (entries : List (Kind × String)) :
    members.mapM ofDocument?.entry? = some entries ↔
      members = entries.map fun e => (e.1.name, .text e.2) := by
  induction members generalizing entries with
  | nil => cases entries <;> simp
  | cons member members ih =>
    simp only [List.mapM_cons, bind, Option.bind_eq_some_iff, entry?_eq_some_iff, ih]
    cases entries with
    | nil => simp
    | cons entry entries => simp

theorem ofDocument?_eq_some_iff (d : Document) (messages : Messages) :
    Messages.ofDocument? d = some messages ↔
      ∃ entries : List (Kind × String),
        d = .object (entries.map fun e => (e.1.name, .text e.2)) ∧ messages = .ofList entries := by
  cases d with
  | object members =>
    simp [ofDocument?, mapM_entry?_eq_some_iff, eq_comm]
  | _ => simp [ofDocument?]

theorem read_eq_ok_iff (text : String) (messages : Messages) :
    Messages.read text = .ok messages ↔ WritesMessages text messages := by
  have members (entries : List (Kind × String)) :
      (entries.map fun e => (e.1.name, Document.text e.2)) =
        Document.textMembers (entries.map fun e => (e.1.name, e.2)) := by
    simp [Document.textMembers, Function.comp_def]
  have read : (Document.read? text.toList).bind Messages.ofDocument? = some messages ↔
      WritesMessages text messages := by
    rw [WritesMessages, Option.bind_eq_some_iff]
    simp only [ofDocument?_eq_some_iff, members, ← Document.read?_eq_object_iff]
    constructor
    next =>
      rintro ⟨d, read, entries, rfl, same⟩
      exact ⟨entries, read, same⟩
    next =>
      rintro ⟨entries, read, same⟩
      exact ⟨_, read, entries, rfl, same⟩
  rw [← read, Messages.read]
  split
  next found => simp [found]
  next none => simp [none]

end Messages

end Readers

structure Variable where
  name : String
  Readable : String → Prop
  error : String → ConfigError

namespace Variable

def bool (name field : String) : Variable where
  name := name
  Readable text := ∃ b, WritesBool text b
  error text := .invalidValue field text "a boolean (true/false, 1/0, yes/no, on/off)"

def policy (name : String) : Variable where
  name := name
  Readable text := ∃ policy, WritesPolicy text policy
  error text := .invalidValue "malformed_rules" text "skip or reject"

def messages (name : String) : Variable where
  name := name
  Readable text := ∃ messages, WritesMessages text messages
  error _ := .unreadable "set_message"

structure ReadBy {α : Type} (v : Variable) (read : String → Except ConfigError α) : Prop where
  ok : ∀ text, (∃ a, read text = .ok a) ↔ v.Readable text
  error : ∀ text e, read text = .error e → e = v.error text

theorem readBy_bool (name field : String) : (bool name field).ReadBy (readBool field) where
  ok text := exists_congr (readBool_eq_ok_iff field text)
  error text e refused := by
    rw [readBool_eq] at refused
    split at refused
    next => cases refused
    next =>
      split at refused
      next => cases refused
      next => exact (Except.error.inj refused).symm

theorem readBy_policy (name : String) : (policy name).ReadBy MalformedPolicy.read where
  ok text := exists_congr (MalformedPolicy.read_eq_ok_iff text)
  error text e refused := by
    rw [MalformedPolicy.read] at refused
    split at refused
    next => cases refused
    next => exact (Except.error.inj refused).symm

theorem readBy_messages (name : String) : (messages name).ReadBy Messages.read where
  ok text := exists_congr (Messages.read_eq_ok_iff text)
  error text e refused := by
    rw [Messages.read] at refused
    split at refused
    next => cases refused
    next => exact (Except.error.inj refused).symm

end Variable

end FieldRules
