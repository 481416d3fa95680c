import FieldRules.Codec.Rules
import FieldRules.Proofs.Codec.Record

set_option autoImplicit false

namespace FieldRules

theorem Kind.name_inj {j k : Kind} (same : j.name = k.name) : j = k := by
  have read := Kind.ofName?_name j
  rw [same, Kind.ofName?_name] at read
  exact (Option.some.inj read).symm

namespace RuleSpec

theorem ordered_toJson (spec : RuleSpec) : spec.toJson.Ordered := by
  cases spec with
  | piped text => trivial
  | list tokens =>
    simp only [toJson, Json.Ordered]
    induction tokens with
    | nil => trivial
    | cons token tokens ih => exact ⟨trivial, ih⟩

theorem mapM_text?_ofItems (tokens : List String) :
    (Document.ofItems (tokens.map .text)).mapM Document.text? = some tokens := by
  induction tokens with
  | nil => rfl
  | cons token tokens ih =>
    simp [Document.ofItems, Document.ofJson, List.mapM_cons, Document.text?, ih]

theorem ofDocument?_toJson (spec : RuleSpec) : ofDocument? (.ofJson spec.toJson) = some spec := by
  cases spec with
  | piped text => rfl
  | list tokens => simp [toJson, Document.ofJson, ofDocument?, mapM_text?_ofItems]

end RuleSpec

namespace Messages

theorem ordered_toJson (m : Messages) : (Messages.toJson m).Ordered := by
  apply Json.ordered_record
  intro member inside
  obtain ⟨entry, -, rfl⟩ := List.mem_map.1 inside
  trivial

def written (entry : Kind × String) : String × Json := (entry.1.name, .text entry.2)

theorem written_inj {a b : Kind × String} (same : written a = written b) : a = b := by
  obtain ⟨names, texts⟩ := Prod.mk.inj same
  exact Prod.ext (Kind.name_inj names) (Json.text.inj texts)

theorem nodup_written (m : Messages) : ((m.entries.map written).map (·.1)).Nodup := by
  have distinct := List.pairwise_map.1 m.nodup_keys
  rw [List.map_map]
  exact List.pairwise_map.2 (distinct.imp fun other same => other (Kind.name_inj same))

theorem mem_map_written {entry : Kind × String} {entries : List (Kind × String)} :
    written entry ∈ entries.map written ↔ entry ∈ entries := by
  constructor
  next =>
    intro member
    obtain ⟨other, inside, same⟩ := List.mem_map.1 member
    exact written_inj same ▸ inside
  next => exact List.mem_map_of_mem

theorem exists_map_written_eq {members : List (String × Json)}
    (all : ∀ member ∈ members, ∃ entry, written entry = member) :
    ∃ entries : List (Kind × String), entries.map written = members := by
  induction members with
  | nil => exact ⟨[], rfl⟩
  | cons member members ih =>
    obtain ⟨⟨entry, rfl⟩, rest⟩ := List.forall_mem_cons.1 all
    obtain ⟨entries, rfl⟩ := ih rest
    exact ⟨entry :: entries, rfl⟩

theorem entry?_written (entry : Kind × String) :
    ofDocument?.entry? ((written entry).1, .ofJson (written entry).2) = some entry := by
  simp [ofDocument?.entry?, written, Kind.ofName?_name, Document.ofJson, Document.text?]

theorem mapM_entry?_ofMembers (entries : List (Kind × String)) :
    (Document.ofMembers (entries.map written)).mapM ofDocument?.entry? = some entries := by
  induction entries with
  | nil => rfl
  | cons entry entries ih =>
    simp [Document.ofMembers, List.mapM_cons, entry?_written, ih]

theorem ofList_eq_of_map_written {m : Messages} {entries : List (Kind × String)}
    (same : entries.map written = (SortedMap.ofList (m.entries.map written)).entries) :
    SortedMap.ofList entries = m := by
  have distinct : (entries.map (·.1)).Nodup := by
    have names := (SortedMap.ofList (m.entries.map written)).nodup_keys
    rw [SortedMap.keys, ← same, List.map_map] at names
    exact List.pairwise_map.2 ((List.pairwise_map.1 names).imp fun other equal =>
      other (congrArg Kind.name equal))
  refine SortedMap.ext_get? fun k => Option.ext fun v => ?_
  rw [SortedMap.get?_ofList_iff distinct, ← mem_map_written, same,
    SortedMap.mem_ofList_iff m.nodup_written, mem_map_written, SortedMap.mem_entries_iff]

theorem ofDocument?_toJson (m : Messages) :
    Messages.ofDocument? (.ofJson (Messages.toJson m)) = some m := by
  obtain ⟨entries, same⟩ := exists_map_written_eq fun member inside => by
    obtain ⟨entry, -, equal⟩ := List.mem_map.1 ((SortedMap.mem_ofList_iff m.nodup_written).1 inside)
    exact ⟨entry, equal⟩
  calc
    Messages.ofDocument? (.ofJson (Messages.toJson m))
      = ((Document.ofMembers (SortedMap.ofList (m.entries.map written)).entries).mapM
          ofDocument?.entry?).map .ofList := by rfl
    _ = some (.ofList entries) := by rw [← same, mapM_entry?_ofMembers]; rfl
    _ = some m := by rw [ofList_eq_of_map_written same]

theorem nullable_ofDocument?_toJson (m : Messages) :
    Document.nullable Messages.ofDocument? (.ofJson (Messages.toJson m)) = some (some m) := by
  have read := ofDocument?_toJson m
  -- Messages are never written as null.
  exact congrArg (Option.map some) read

end Messages

end FieldRules
