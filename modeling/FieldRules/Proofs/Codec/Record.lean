import FieldRules.Codec.Record
import FieldRules.Proofs.SortedMap

set_option autoImplicit false

namespace FieldRules

theorem Json.ordered_record {members : List (String × Json)}
    (ordered : ∀ m ∈ members, m.2.Ordered) : (record members).Ordered := by
  refine ⟨(SortedMap.ofList members).ascending, orderedMembers_iff.2 ?_⟩
  intro m inside
  exact ordered m (SortedMap.mem_ofList inside)

theorem Json.ordered_record_append {α : Type} {members : List (String × Json)}
    {write : α → String × Json} (ordered : ∀ m ∈ members, m.2.Ordered)
    (rest : ∀ a, (write a).2.Ordered) (o : Option α) :
    (record (members ++ (o.map write).toList)).Ordered := by
  apply ordered_record
  intro m inside
  rcases List.mem_append.1 inside with first | last
  · exact ordered m first
  · obtain ⟨a, -, rfl⟩ := Option.map_eq_some_iff.1 (Option.mem_toList.1 last)
    exact rest a

theorem Json.ordered_ofOption {α : Type} {write : α → Json} (ordered : ∀ a, (write a).Ordered)
    (o : Option α) : (ofOption write o).Ordered := by
  cases o with
  | none => trivial
  | some a => exact ordered a

namespace Document

theorem ofMembers_eq_map (members : List (String × Json)) :
    ofMembers members = members.map fun m => (m.1, ofJson m.2) := by
  induction members with
  | nil => rfl
  | cons m ms ih => simp [ofMembers, ih]

theorem member?_ofMembers (m : SortedMap String Json) (name : String) :
    member? (ofMembers m.entries) name = some ((m.get? name).map ofJson) := by
  -- A map has one entry for a name at most, so the name is never repeated.
  have found := m.filter_key_entries name
  simp only [member?, ofMembers_eq_map, List.filter_map, Function.comp_def, found]
  cases m.get? name <;> rfl

theorem fields?_ofJson_record (names : List String) (members : List (String × Json)) :
    fields? names (ofJson (.record members)) =
      some (names.map fun name => ((SortedMap.ofList members).get? name).map ofJson) := by
  simp only [Json.record, ofJson, fields?]
  induction names with
  | nil => rfl
  | cons name names ih => simp [List.mapM_cons, member?_ofMembers, ih]

theorem fields?_ofJson_record_of_all {members : List (String × Json)}
    (distinct : (members.map (·.1)).Nodup) :
    fields? (members.map (·.1)) (ofJson (.record members)) =
      some (members.map fun m => some (ofJson m.2)) := by
  rw [fields?_ofJson_record, List.map_map]
  congr 1
  apply List.map_congr_left
  intro m inside
  have found := (SortedMap.get?_ofList_iff distinct).2 (by exact inside)
  simp [found]

section Missing

variable {α : Type} {read? : Document → Option α} {write : α → Json}

theorem nullable_ofJson_ofOption
    (written : ∀ a, nullable read? (ofJson (write a)) = some (some a)) (o : Option α) :
    nullable read? (ofJson (.ofOption write o)) = some o := by
  cases o with
  | none => rfl
  | some a => exact written a

theorem fieldOr_nullable_map
    (written : ∀ a, nullable read? (ofJson (write a)) = some (some a)) (o : Option α) :
    fieldOr none (nullable read?) (o.map fun a => ofJson (write a)) = some o := by
  cases o with
  | none => rfl
  | some a => exact written a

end Missing

end Document

end FieldRules
