import FieldRules.SortedMap
import Mathlib.Data.List.Induction

set_option autoImplicit false

namespace FieldRules.SortedMap

variable {κ α : Type} [Ord κ] [Std.TransOrd κ] [Std.LawfulEqOrd κ]

omit [Std.TransOrd κ] [Std.LawfulEqOrd κ] in
@[simp] theorem get?_empty (k : κ) : (empty : SortedMap κ α).get? k = none := rfl

@[simp] theorem get?_insert_self (m : SortedMap κ α) (k : κ) (v : α) :
    (m.insert k v).get? k = some v := by
  simp [get?_insert]

theorem get?_insert_of_ne (m : SortedMap κ α) {j k : κ} (v : α) (other : j ≠ k) :
    (m.insert k v).get? j = m.get? j := by
  simp [get?_insert, other]

omit [Std.TransOrd κ] in
theorem mem_of_get? {m : SortedMap κ α} {k : κ} {v : α} (found : m.get? k = some v) :
    (k, v) ∈ m.entries := by
  obtain ⟨entry, hit, rfl⟩ := Option.map_eq_some_iff.1 found
  have same : k = entry.1 := by simpa using List.find?_some hit
  exact same ▸ List.mem_of_find?_eq_some hit

omit [Std.TransOrd κ] in
theorem get?_of_mem {m : SortedMap κ α} {k : κ} {v : α} (member : (k, v) ∈ m.entries) :
    m.get? k = some v := by
  obtain ⟨entries, ascending⟩ := m
  simp only [get?]
  induction entries with
  | nil => simp at member
  | cons entry rest ih =>
    obtain ⟨above, tail⟩ := List.pairwise_cons.1 ascending
    rcases List.mem_cons.1 member with rfl | member
    next => simp
    next =>
      have other : k ≠ entry.1 := by
        rintro rfl
        simpa using above _ member
      simpa [List.find?_cons, other] using ih tail member

omit [Std.TransOrd κ] in
theorem mem_entries_iff {m : SortedMap κ α} {k : κ} {v : α} :
    (k, v) ∈ m.entries ↔ m.get? k = some v :=
  ⟨get?_of_mem, mem_of_get?⟩

omit [Std.TransOrd κ] in
theorem mem_keys_iff {m : SortedMap κ α} {k : κ} : k ∈ m.keys ↔ ∃ v, m.get? k = some v := by
  simp [keys, ← mem_entries_iff]

omit [Std.TransOrd κ] [Std.LawfulEqOrd κ] in
@[simp] theorem keys_empty : (empty : SortedMap κ α).keys = [] := rfl

theorem mem_keys_insert {m : SortedMap κ α} {j k : κ} {v : α} :
    j ∈ (m.insert k v).keys ↔ j = k ∨ j ∈ m.keys := by
  by_cases same : j = k
  next => simp [mem_keys_iff, same]
  next => simp [mem_keys_iff, get?_insert_of_ne, same]

omit [Std.LawfulEqOrd κ] in
theorem ofList_concat (pairs : List (κ × α)) (k : κ) (v : α) :
    ofList (pairs ++ [(k, v)]) = (ofList pairs).insert k v := by
  simp [ofList]

omit [Std.TransOrd κ] in
theorem nodup_keys (m : SortedMap κ α) : m.keys.Nodup := by
  refine List.pairwise_map.2 (m.ascending.imp fun below same => ?_)
  simp [same] at below

omit [Std.TransOrd κ] in
theorem nodup_entries (m : SortedMap κ α) : m.entries.Nodup := by
  refine m.ascending.imp fun below same => ?_
  simp [same] at below

omit [Std.TransOrd κ] in
theorem filter_key_entries [DecidableEq κ] (m : SortedMap κ α) (k : κ) :
    m.entries.filter (·.1 = k) = ((m.get? k).map (k, ·)).toList := by
  obtain ⟨entries, ascending⟩ := m
  simp only [get?]
  induction entries with
  | nil => rfl
  | cons entry rest ih =>
    obtain ⟨above, tail⟩ := List.pairwise_cons.1 ascending
    by_cases same : entry.1 = k
    next =>
      subst same
      have other : rest.filter (·.1 = entry.1) = [] := by
        refine List.filter_eq_nil_iff.2 fun e member equal => ?_
        have below := above e member
        simp [of_decide_eq_true equal] at below
      simp [other]
    next => simpa [List.find?_cons, same, Ne.symm same] using ih tail

theorem ext_get? {m n : SortedMap κ α} (same : ∀ k, m.get? k = n.get? k) : m = n := by
  -- Two ascending lists with the same entries are one list.
  have perm : m.entries.Perm n.entries := by
    refine (List.perm_ext_iff_of_nodup m.nodup_entries n.nodup_entries).2 fun entry => ?_
    rw [← Prod.eta entry, mem_entries_iff, mem_entries_iff, same]
  refine ext (perm.eq_of_pairwise (fun a b _ _ below above => ?_) m.ascending n.ascending)
  simp [Std.OrientedCmp.gt_iff_lt.2 above] at below

theorem keys_ext {m n : SortedMap κ α} (same : ∀ k, k ∈ m.keys ↔ k ∈ n.keys) :
    m.keys = n.keys := by
  -- Ascending lists again, of keys alone.
  have perm : m.keys.Perm n.keys :=
    (List.perm_ext_iff_of_nodup m.nodup_keys n.nodup_keys).2 same
  have ascending (m : SortedMap κ α) : m.keys.Pairwise fun j k => compare j k = .lt :=
    List.pairwise_map.2 m.ascending
  refine perm.eq_of_pairwise (fun j k _ _ below above => ?_) (ascending m) (ascending n)
  simp [Std.OrientedCmp.gt_iff_lt.2 above] at below

theorem get?_ofList_iff {pairs : List (κ × α)} (distinct : (pairs.map (·.1)).Nodup) {k : κ}
    {v : α} : (ofList pairs).get? k = some v ↔ (k, v) ∈ pairs := by
  induction pairs using List.reverseRecOn with
  | nil => simp [ofList]
  | append_singleton pairs pair ih =>
    obtain ⟨j, w⟩ := pair
    simp only [List.map_append, List.map_cons, List.map_nil, List.nodup_append] at distinct
    rw [ofList_concat]
    by_cases last : k = j
    next =>
      subst last
      have fresh : ∀ v, (k, v) ∉ pairs := fun v member =>
        distinct.2.2 k (List.mem_map_of_mem member) k (by simp) rfl
      simp [fresh, eq_comm]
    next => simp [get?_insert_of_ne _ _ last, ih distinct.1, last]

theorem mem_ofList_iff {pairs : List (κ × α)} (distinct : (pairs.map (·.1)).Nodup)
    {entry : κ × α} : entry ∈ (ofList pairs).entries ↔ entry ∈ pairs := by
  rw [← Prod.eta entry, mem_entries_iff, get?_ofList_iff distinct]

theorem ofList_entries (m : SortedMap κ α) : ofList m.entries = m := by
  refine ext_get? fun k => Option.ext fun v => ?_
  rw [get?_ofList_iff m.nodup_keys, mem_entries_iff]

theorem mem_keys_ofList_iff {pairs : List (κ × α)} {k : κ} :
    k ∈ (ofList pairs).keys ↔ k ∈ pairs.map (·.1) := by
  induction pairs using List.reverseRecOn with
  | nil => simp [ofList]
  | append_singleton pairs pair ih =>
    rw [ofList_concat, mem_keys_insert, ih]
    simp [or_comm]

theorem get?_ofList [DecidableEq κ] (pairs : List (κ × α)) (k : κ) :
    (ofList pairs).get? k = (pairs.filter (·.1 = k)).getLast?.map (·.2) := by
  induction pairs using List.reverseRecOn with
  | nil => simp [ofList]
  | append_singleton pairs pair ih =>
    rw [ofList_concat]
    by_cases last : pair.1 = k
    next => simp [last]
    next => simp [get?_insert_of_ne _ _ (Ne.symm last), ih, last]

-- Pairs with other keys may stand anywhere between those of one key.
theorem ofList_congr [DecidableEq κ] {pairs others : List (κ × α)}
    (same : ∀ k, pairs.filter (·.1 = k) = others.filter (·.1 = k)) :
    ofList pairs = ofList others := by
  apply ext_get?
  intro k
  rw [get?_ofList, get?_ofList, same]

end FieldRules.SortedMap
