set_option autoImplicit false

namespace FieldRules

variable {κ α β : Type} [Ord κ]

def insertEntry (k : κ) (v : α) : List (κ × α) → List (κ × α)
  | [] => [(k, v)]
  | entry :: rest =>
    match compare k entry.1 with
    | .lt => (k, v) :: entry :: rest
    | .eq => (k, v) :: rest
    | .gt => entry :: insertEntry k v rest

def Ascending (entries : List (κ × α)) : Prop :=
  entries.Pairwise fun a b => compare a.1 b.1 = .lt

theorem mem_insertEntry {k : κ} {v : α} {entries : List (κ × α)} {e : κ × α}
    (h : e ∈ insertEntry k v entries) : e = (k, v) ∨ e ∈ entries := by
  induction entries with
  | nil => simpa [insertEntry] using h
  | cons entry rest ih =>
    unfold insertEntry at h
    split at h <;> grind

variable [Std.TransOrd κ]

theorem Ascending.insertEntry {entries : List (κ × α)} (k : κ) (v : α)
    (h : Ascending entries) : Ascending (insertEntry k v entries) := by
  induction entries with
  | nil => simp [FieldRules.insertEntry, Ascending]
  | cons entry rest ih =>
    obtain ⟨above, tail⟩ := List.pairwise_cons.1 h
    unfold FieldRules.insertEntry
    split
    next below =>
      refine List.pairwise_cons.2 ⟨fun e he => ?_, h⟩
      rcases List.mem_cons.1 he with rfl | he
      · exact below
      · exact Std.TransCmp.lt_trans below (above e he)
    next same =>
      exact List.pairwise_cons.2
        ⟨fun e he => Std.TransCmp.lt_of_eq_of_lt same (above e he), tail⟩
    next after =>
      refine List.pairwise_cons.2 ⟨fun e he => ?_, ih tail⟩
      rcases mem_insertEntry he with rfl | he
      · exact Std.OrientedCmp.gt_iff_lt.1 after
      · exact above e he

-- A finite map, kept in ascending key order.
structure SortedMap (κ α : Type) [Ord κ] where
  entries : List (κ × α)
  ascending : Ascending entries

namespace SortedMap

omit [Std.TransOrd κ] in
@[ext] theorem ext {m n : SortedMap κ α} (h : m.entries = n.entries) : m = n := by
  cases m; cases n; simpa using h

instance [DecidableEq κ] [DecidableEq α] : DecidableEq (SortedMap κ α) := fun m n =>
  decidable_of_iff (m.entries = n.entries) ⟨ext, fun h => h ▸ rfl⟩

def empty : SortedMap κ α := ⟨[], List.Pairwise.nil⟩

def isEmpty (m : SortedMap κ α) : Bool := m.entries.isEmpty

def keys (m : SortedMap κ α) : List κ := m.entries.map (·.1)

def get? (m : SortedMap κ α) (k : κ) : Option α :=
  (m.entries.find? fun e => compare k e.1 == .eq).map (·.2)

def insert (m : SortedMap κ α) (k : κ) (v : α) : SortedMap κ α :=
  ⟨insertEntry k v m.entries, m.ascending.insertEntry k v⟩

def ofList (pairs : List (κ × α)) : SortedMap κ α :=
  -- The last pair of a key wins.
  pairs.foldl (fun m e => m.insert e.1 e.2) empty

theorem find?_insertEntry (k j : κ) (v : α) (entries : List (κ × α)) :
    (insertEntry k v entries).find? (fun e => compare j e.1 == .eq) =
      if compare j k == .eq then some (k, v)
      else entries.find? fun e => compare j e.1 == .eq := by
  induction entries with
  | nil => simp [insertEntry, List.find?_cons]; split <;> simp_all
  | cons entry rest ih =>
    unfold insertEntry
    split
    next => simp only [List.find?_cons]; split <;> simp_all
    next same =>
      have eq_of (h : compare j k = .eq) : compare j entry.1 = .eq :=
        Std.TransCmp.eq_trans h same
      have ne_of (h : compare j k ≠ .eq) : compare j entry.1 ≠ .eq := fun h' =>
        h (Std.TransCmp.eq_trans h' (Std.OrientedCmp.eq_symm same))
      by_cases h : compare j k = .eq <;> simp [h, ne_of]
    next after =>
      have ne_of (h : compare j k = .eq) : compare j entry.1 ≠ .eq := fun h' => by
        have := Std.TransCmp.eq_trans (Std.OrientedCmp.eq_symm h) h'
        simp [this] at after
      rw [List.find?_cons, ih, List.find?_cons]
      by_cases h : compare j k = .eq
      · have := ne_of h
        have hb : (compare j entry.1 == .eq) = false := by simpa using this
        simp [h, hb]
      · simp [h]

theorem get?_insert (m : SortedMap κ α) (k j : κ) (v : α) :
    (m.insert k v).get? j = if compare j k == .eq then some v else m.get? j := by
  simp only [get?, insert, find?_insertEntry]
  split <;> rfl

end SortedMap

end FieldRules
