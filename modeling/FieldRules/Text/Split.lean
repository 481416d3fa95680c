set_option autoImplicit false

namespace FieldRules

def splitAt (sep : Char) : List Char → List (List Char)
  -- There is one piece more than there are separators.
  | [] => [[]]
  | c :: cs =>
    if c = sep then [] :: splitAt sep cs
    else match splitAt sep cs with
      | [] => [[c]]
      | piece :: pieces => (c :: piece) :: pieces

def splitOnce (sep : Char) : List Char → Option (List Char × List Char)
  | [] => none
  | c :: cs =>
    if c = sep then some ([], cs)
    else (splitOnce sep cs).map fun (before, after) => (c :: before, after)

def occursIn (word : List Char) : List Char → Bool
  | [] => word.isEmpty
  | c :: cs => word.isPrefixOf (c :: cs) || occursIn word cs

theorem splitAt_ne_nil (sep : Char) (cs : List Char) : splitAt sep cs ≠ [] := by
  cases cs with
  | nil => simp [splitAt]
  | cons c cs => unfold splitAt; split <;> (try split) <;> simp

theorem intercalate_splitAt (sep : Char) (cs : List Char) :
    List.intercalate [sep] (splitAt sep cs) = cs := by
  induction cs with
  | nil => rfl
  | cons c cs ih =>
    unfold splitAt
    split
    next h =>
      obtain ⟨piece, pieces, e⟩ := List.exists_cons_of_ne_nil (splitAt_ne_nil sep cs)
      rw [e] at ih ⊢
      simp [List.intercalate, h] at ih ⊢
      exact ih
    next =>
      split
      next e => exact absurd e (splitAt_ne_nil sep cs)
      next piece pieces e =>
        rw [e] at ih
        cases pieces <;> simp [List.intercalate] at ih ⊢ <;> exact ih

theorem splitOnce_eq_some {sep : Char} {cs before after : List Char}
    (h : splitOnce sep cs = some (before, after)) :
    cs = before ++ sep :: after ∧ sep ∉ before := by
  induction cs generalizing before with
  | nil => simp [splitOnce] at h
  | cons c cs ih =>
    unfold splitOnce at h
    split at h
    next e => simp at h; simp [e, h]
    next e =>
      obtain ⟨⟨b, a⟩, hb, h⟩ := Option.map_eq_some_iff.1 h
      simp at h
      obtain ⟨rfl, rfl⟩ := h
      obtain ⟨rfl, hn⟩ := ih hb
      exact ⟨rfl, by simp [hn, Ne.symm e]⟩

end FieldRules
