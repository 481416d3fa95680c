import FieldRules.Json.Basic

set_option autoImplicit false

namespace FieldRules

inductive Document where
  | null
  | bool (b : Bool)
  | number (n : Number)
  | text (s : String)
  | array (items : List Document)
  | object (members : List (String × Document))
  -- A number too large, a text that holds half of a surrogate pair, or nesting too deep.
  | unreadable

namespace Document

mutual

def json? : Document → Option Json
  | .null => some .null
  | .bool b => some (.bool b)
  | .number n => some (.number n)
  | .text s => some (.text s)
  | .array items => do some (.array (← jsonItems? items))
  | .object members => do some (.object (SortedMap.ofList (← jsonMembers? members)).entries)
  | .unreadable => none

def jsonItems? : List Document → Option (List Json)
  | [] => some []
  | d :: ds => do some ((← d.json?) :: (← jsonItems? ds))

def jsonMembers? : List (String × Document) → Option (List (String × Json))
  | [] => some []
  | (k, d) :: ms => do some ((k, (← d.json?)) :: (← jsonMembers? ms))

end

mutual

def ofJson : Json → Document
  | .null => .null
  | .bool b => .bool b
  | .number n => .number n
  | .text s => .text s
  | .array items => .array (ofItems items)
  | .object members => .object (ofMembers members)

def ofItems : List Json → List Document
  | [] => []
  | x :: xs => ofJson x :: ofItems xs

def ofMembers : List (String × Json) → List (String × Document)
  | [] => []
  | (k, x) :: ms => (k, ofJson x) :: ofMembers ms

end

end Document

theorem SortedMap.mem_ofList {κ α : Type} [Ord κ] [Std.TransOrd κ] {pairs : List (κ × α)}
    {e : κ × α} (h : e ∈ (SortedMap.ofList pairs).entries) : e ∈ pairs := by
  have fold (pairs : List (κ × α)) (m : SortedMap κ α)
      (h : e ∈ (pairs.foldl (fun m e => m.insert e.1 e.2) m).entries) :
      e ∈ m.entries ∨ e ∈ pairs := by
    induction pairs generalizing m with
    | nil => exact .inl h
    | cons p ps ih =>
      rcases ih _ h with h | h
      · rcases mem_insertEntry h with rfl | h
        · simp
        · exact .inl h
      · simp [h]
  rcases fold pairs .empty h with h | h
  · simp [SortedMap.empty] at h
  · exact h

namespace Document

mutual

theorem ordered_of_json? : ∀ {d : Document} {j : Json}, d.json? = some j → j.Ordered
  | .null, _, h | .bool _, _, h | .number _, _, h | .text _, _, h => by
    cases h; trivial
  | .array items, j, h => by
    simp only [json?, bind, Option.bind_eq_some_iff, Option.some.injEq] at h
    obtain ⟨items', hi, rfl⟩ := h
    simpa [Json.Ordered] using ordered_of_jsonItems? hi
  | .object members, j, h => by
    simp only [json?, bind, Option.bind_eq_some_iff, Option.some.injEq] at h
    obtain ⟨members', hm, rfl⟩ := h
    refine ⟨(SortedMap.ofList members').ascending, Json.orderedMembers_iff.2 fun m h => ?_⟩
    exact Json.orderedMembers_iff.1 (ordered_of_jsonMembers? hm) m (SortedMap.mem_ofList h)
  | .unreadable, _, h => by simp [json?] at h

theorem ordered_of_jsonItems? : ∀ {ds : List Document} {js : List Json},
    jsonItems? ds = some js → Json.OrderedItems js
  | [], _, h => by cases h; trivial
  | d :: ds, js, h => by
    simp only [jsonItems?, bind, Option.bind_eq_some_iff, Option.some.injEq] at h
    obtain ⟨j, hj, rest, hr, rfl⟩ := h
    exact ⟨ordered_of_json? hj, ordered_of_jsonItems? hr⟩

theorem ordered_of_jsonMembers? : ∀ {ds : List (String × Document)} {js : List (String × Json)},
    jsonMembers? ds = some js → Json.OrderedMembers js
  | [], _, h => by cases h; trivial
  | (k, d) :: ds, js, h => by
    simp only [jsonMembers?, bind, Option.bind_eq_some_iff, Option.some.injEq] at h
    obtain ⟨j, hj, rest, hr, rfl⟩ := h
    exact ⟨ordered_of_json? hj, ordered_of_jsonMembers? hr⟩

end

def datum? (d : Document) : Option Datum :=
  match h : d.json? with
  | some j => some ⟨j, ordered_of_json? h⟩
  | none => none

end Document

end FieldRules
