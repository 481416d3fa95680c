import FieldRules.Proofs.Json.Spelling
import Mathlib.Data.List.TakeWhile

set_option autoImplicit false

namespace FieldRules.Document

-- A name and a text, each in quotes with gaps around it, and a colon between them.
inductive TextMember : List Char → String × String → Prop
  | mk {first second : List Char} {name s : String} (quotedName : TextItem first name)
      (quotedText : TextItem second s) : TextMember (first ++ ':' :: second) (name, s)

inductive TextObject (text : List Char) : List (String × String) → Prop
  | empty {front gap back : List Char} (gapFront : ∀ c ∈ front, isGap c = true)
      (gaps : ∀ c ∈ gap, isGap c = true) (gapBack : ∀ c ∈ back, isGap c = true)
      (whole : text = front ++ '{' :: (gap ++ '}' :: back)) : TextObject text []
  | members {front back : List Char} {pieces : List (List Char)} {pairs : List (String × String)}
      (gapFront : ∀ c ∈ front, isGap c = true) (gapBack : ∀ c ∈ back, isGap c = true)
      (nonempty : pieces ≠ []) (written : List.Forall₂ TextMember pieces pairs)
      (whole : text = front ++ '{' :: (List.intercalate [','] pieces ++ '}' :: back)) :
      TextObject text pairs

def textMembers (pairs : List (String × String)) : List (String × Document) :=
  pairs.map fun pair => (pair.1, .text pair.2)

theorem exists_skipGap (cs : List Char) :
    ∃ front, (∀ c ∈ front, isGap c = true) ∧ cs = front ++ skipGap cs :=
  ⟨cs.takeWhile isGap, List.all_eq_true.1 List.all_takeWhile, List.takeWhile_append_dropWhile.symm⟩

theorem takeMembers_skipGap (fuel room : Nat) (cs : List Char) :
    takeMembers fuel room (skipGap cs) = takeMembers fuel room cs := by
  cases fuel with
  | zero => simp [takeMembers]
  | succ fuel => rw [takeMembers, takeMembers, skipGap_skipGap]

-- What is in front when a value is taken, for texts and objects.
inductive Taken (fuel room : Nat) (cs rest : List Char) : Document → Prop
  | text {quoted : List Char} {s : String} (quote : skipGap cs = '"' :: quoted)
      (taken : takeText quoted = some (some s, rest)) : Taken fuel room cs rest (.text s)
  | noMembers {inner : List Char} (brace : skipGap cs = '{' :: inner)
      (closed : skipGap inner = '}' :: rest) : Taken fuel room cs rest (.object [])
  | members {inner : List Char} {members : List (String × Document)}
      (brace : skipGap cs = '{' :: inner)
      (taken : takeMembers fuel (room - 1) inner = some (some members, rest)) :
      Taken fuel room cs rest (.object members)
  | other {d : Document} (noText : ∀ s, d ≠ .text s) (noObject : ∀ members, d ≠ .object members) :
      Taken fuel room cs rest d

theorem taken_of_takeValue {fuel room : Nat} {cs rest : List Char} {d : Document}
    (read : takeValue (fuel + 1) room cs = some (d, rest)) : Taken fuel room cs rest d := by
  rw [takeValue] at read
  split at read
  next =>
    simp only [Option.some.injEq, Prod.mk.injEq] at read
    obtain ⟨rfl, rfl⟩ := read
    exact .other (by simp) (by simp)
  next =>
    simp only [Option.some.injEq, Prod.mk.injEq] at read
    obtain ⟨rfl, rfl⟩ := read
    exact .other (by simp) (by simp)
  next =>
    simp only [Option.some.injEq, Prod.mk.injEq] at read
    obtain ⟨rfl, rfl⟩ := read
    exact .other (by simp) (by simp)
  next quoted quote =>
    simp only [bind, Option.bind_eq_some_iff, Option.some.injEq, Prod.mk.injEq, Prod.exists] at read
    obtain ⟨s, _, taken, rfl, rfl⟩ := read
    cases s with
    | none => exact .other (by simp) (by simp)
    | some s => exact .text quote taken
  next =>
    split at read
    next =>
      simp only [Option.some.injEq, Prod.mk.injEq] at read
      obtain ⟨rfl, rfl⟩ := read
      split <;> exact .other (by simp) (by simp)
    next =>
      simp only [bind, Option.bind_eq_some_iff, Option.some.injEq, Prod.mk.injEq] at read
      obtain ⟨_, _, rfl, _⟩ := read
      split <;> exact .other (by simp) (by simp)
  next inner brace =>
    split at read
    next closed =>
      simp only [Option.some.injEq, Prod.mk.injEq] at read
      obtain ⟨rfl, rfl⟩ := read
      split
      next => exact .other (by simp) (by simp)
      next => exact .noMembers brace closed
    next =>
      simp only [bind, Option.bind_eq_some_iff, Prod.exists, takeMembers_skipGap] at read
      obtain ⟨members, _, taken, read⟩ := read
      split at read
      next =>
        simp only [Option.some.injEq, Prod.mk.injEq] at read
        obtain ⟨rfl, rfl⟩ := read
        split
        next => exact .other (by simp) (by simp)
        next => exact .members brace taken
      next =>
        simp only [Option.some.injEq, Prod.mk.injEq] at read
        obtain ⟨rfl, rfl⟩ := read
        exact .other (by simp) (by simp)
  next =>
    simp only [bind, Option.bind_eq_some_iff, Option.some.injEq, Prod.mk.injEq] at read
    obtain ⟨⟨n, _⟩, _, rfl, _⟩ := read
    cases n <;> exact .other (by simp) (by simp)

theorem exists_textSpelling_of_takeValue {fuel room : Nat} {cs rest : List Char} {s : String}
    (read : takeValue fuel room cs = some (.text s, rest)) :
    ∃ front written, (∀ c ∈ front, isGap c = true) ∧
      cs = front ++ '"' :: (written ++ '"' :: rest) ∧ TextSpelling s.toList written := by
  cases fuel with
  | zero => simp [takeValue] at read
  | succ fuel =>
    cases taken_of_takeValue read with
    | text quote taken =>
      obtain ⟨front, gaps, text⟩ := exists_skipGap cs
      obtain ⟨written, rfl, spelling⟩ := exists_textSpelling taken
      rw [quote] at text
      exact ⟨front, written, gaps, text, spelling⟩
    | other noText => exact absurd rfl (noText s)

theorem textMembers_eq_cons_iff {pairs : List (String × String)} {name : String} {d : Document}
    {members : List (String × Document)} :
    textMembers pairs = (name, d) :: members ↔
      ∃ s later, pairs = (name, s) :: later ∧ d = .text s ∧ members = textMembers later := by
  cases pairs with
  | nil => simp [textMembers]
  | cons pair pairs =>
    obtain ⟨name', s⟩ := pair
    simp only [textMembers, List.map_cons, List.cons.injEq, Prod.mk.injEq]
    constructor
    · rintro ⟨⟨rfl, rfl⟩, rfl⟩
      exact ⟨s, pairs, ⟨⟨rfl, rfl⟩, rfl⟩, rfl, rfl⟩
    · rintro ⟨_, _, ⟨⟨rfl, rfl⟩, rfl⟩, rfl, rfl⟩
      exact ⟨⟨rfl, rfl⟩, rfl⟩

theorem exists_textMember {fuel room : Nat} {cs quoted left valued left' : List Char}
    {name s : String} (opened : skipGap cs = '"' :: quoted)
    (taken : takeText quoted = some (some name, left)) (colon : skipGap left = ':' :: valued)
    (value : takeValue fuel room valued = some (.text s, left')) :
    ∃ piece, TextMember piece (name, s) ∧ cs = piece ++ skipGap left' := by
  obtain ⟨front, gapFront, text⟩ := exists_skipGap cs
  obtain ⟨back, gapBack, behind⟩ := exists_skipGap left
  obtain ⟨front', written', gapFront', text', spelling'⟩ := exists_textSpelling_of_takeValue value
  obtain ⟨back', gapBack', behind'⟩ := exists_skipGap left'
  obtain ⟨written, rfl, spelling⟩ := exists_textSpelling taken
  refine ⟨_, .mk (.quoted gapFront gapBack spelling) (.quoted gapFront' gapBack' spelling'), ?_⟩
  rw [opened, behind, colon, text', behind'] at text
  simpa using text

theorem exists_textMembers_of_takeMembers {fuel room : Nat} {cs rest : List Char}
    {pairs : List (String × String)}
    (read : takeMembers fuel room cs = some (some (textMembers pairs), rest)) :
    ∃ pieces, pieces ≠ [] ∧ List.Forall₂ TextMember pieces pairs ∧
      cs = List.intercalate [','] pieces ++ '}' :: rest := by
  induction fuel generalizing cs pairs with
  | zero => simp [takeMembers] at read
  | succ fuel ih =>
    rw [takeMembers] at read
    split at read
    next quoted opened =>
      simp only [bind, Option.bind_eq_some_iff, Prod.exists] at read
      obtain ⟨name, left, taken, read⟩ := read
      split at read
      next valued colon =>
        simp only [Option.bind_eq_some_iff, Prod.exists] at read
        obtain ⟨d, left', value, read⟩ := read
        split at read
        next behind comma =>
          simp only [Option.bind_eq_some_iff, Prod.exists, Option.some.injEq, Prod.mk.injEq] at read
          obtain ⟨members, _, later, ⟨name, rfl, members, rfl, same⟩, rfl⟩ := read
          obtain ⟨s, others, rfl, rfl, rfl⟩ := textMembers_eq_cons_iff.1 same.symm
          obtain ⟨piece, member, text⟩ := exists_textMember opened taken colon value
          obtain ⟨pieces, some, written, text'⟩ := ih later
          obtain ⟨next, pieces, rfl⟩ := List.exists_cons_of_ne_nil some
          refine ⟨piece :: next :: pieces, by simp, .cons member written, ?_⟩
          rw [text, comma, text', List.intercalate_cons_cons]
          simp
        next behind brace =>
          simp only [Option.some.injEq, Prod.mk.injEq, Option.map_eq_some_iff] at read
          obtain ⟨⟨name, rfl, same⟩, rfl⟩ := read
          obtain ⟨s, others, rfl, rfl, none⟩ := textMembers_eq_cons_iff.1 same.symm
          obtain rfl : others = [] := by simpa [textMembers] using none
          obtain ⟨piece, member, text⟩ := exists_textMember opened taken colon value
          refine ⟨[piece], by simp, .cons member .nil, ?_⟩
          rw [text, brace]
          simp
        next => simp at read
      next => simp at read
    next => simp at read

theorem textObject_of_takeValue {fuel room : Nat} {cs rest : List Char}
    {pairs : List (String × String)} (gapBack : ∀ c ∈ rest, isGap c = true)
    (read : takeValue fuel room cs = some (.object (textMembers pairs), rest)) :
    TextObject cs pairs := by
  obtain ⟨front, gapFront, text⟩ := exists_skipGap cs
  cases fuel with
  | zero => simp [takeValue] at read
  | succ fuel =>
    have taken := taken_of_takeValue read
    generalize members : textMembers pairs = ms at taken
    cases taken with
    | @noMembers inner brace closed =>
      obtain rfl : pairs = [] := by simpa [textMembers] using members
      obtain ⟨gap, gaps, inside⟩ := exists_skipGap inner
      rw [brace, inside, closed] at text
      exact .empty gapFront gaps gapBack text
    | members brace taken =>
      rw [← members] at taken
      obtain ⟨pieces, some, written, inside⟩ := exists_textMembers_of_takeMembers taken
      rw [brace, inside] at text
      exact .members gapFront gapBack some written text
    | other _ noObject => exact absurd rfl (noObject ms)

theorem TextMember.read {piece : List Char} {name s : String} (member : TextMember piece (name, s))
    {stop : Char} (solid : isGap stop = false) (fuel room : Nat) (rest : List Char) :
    ∃ quoted left valued left', skipGap (piece ++ stop :: rest) = '"' :: quoted ∧
      takeText quoted = some (some name, left) ∧ skipGap left = ':' :: valued ∧
      takeValue (fuel + 1) room valued = some (.text s, left') ∧
      skipGap left' = stop :: rest := by
  cases member with
  | mk quotedName quotedText =>
    cases quotedName with
    | @quoted front written back _ gapFront gapBack spelling =>
      cases quotedText with
      | @quoted front' written' back' _ gapFront' gapBack' spelling' =>
        have named := spelling.takeText
          (back ++ ':' :: (front' ++ '"' :: (written' ++ '"' :: (back' ++ stop :: rest))))
        have valued := spelling'.takeText (back' ++ stop :: rest)
        rw [String.ofList_toList] at named valued
        refine ⟨_, _, _, _, ?_, named, ?_, takeValue_of_takeText gapFront' valued fuel room, ?_⟩
        · simp only [List.append_assoc, List.cons_append, List.nil_append, skipGap_append gapFront]
          exact skipGap_of_solid (by decide) _
        · rw [skipGap_append gapBack]
          exact skipGap_of_solid (by decide) _
        · rw [skipGap_append gapBack']
          exact skipGap_of_solid solid _

theorem takeMembers_of_textMembers {pieces : List (List Char)} {pairs : List (String × String)}
    (written : List.Forall₂ TextMember pieces pairs) (nonempty : pieces ≠ []) {fuel : Nat}
    (enough : pieces.length < fuel) (room : Nat) (rest : List Char) :
    takeMembers fuel room (List.intercalate [','] pieces ++ '}' :: rest) =
      some (some (textMembers pairs), rest) := by
  induction written generalizing fuel with
  | nil => contradiction
  | @cons piece pair pieces pairs member written ih =>
    obtain ⟨fuel, rfl⟩ : ∃ k, fuel = k + 2 := ⟨fuel - 2, by simp at enough; omega⟩
    cases written with
    | nil =>
      have solid : isGap '}' = false := by decide
      obtain ⟨quoted, left, valued, left', opened, taken, colon, value, brace⟩ :=
        member.read solid fuel room rest
      simp [takeMembers, opened, taken, colon, value, brace, textMembers]
    | @cons next pair' pieces pairs member' written =>
      have fewer : (next :: pieces).length < fuel + 1 := by
        simp at enough ⊢
        omega
      have later := ih (by simp) fewer
      have solid : isGap ',' = false := by decide
      obtain ⟨quoted, left, valued, left', opened, taken, colon, value, comma⟩ :=
        member.read solid fuel room
          (List.intercalate [','] (next :: pieces) ++ '}' :: rest)
      rw [List.intercalate_cons_cons, takeMembers]
      simp [opened, taken, colon, value, comma, later, textMembers]

theorem takeMembers_of_brace {fuel room : Nat} {cs rest : List Char}
    (brace : skipGap cs = '}' :: rest) : takeMembers fuel room cs = none := by
  cases fuel with
  | zero => simp [takeMembers]
  | succ fuel => simp [takeMembers, brace]

theorem takeValue_object {fuel room : Nat} {front text rest : List Char}
    {members : List (String × Document)} (gapFront : ∀ c ∈ front, isGap c = true)
    (taken : takeMembers fuel room text = some (some members, rest)) :
    takeValue (fuel + 1) (room + 1) (front ++ '{' :: text) = some (.object members, rest) := by
  have solid : skipGap ('{' :: text) = '{' :: text := skipGap_of_solid (by decide) text
  simp only [takeValue, skipGap_append gapFront, solid]
  split
  next brace => simp [takeMembers_of_brace brace] at taken
  next => simp [takeMembers_skipGap, taken]

theorem takeValue_no_members {fuel room : Nat} {front gap rest : List Char}
    (gapFront : ∀ c ∈ front, isGap c = true) (gaps : ∀ c ∈ gap, isGap c = true) :
    takeValue (fuel + 1) (room + 1) (front ++ '{' :: (gap ++ '}' :: rest)) =
      some (.object [], rest) := by
  have solid (text : List Char) : skipGap ('{' :: text) = '{' :: text :=
    skipGap_of_solid (by decide) text
  have closed : skipGap ('}' :: rest) = '}' :: rest := skipGap_of_solid (by decide) rest
  simp [takeValue, skipGap_append gapFront, solid, skipGap_append gaps, closed]

theorem TextObject.takeValue {text : List Char} {pairs : List (String × String)}
    (object : TextObject text pairs) :
    ∃ back, (∀ c ∈ back, isGap c = true) ∧
      Document.takeValue (2 * text.length + 2) 127 text =
        some (.object (textMembers pairs), back) := by
  cases object with
  | @empty front gap back gapFront gaps gapBack whole =>
    refine ⟨back, gapBack, ?_⟩
    rw [whole]
    exact takeValue_no_members gapFront gaps
  | @members front back pieces _ gapFront gapBack nonempty written whole =>
    have enough : pieces.length < 2 * text.length + 1 := by
      have size := length_le_intercalate pieces
      have length := congrArg List.length whole
      simp at length
      omega
    have taken := takeMembers_of_textMembers written nonempty enough 126 back
    have value := takeValue_object gapFront taken
    rw [← whole] at value
    exact ⟨back, gapBack, value⟩

theorem skipGap_eq_nil_iff {cs : List Char} : skipGap cs = [] ↔ ∀ c ∈ cs, isGap c = true :=
  List.dropWhile_eq_nil_iff

-- The texts that are read as an object of texts are the ones that write it.
theorem read?_eq_object_iff {text : List Char} {pairs : List (String × String)} :
    read? text = some (.object (textMembers pairs)) ↔ TextObject text pairs := by
  constructor
  next =>
    intro read
    simp only [read?, bind, Option.bind_eq_some_iff, Prod.exists] at read
    obtain ⟨d, rest, value, read⟩ := read
    split at read
    next gap =>
      obtain rfl := Option.some.inj read
      exact textObject_of_takeValue (skipGap_eq_nil_iff.1 gap) value
    next => simp at read
  next =>
    intro object
    obtain ⟨back, gapBack, value⟩ := object.takeValue
    simp [read?, value, skipGap_eq_nil_iff.2 gapBack]

end FieldRules.Document
