import FieldRules.Proofs.Text.Blank
import FieldRules.Text.Split

set_option autoImplicit false

namespace FieldRules

variable {sep : Char}

theorem splitAt_of_not_mem {piece : List Char} (free : sep ∉ piece) :
    splitAt sep piece = [piece] := by
  induction piece with
  | nil => rfl
  | cons c cs ih =>
    simp only [List.mem_cons, not_or] at free
    simp [splitAt, Ne.symm free.1, ih free.2]

theorem not_mem_of_mem_splitAt {cs piece : List Char} (member : piece ∈ splitAt sep cs) :
    sep ∉ piece := by
  induction cs generalizing piece with
  | nil =>
    obtain rfl : piece = [] := by simpa [splitAt] using member
    exact List.not_mem_nil
  | cons c cs ih =>
    obtain ⟨first, pieces, split⟩ := List.exists_cons_of_ne_nil (splitAt_ne_nil sep cs)
    rw [split] at ih
    by_cases cut : c = sep
    next =>
      have among : piece = [] ∨ piece ∈ first :: pieces := by
        simpa [splitAt, cut, split] using member
      rcases among with rfl | later
      · exact List.not_mem_nil
      · exact ih later
    next =>
      have among : piece = c :: first ∨ piece ∈ pieces := by
        simpa [splitAt, cut, split] using member
      rcases among with rfl | later
      · exact List.not_mem_cons_of_ne_of_not_mem (Ne.symm cut) (ih (by simp))
      · exact ih (List.mem_cons_of_mem first later)

theorem splitAt_append (xs ys : List Char) :
    splitAt sep (xs ++ sep :: ys) = splitAt sep xs ++ splitAt sep ys := by
  induction xs with
  | nil => simp [splitAt]
  | cons c cs ih =>
    by_cases cut : c = sep
    · simp [splitAt, cut, ih]
    · obtain ⟨first, pieces, split⟩ := List.exists_cons_of_ne_nil (splitAt_ne_nil sep cs)
      simp [splitAt, cut, ih, split]

theorem splitAt_append_sep {piece : List Char} (free : sep ∉ piece) (rest : List Char) :
    splitAt sep (piece ++ sep :: rest) = piece :: splitAt sep rest := by
  rw [splitAt_append, splitAt_of_not_mem free, List.singleton_append]

theorem splitOnce_append_of_not_mem {before : List Char} (free : sep ∉ before)
    (after : List Char) : splitOnce sep (before ++ sep :: after) = some (before, after) := by
  induction before with
  | nil => simp [splitOnce]
  | cons c cs ih =>
    simp only [List.mem_cons, not_or] at free
    simp [splitOnce, Ne.symm free.1, ih free.2]

theorem splitAt_intercalate {pieces : List (List Char)} (some : pieces ≠ [])
    (free : ∀ piece ∈ pieces, sep ∉ piece) :
    splitAt sep (List.intercalate [sep] pieces) = pieces := by
  induction pieces with
  | nil => contradiction
  | cons piece rest ih =>
    have first := free piece (by simp)
    cases rest with
    | nil => simpa using splitAt_of_not_mem first
    | cons next rest =>
      have later := ih (by simp) fun piece member => free piece (List.mem_cons_of_mem _ member)
      rw [List.intercalate_cons_cons, List.append_assoc, List.singleton_append,
        splitAt_append_sep first, later]

theorem splitAt_map {f : Char → Char} (keeps : ∀ c, f c = sep ↔ c = sep) (cs : List Char) :
    splitAt sep (cs.map f) = (splitAt sep cs).map (List.map f) := by
  induction cs with
  | nil => rfl
  | cons c cs ih =>
    obtain ⟨piece, pieces, split⟩ := List.exists_cons_of_ne_nil (splitAt_ne_nil sep cs)
    by_cases cut : c = sep
    · simp [splitAt, cut, (keeps sep).2 rfl, ih]
    · simp [splitAt, cut, mt (keeps c).1 cut, ih, split]

theorem mem_intercalate {c : Char} {pieces : List (List Char)}
    (member : c ∈ List.intercalate [sep] pieces) : c = sep ∨ ∃ piece ∈ pieces, c ∈ piece := by
  induction pieces with
  | nil => simp at member
  | cons piece rest ih =>
    cases rest with
    | nil => exact .inr ⟨piece, by simp, by simpa using member⟩
    | cons next rest =>
      rw [List.intercalate_cons_cons, List.append_assoc, List.singleton_append, List.mem_append,
        List.mem_cons] at member
      rcases member with first | cut | later
      · exact .inr ⟨piece, by simp, first⟩
      · exact .inl cut
      · rcases ih later with cut | ⟨other, among, inside⟩
        · exact .inl cut
        · exact .inr ⟨other, List.mem_cons_of_mem piece among, inside⟩

theorem splitAt_append_left {front : List Char} (free : sep ∉ front) {cs piece : List Char}
    {pieces : List (List Char)} (split : splitAt sep cs = piece :: pieces) :
    splitAt sep (front ++ cs) = (front ++ piece) :: pieces := by
  induction front with
  | nil => exact split
  | cons c front ih =>
    simp only [List.mem_cons, not_or] at free
    simp [splitAt, Ne.symm free.1, ih free.2]

-- What is put behind a text goes to its last piece.
theorem exists_splitAt_append_right (sep : Char) (cs : List Char) :
    ∃ pieces last, splitAt sep cs = pieces ++ [last] ∧
      ∀ back, sep ∉ back → splitAt sep (cs ++ back) = pieces ++ [last ++ back] := by
  induction cs with
  | nil => exact ⟨[], [], rfl, fun back free => splitAt_of_not_mem free⟩
  | cons c cs ih =>
    obtain ⟨pieces, last, split, behind⟩ := ih
    by_cases cut : c = sep
    next =>
      refine ⟨[] :: pieces, last, by simp [splitAt, cut, split], fun back free => ?_⟩
      simp [splitAt, cut, behind back free]
    next =>
      cases pieces with
      | nil =>
        refine ⟨[], c :: last, by simp [splitAt, cut, split], fun back free => ?_⟩
        simp [splitAt, cut, behind back free]
      | cons piece pieces =>
        refine ⟨(c :: piece) :: pieces, last, by simp [splitAt, cut, split], fun back free => ?_⟩
        simp [splitAt, cut, behind back free]

theorem not_mem_of_blanks (solid : isBlank sep = false) {blanks : List Char}
    (blank : ∀ c ∈ blanks, isBlank c = true) : sep ∉ blanks := fun member => by
  simp [blank sep member] at solid

theorem trimBlanks_splitAt_append_left (solid : isBlank sep = false) {front : List Char}
    (blank : ∀ c ∈ front, isBlank c = true) (cs : List Char) :
    (splitAt sep (front ++ cs)).map trimBlanks = (splitAt sep cs).map trimBlanks := by
  obtain ⟨piece, pieces, split⟩ := List.exists_cons_of_ne_nil (splitAt_ne_nil sep cs)
  rw [splitAt_append_left (not_mem_of_blanks solid blank) split, split]
  simp [trimBlanks_append_left blank]

theorem trimBlanks_splitAt_append_right (solid : isBlank sep = false) {back : List Char}
    (blank : ∀ c ∈ back, isBlank c = true) (cs : List Char) :
    (splitAt sep (cs ++ back)).map trimBlanks = (splitAt sep cs).map trimBlanks := by
  obtain ⟨pieces, last, split, behind⟩ := exists_splitAt_append_right sep cs
  rw [behind back (not_mem_of_blanks solid blank), split]
  simp [trimBlanks_append_right blank]

theorem trimBlanks_splitAt_trimBlanks (solid : isBlank sep = false) (cs : List Char) :
    (splitAt sep (trimBlanks cs)).map trimBlanks = (splitAt sep cs).map trimBlanks := by
  obtain ⟨front, back, blankFront, blankBack, whole⟩ := exists_trimBlanks cs
  calc (splitAt sep (trimBlanks cs)).map trimBlanks
      = (splitAt sep (front ++ trimBlanks cs)).map trimBlanks :=
        (trimBlanks_splitAt_append_left solid blankFront _).symm
    _ = (splitAt sep (front ++ trimBlanks cs ++ back)).map trimBlanks :=
        (trimBlanks_splitAt_append_right solid blankBack _).symm
    _ = (splitAt sep cs).map trimBlanks := by rw [← whole]

end FieldRules
