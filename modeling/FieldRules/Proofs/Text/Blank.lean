import FieldRules.Proofs.Text.Letter
import FieldRules.Text.Blank

set_option autoImplicit false

namespace FieldRules

theorem isBlank_of_isDigit {c : Char} (digit : c.isDigit = true) : isBlank c = false := by
  have range := (isDigit_iff c).1 digit
  simp [isBlank, blankRanges]
  omega

theorem trimBlanks_eq_self {cs : List Char} (solid : ∀ c ∈ cs, isBlank c = false) :
    trimBlanks cs = cs := by
  have kept {xs : List Char} (solid : ∀ c ∈ xs, isBlank c = false) :
      xs.dropWhile isBlank = xs := by
    cases xs with
    | nil => rfl
    | cons c cs => simp [solid c (by simp)]
  have back : cs.reverse.dropWhile isBlank = cs.reverse :=
    kept fun c member => solid c (List.mem_reverse.1 member)
  rw [trimBlanks, skipBlanks, kept solid, back, List.reverse_reverse]

theorem mem_dropWhile {c : Char} {cs : List Char} {p : Char → Bool} (member : c ∈ cs)
    (stop : p c = false) : c ∈ cs.dropWhile p := by
  rw [← List.takeWhile_append_dropWhile (p := p) (l := cs), List.mem_append] at member
  refine member.resolve_left fun passed => ?_
  simp [List.all_eq_true.1 List.all_takeWhile c passed] at stop

theorem mem_trimBlanks {c : Char} {cs : List Char} (member : c ∈ cs) (solid : isBlank c = false) :
    c ∈ trimBlanks cs := by
  have front : c ∈ (skipBlanks cs).reverse := List.mem_reverse.2 (mem_dropWhile member solid)
  exact List.mem_reverse.2 (mem_dropWhile front solid)

theorem exists_trimBlanks (cs : List Char) :
    ∃ front back, (∀ c ∈ front, isBlank c = true) ∧ (∀ c ∈ back, isBlank c = true) ∧
      cs = front ++ trimBlanks cs ++ back := by
  let back := ((skipBlanks cs).reverse.takeWhile isBlank).reverse
  have rest : skipBlanks cs = trimBlanks cs ++ back := by
    rw [trimBlanks, ← List.reverse_append, List.takeWhile_append_dropWhile, List.reverse_reverse]
  refine ⟨cs.takeWhile isBlank, back, List.all_eq_true.1 List.all_takeWhile, fun c member => ?_, ?_⟩
  · exact List.all_eq_true.1 List.all_takeWhile c (List.mem_reverse.1 member)
  · rw [List.append_assoc, ← rest, skipBlanks, List.takeWhile_append_dropWhile]

theorem mem_of_mem_trimBlanks {c : Char} {cs : List Char} (member : c ∈ trimBlanks cs) :
    c ∈ cs := by
  obtain ⟨front, back, -, -, whole⟩ := exists_trimBlanks cs
  rw [whole]
  simp [member]

theorem length_trimBlanks_le (cs : List Char) : (trimBlanks cs).length ≤ cs.length := by
  obtain ⟨front, back, -, -, whole⟩ := exists_trimBlanks cs
  have size := congrArg List.length whole
  simp only [List.length_append] at size
  omega

theorem head?_trimBlanks {c : Char} (solid : isBlank c = false) (cs : List Char) :
    (trimBlanks (c :: cs)).head? = some c := by
  obtain ⟨front, back, blank, -, whole⟩ := exists_trimBlanks (c :: cs)
  cases front with
  | nil =>
    have inside := mem_trimBlanks (List.mem_cons_self (a := c) (l := cs)) solid
    obtain ⟨d, ds, kept⟩ := List.exists_cons_of_ne_nil (List.ne_nil_of_mem inside)
    rw [kept] at whole ⊢
    rw [List.head?_cons, (List.cons.inj whole).1]
  | cons d front =>
    obtain rfl : c = d := (List.cons.inj whole).1
    simp [blank c (by simp)] at solid

theorem trimBlanks_of_solid_ends {c d : Char} (front : isBlank c = false) (back : isBlank d = false)
    (cs : List Char) : trimBlanks (c :: (cs ++ [d])) = c :: (cs ++ [d]) := by
  simp [trimBlanks, skipBlanks, front, back]

theorem trimBlanks_append_left {front : List Char} (blank : ∀ c ∈ front, isBlank c = true)
    (cs : List Char) : trimBlanks (front ++ cs) = trimBlanks cs := by
  rw [trimBlanks, skipBlanks, List.dropWhile_append_of_pos blank]
  rfl

theorem solid_of_trimBlanks_eq {c : Char} {cs : List Char}
    (trimmed : trimBlanks (c :: cs) = c :: cs) :
    isBlank c = false := by
  refine Bool.eq_false_iff.2 fun blank => ?_
  have dropped : trimBlanks ([c] ++ cs) = trimBlanks cs :=
    trimBlanks_append_left (List.forall_mem_singleton.2 blank) cs
  have short := length_trimBlanks_le cs
  rw [← dropped, List.singleton_append, trimmed, List.length_cons] at short
  omega

theorem trimBlanks_append_right {back : List Char} (blank : ∀ c ∈ back, isBlank c = true)
    (cs : List Char) : trimBlanks (cs ++ back) = trimBlanks cs := by
  have none : back.dropWhile isBlank = [] := by
    rw [← List.append_nil back, List.dropWhile_append_of_pos blank, List.dropWhile_nil]
  have reversed : ∀ c ∈ back.reverse, isBlank c = true := fun c member =>
    blank c (List.mem_reverse.1 member)
  simp only [trimBlanks, skipBlanks, List.dropWhile_append, none]
  split
  next empty => rw [List.isEmpty_iff.1 empty]
  next => rw [List.reverse_append, List.dropWhile_append_of_pos reversed]

theorem trimBlanks_trimBlanks (cs : List Char) : trimBlanks (trimBlanks cs) = trimBlanks cs := by
  obtain ⟨front, back, blankFront, blankBack, whole⟩ := exists_trimBlanks cs
  calc trimBlanks (trimBlanks cs)
      = trimBlanks (front ++ trimBlanks cs) := (trimBlanks_append_left blankFront _).symm
    _ = trimBlanks (front ++ trimBlanks cs ++ back) := (trimBlanks_append_right blankBack _).symm
    _ = trimBlanks cs := by rw [← whole]

end FieldRules
