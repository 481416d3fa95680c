set_option autoImplicit false

namespace FieldRules

variable {p : Char → Bool} {run rest : List Char}

theorem takeWhile_run (all : ∀ c ∈ run, p c = true) (stop : ∀ c ∈ rest.head?, p c = false) :
    (run ++ rest).takeWhile p = run := by
  have none : rest.takeWhile p = [] := by
    cases rest with
    | nil => rfl
    | cons c cs => simp [stop c rfl]
  rw [List.takeWhile_append_of_pos all, none, List.append_nil]

theorem dropWhile_run (all : ∀ c ∈ run, p c = true) (stop : ∀ c ∈ rest.head?, p c = false) :
    (run ++ rest).dropWhile p = rest := by
  have kept : rest.dropWhile p = rest := by
    cases rest with
    | nil => rfl
    | cons c cs => simp [stop c rfl]
  rw [List.dropWhile_append_of_pos all, kept]

theorem run_unique {other last : List Char} (same : run ++ rest = other ++ last)
    (all : ∀ c ∈ run, p c = true) (stop : ∀ c ∈ rest.head?, p c = false)
    (all' : ∀ c ∈ other, p c = true) (stop' : ∀ c ∈ last.head?, p c = false) :
    run = other ∧ rest = last := by
  constructor
  · rw [← takeWhile_run all stop, same, takeWhile_run all' stop']
  · rw [← dropWhile_run all stop, same, dropWhile_run all' stop']

theorem exists_run (p : Char → Bool) (cs : List Char) :
    ∃ run rest, cs = run ++ rest ∧ (∀ c ∈ run, p c = true) ∧ ∀ c ∈ rest.head?, p c = false := by
  refine ⟨cs.takeWhile p, cs.dropWhile p, List.takeWhile_append_dropWhile.symm,
    List.all_eq_true.1 List.all_takeWhile, fun c first => ?_⟩
  have stopped := List.head?_dropWhile_not p cs
  rw [Option.mem_def.1 first] at stopped
  simpa using stopped

end FieldRules
