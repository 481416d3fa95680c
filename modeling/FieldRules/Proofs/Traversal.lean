import Mathlib.Data.List.Forall2
import Mathlib.Data.List.Induction

set_option autoImplicit false

namespace FieldRules

variable {α β ε : Type}

def FirstError (f : α → Except ε β) (xs : List α) (e : ε) : Prop :=
  ∃ before x after, xs = before ++ x :: after ∧ (∀ y ∈ before, ∃ b, f y = .ok b) ∧ f x = .error e

theorem not_firstError_nil (f : α → Except ε β) (e : ε) : ¬ FirstError f [] e := by
  rintro ⟨before, x, after, split, -, -⟩
  simp at split

theorem firstError_cons_of_error {f : α → Except ε β} {x : α} {d : ε} (refused : f x = .error d)
    (xs : List α) (e : ε) : FirstError f (x :: xs) e ↔ d = e := by
  constructor
  next =>
    rintro ⟨before, y, after, split, accepted, first⟩
    cases before with
    | nil =>
      cases split
      simpa [refused] using first
    | cons z rest =>
      cases split
      obtain ⟨b, ok⟩ := accepted x (by simp)
      simp [refused] at ok
  next =>
    rintro rfl
    exact ⟨[], x, xs, rfl, by simp, refused⟩

theorem firstError_cons_of_ok {f : α → Except ε β} {x : α} {b : β} (accepted : f x = .ok b)
    (xs : List α) (e : ε) : FirstError f (x :: xs) e ↔ FirstError f xs e := by
  constructor
  next =>
    rintro ⟨before, y, after, split, earlier, first⟩
    cases before with
    | nil =>
      cases split
      simp [accepted] at first
    | cons z rest =>
      cases split
      exact ⟨rest, y, after, rfl, fun w member => earlier w (by simp [member]), first⟩
  next =>
    rintro ⟨before, y, after, rfl, earlier, first⟩
    refine ⟨x :: before, y, after, rfl, fun w member => ?_, first⟩
    rcases List.mem_cons.1 member with rfl | member
    · exact ⟨b, accepted⟩
    · exact earlier w member

theorem mapM_eq_error_iff (f : α → Except ε β) (xs : List α) (e : ε) :
    xs.mapM f = .error e ↔ FirstError f xs e := by
  induction xs with
  | nil => simp [not_firstError_nil, pure, Except.pure]
  | cons x xs ih =>
    cases head : f x with
    | error d => simp [firstError_cons_of_error head, head, bind, Except.bind]
    | ok b =>
      rw [firstError_cons_of_ok head, ← ih]
      cases tail : xs.mapM f <;> simp [head, tail, bind, Except.bind, pure, Except.pure]

theorem exists_mapM_eq_ok_iff (f : α → Except ε β) (xs : List α) :
    (∃ ys, xs.mapM f = .ok ys) ↔ ∀ x ∈ xs, ∃ b, f x = .ok b := by
  induction xs with
  | nil => simp [pure, Except.pure]
  | cons x xs ih =>
    rw [List.forall_mem_cons, ← ih]
    cases head : f x <;> cases tail : xs.mapM f <;>
      simp [head, tail, bind, Except.bind, pure, Except.pure]

theorem mapM_eq_ok_iff (f : α → Except ε β) (xs : List α) (ys : List β) :
    xs.mapM f = .ok ys ↔ List.Forall₂ (fun x y => f x = .ok y) xs ys := by
  induction xs generalizing ys with
  | nil => cases ys <;> simp [pure, Except.pure]
  | cons x xs ih =>
    cases head : f x with
    | error d => cases ys <;> simp [head, bind, Except.bind]
    | ok b =>
      cases tail : xs.mapM f <;> cases ys <;>
        simp [head, tail, ← ih, bind, Except.bind, pure, Except.pure]

theorem exists_getElem?_of_mapM {f : α → Option β} {xs : List α} {ys : List β}
    (made : xs.mapM f = some ys) {i : Nat} {x : α} (place : xs[i]? = some x) :
    ∃ y, f x = some y ∧ ys[i]? = some y := by
  induction xs generalizing ys i with
  | nil => simp at place
  | cons first rest ih =>
    simp only [List.mapM_cons, bind, Option.bind_eq_some_iff] at made
    obtain ⟨y, head, later, tail, made⟩ := made
    obtain rfl := Option.some.inj made
    cases i with
    | zero =>
      obtain rfl : first = x := by simpa using place
      exact ⟨y, head, rfl⟩
    | succ i => exact ih tail place

def LastWith (p : α → Prop) (xs : List α) (x : α) : Prop :=
  ∃ before after, xs = before ++ x :: after ∧ p x ∧ ∀ y ∈ after, ¬ p y

theorem not_lastWith_nil (p : α → Prop) (x : α) : ¬ LastWith p [] x := by
  rintro ⟨before, after, split, -, -⟩
  simp at split

theorem LastWith.mem {p : α → Prop} {xs : List α} {x : α} (last : LastWith p xs x) : x ∈ xs := by
  obtain ⟨before, after, rfl, -, -⟩ := last
  simp

theorem LastWith.holds {p : α → Prop} {xs : List α} {x : α} (last : LastWith p xs x) : p x := by
  obtain ⟨before, after, -, holds, -⟩ := last
  exact holds

theorem LastWith.append_left {p : α → Prop} {ys : List α} {y : α} (last : LastWith p ys y)
    (xs : List α) : LastWith p (xs ++ ys) y := by
  obtain ⟨before, after, rfl, holds, later⟩ := last
  exact ⟨xs ++ before, after, by simp, holds, later⟩

theorem lastWith_iff_mem {p : α → Prop} {xs : List α}
    (once : xs.Pairwise fun x y => ¬ (p x ∧ p y)) (x : α) : LastWith p xs x ↔ x ∈ xs ∧ p x := by
  constructor
  next =>
    intro last
    exact ⟨last.mem, last.holds⟩
  next =>
    rintro ⟨member, holds⟩
    obtain ⟨before, after, rfl⟩ := List.append_of_mem member
    have apart := (List.pairwise_append.1 once).2.1
    refine ⟨before, after, rfl, holds, ?_⟩
    intro y later again
    exact List.rel_of_pairwise_cons apart later ⟨holds, again⟩

theorem eq_or_split_of_concat_eq {xs before after : List α} {x y : α}
    (split : xs ++ [x] = before ++ y :: after) :
    after = [] ∧ y = x ∨ ∃ rest, after = rest ++ [x] ∧ xs = before ++ y :: rest := by
  rcases List.eq_nil_or_concat after with rfl | ⟨rest, z, rfl⟩
  next =>
    obtain ⟨-, same⟩ := List.append_inj' split rfl
    exact .inl ⟨rfl, (List.cons.inj same).1.symm⟩
  next =>
    have split : xs ++ [x] = (before ++ y :: rest) ++ [z] := by simpa using split
    obtain ⟨earlier, same⟩ := List.append_inj' split rfl
    exact .inr ⟨rest, by simp [same], earlier⟩

theorem lastWith_concat_of_holds {p : α → Prop} {x : α} (holds : p x) (xs : List α) (y : α) :
    LastWith p (xs ++ [x]) y ↔ y = x := by
  constructor
  next =>
    rintro ⟨before, after, split, -, later⟩
    rcases eq_or_split_of_concat_eq split with ⟨-, same⟩ | ⟨rest, rfl, -⟩
    · exact same
    · exact absurd holds (later x (by simp))
  next =>
    rintro rfl
    exact ⟨xs, [], rfl, holds, by simp⟩

theorem lastWith_concat_of_not_holds {p : α → Prop} {x : α} (fails : ¬ p x) (xs : List α) (y : α) :
    LastWith p (xs ++ [x]) y ↔ LastWith p xs y := by
  constructor
  next =>
    rintro ⟨before, after, split, holds, later⟩
    rcases eq_or_split_of_concat_eq split with ⟨-, rfl⟩ | ⟨rest, rfl, earlier⟩
    · exact absurd holds fails
    · exact ⟨before, rest, earlier, holds, fun z member => later z (by simp [member])⟩
  next =>
    rintro ⟨before, after, rfl, holds, later⟩
    refine ⟨before, after ++ [x], by simp, holds, fun z member => ?_⟩
    rcases List.mem_append.1 member with member | member
    · exact later z member
    · exact List.mem_singleton.1 member ▸ fails

theorem exists_lastWith_iff (p : α → Prop) (xs : List α) :
    (∃ x, LastWith p xs x) ↔ ∃ x ∈ xs, p x := by
  -- From the end, where the last element with the property is the first that is met.
  induction xs using List.reverseRecOn with
  | nil => simp [not_lastWith_nil]
  | append_singleton xs x ih =>
    by_cases holds : p x
    next =>
      simp only [lastWith_concat_of_holds holds]
      exact iff_of_true ⟨x, rfl⟩ ⟨x, by simp, holds⟩
    next => simp [lastWith_concat_of_not_holds holds, ih, or_and_right, exists_or, holds]

-- What is sorted out afterwards can be sorted out beforehand, where that is known in advance.
theorem filter_filterMap {f : α → Option β} {p : β → Bool} {q : α → Bool}
    (foreseen : ∀ x y, f x = some y → p y = q x) (xs : List α) :
    (xs.filterMap f).filter p = (xs.filter q).filterMap f := by
  induction xs with
  | nil => rfl
  | cons x xs ih =>
    cases made : f x with
    | none => cases kept : q x <;> simp [made, kept, ih]
    | some y =>
      have same := foreseen x y made
      cases kept : q x <;> simp [made, kept, same, ih]

variable {σ τ : Type}

theorem foldl_account {P : List α → σ → Prop} {f : σ → α → σ}
    (step : ∀ done s x, P done s → P (done ++ [x]) (f s x)) {done : List α} {s : σ}
    (start : P done s) (xs : List α) : P (done ++ xs) (xs.foldl f s) := by
  -- What is done stays open: each element taken moves over to it.
  induction xs generalizing done s with
  | nil => simpa using start
  | cons x xs ih =>
    have next := ih (step done s x start)
    simpa using next

-- The same error, or results in the given relation.
def Alike (R : α → β → Prop) : Except ε α → Except ε β → Prop
  | .ok a, .ok b => R a b
  | .error d, .error e => d = e
  | _, _ => False

theorem Alike.map {R : α → β → Prop} {S : σ → τ → Prop} {x : Except ε α} {y : Except ε β}
    (alike : Alike R x y) {f : α → σ} {g : β → τ} (related : ∀ a b, R a b → S (f a) (g b)) :
    Alike S (x.map f) (y.map g) := by
  cases x with
  | error d =>
    cases y with
    | error e => exact alike
    | ok b => exact alike.elim
  | ok a =>
    cases y with
    | error e => exact alike.elim
    | ok b => exact related a b alike

theorem foldlM_alike {R : σ → τ → Prop} {S : α → β → Prop} {f : σ → α → Except ε σ}
    {g : τ → β → Except ε τ} (step : ∀ s t x y, R s t → S x y → Alike R (f s x) (g t y)) {s : σ}
    {t : τ} (start : R s t) {xs : List α} {ys : List β} (paired : List.Forall₂ S xs ys) :
    Alike R (xs.foldlM f s) (ys.foldlM g t) := by
  induction paired generalizing s t with
  | nil => exact start
  | @cons x y xs ys pair rest ih =>
    have next := step s t x y start pair
    rw [List.foldlM_cons, List.foldlM_cons]
    cases left : f s x with
    | error d =>
      cases right : g t y with
      | error e =>
        rw [left, right] at next
        exact next
      | ok t' => simp [left, right, Alike] at next
    | ok s' =>
      cases right : g t y with
      | error e => simp [left, right, Alike] at next
      | ok t' =>
        rw [left, right] at next
        exact ih next

theorem findSome?_perm_iff (f : α → Option β) (xs : List α) :
    (∀ ys : List α, ys.Perm xs → ys.findSome? f = xs.findSome? f) ↔
      ∀ x ∈ xs, ∀ y ∈ xs, ∀ a b, f x = some a → f y = some b → a = b := by
  constructor
  · intro unordered x x_mem y y_mem a b left right
    have first {z : α} {d : β} (mem : z ∈ xs) (found : f z = some d) : xs.findSome? f = some d := by
      obtain ⟨before, after, rfl⟩ := List.append_of_mem mem
      rw [← unordered _ List.perm_middle.symm, List.findSome?_cons, found]
    exact Option.some.inj ((first x_mem left).symm.trans (first y_mem right))
  · intro agree ys perm
    cases found : xs.findSome? f with
    | none =>
      have none := List.findSome?_eq_none_iff.1 found
      exact List.findSome?_eq_none_iff.2 fun y mem => none y (perm.mem_iff.1 mem)
    | some a =>
      obtain ⟨x, x_mem, left⟩ := List.exists_of_findSome?_eq_some found
      cases found' : ys.findSome? f with
      | none =>
        have none := List.findSome?_eq_none_iff.1 found' x (perm.mem_iff.2 x_mem)
        simp [left] at none
      | some b =>
        obtain ⟨y, y_mem, right⟩ := List.exists_of_findSome?_eq_some found'
        rw [agree x x_mem y (perm.mem_iff.1 y_mem) a b left right]

inductive Inserted (p : α → Prop) : List α → List α → Prop
  | nil : Inserted p [] []
  | keep (x : α) {xs ys : List α} (rest : Inserted p xs ys) : Inserted p (x :: xs) (x :: ys)
  | put {y : α} {xs ys : List α} (extra : p y) (rest : Inserted p xs ys) : Inserted p xs (y :: ys)

namespace Inserted

variable {p : α → Prop} {xs ys : List α}

theorem subset (inserted : Inserted p xs ys) : xs ⊆ ys := by
  induction inserted with
  | nil => exact List.Subset.refl []
  | keep x _ ih => exact List.cons_subset_cons x ih
  | put _ _ ih => exact List.subset_cons_of_subset _ ih

theorem mem_or (inserted : Inserted p xs ys) {y : α} (member : y ∈ ys) : y ∈ xs ∨ p y := by
  induction inserted with
  | nil => exact .inl member
  | keep x _ ih =>
    rcases List.mem_cons.1 member with rfl | member
    · exact .inl (by simp)
    · exact (ih member).imp_left (List.mem_cons_of_mem x)
  | put extra _ ih =>
    rcases List.mem_cons.1 member with rfl | member
    · exact .inr extra
    · exact ih member

theorem eq_or_exists (inserted : Inserted p xs ys) : xs = ys ∨ ∃ y ∈ ys, p y := by
  induction inserted with
  | nil => exact .inl rfl
  | keep x _ ih =>
    rcases ih with rfl | ⟨y, member, extra⟩
    · exact .inl rfl
    · exact .inr ⟨y, List.mem_cons_of_mem x member, extra⟩
  | put extra _ _ => exact .inr ⟨_, by simp, extra⟩

end Inserted

end FieldRules
