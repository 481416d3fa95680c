import FieldRules.Proofs.Pattern.Search
import FieldRules.Proofs.Unicode.CharSet
import Mathlib.Computability.Language

set_option autoImplicit false

namespace FieldRules.Pattern

open Relation

section Times

variable {R : Spot → Spot → Prop}

def Times (R : Spot → Spot → Prop) : Nat → Spot → Spot → Prop
  | 0 => Eq
  | n + 1 => Comp R (Times R n)

theorem times_one (R : Spot → Spot → Prop) : Times R 1 = R := comp_eq

theorem times_add (R : Spot → Spot → Prop) (m n : Nat) :
    Times R (m + n) = Comp (Times R m) (Times R n) := by
  induction m with
  | zero => rw [Nat.zero_add, Times, eq_comp]
  | succ m ih => rw [Nat.add_right_comm, Times, Times, ih, comp_assoc]

theorem reflTransGen_iff_times {p q : Spot} : ReflTransGen R p q ↔ ∃ n, Times R n p q := by
  constructor
  · intro steps
    induction steps using ReflTransGen.head_induction_on with
    | refl => exact ⟨0, rfl⟩
    | head step later ih =>
      obtain ⟨n, times⟩ := ih
      exact ⟨n + 1, _, step, times⟩
  · rintro ⟨n, times⟩
    induction n generalizing p with
    | zero => exact times ▸ .refl
    | succ n ih =>
      obtain ⟨r, step, later⟩ := times
      exact .head step (ih later)

theorem times_optional_iff (k : Nat) {p q : Spot} :
    Times (fun p q => p = q ∨ R p q) k p q ↔ ∃ n ≤ k, Times R n p q := by
  induction k generalizing p with
  | zero => simp [Times]
  | succ k ih =>
    constructor
    · rintro ⟨r, rfl | step, later⟩
      · obtain ⟨n, few, times⟩ := ih.1 later
        exact ⟨n, Nat.le_succ_of_le few, times⟩
      · obtain ⟨n, few, times⟩ := ih.1 later
        exact ⟨n + 1, Nat.succ_le_succ few, r, step, times⟩
    · rintro ⟨n, few, times⟩
      cases n with
      | zero => exact ⟨p, .inl rfl, ih.2 ⟨0, Nat.zero_le k, times⟩⟩
      | succ n =>
        obtain ⟨r, step, later⟩ := times
        exact ⟨r, .inr step, ih.2 ⟨n, Nat.le_of_succ_le_succ few, later⟩⟩

theorem Expr.spans_times (e : Expr) (n : Nat) : (e.times n).Spans = Times e.Spans n := by
  fun_induction e.times n with
  | case1 => rfl
  | case2 => exact (times_one e.Spans).symm
  | case3 n some more ih₁ ih₂ =>
    rw [Spans, ih₁, ih₂, ← times_add, Nat.add_sub_of_le (Nat.div_le_self n 2)]

end Times

section Terms

mutual

def Term.Spans : Term → Spot → Spot → Prop
  | .empty => Eq
  | .chars s => fun p q => ∃ c, p.Reads [c] q ∧ s.contains c = true
  | .look l => fun p q => p = q ∧ l.holds p.place = true
  | .capture body => body.Spans
  | .sequence items => SpansInTurn items
  | .alternation branches => SpansOneOf branches
  | .repetition least most body => fun p q =>
    ∃ n, least ≤ n ∧ (∀ m ∈ most, n ≤ max least m) ∧ Times body.Spans n p q

def SpansInTurn : List Term → Spot → Spot → Prop
  | [] => Eq
  | t :: ts => Comp t.Spans (SpansInTurn ts)

def SpansOneOf : List Term → Spot → Spot → Prop
  | [] => fun _ _ => False
  | t :: ts => fun p q => t.Spans p q ∨ SpansOneOf ts p q

end

theorem spans_repetition_unbounded (e : Expr) (least : Nat) :
    (Expr.seq (e.times least) e.star).Spans = fun p q => ∃ n, least ≤ n ∧ Times e.Spans n p q := by
  funext p q
  apply propext
  rw [Expr.Spans, Expr.spans_times]
  constructor
  · rintro ⟨r, first, more⟩
    obtain ⟨k, times⟩ := reflTransGen_iff_times.1 more
    refine ⟨least + k, Nat.le_add_right least k, ?_⟩
    rw [times_add]
    exact ⟨r, first, times⟩
  · rintro ⟨n, enough, times⟩
    obtain ⟨k, rfl⟩ := Nat.exists_eq_add_of_le enough
    rw [times_add] at times
    obtain ⟨r, first, more⟩ := times
    exact ⟨r, first, reflTransGen_iff_times.2 ⟨k, more⟩⟩

theorem spans_repetition_bounded (e : Expr) (least most : Nat) :
    (Expr.seq (e.times least) ((Expr.alt .empty e).times (most - least))).Spans =
      fun p q => ∃ n, least ≤ n ∧ n ≤ max least most ∧ Times e.Spans n p q := by
  funext p q
  apply propext
  rw [Expr.Spans, Expr.spans_times, Expr.spans_times]
  constructor
  · rintro ⟨r, first, more⟩
    obtain ⟨k, few, times⟩ := (times_optional_iff (R := e.Spans) _).1 more
    refine ⟨least + k, by omega, by omega, ?_⟩
    rw [times_add]
    exact ⟨r, first, times⟩
  · rintro ⟨n, enough, few, times⟩
    obtain ⟨k, rfl⟩ := Nat.exists_eq_add_of_le enough
    rw [times_add] at times
    obtain ⟨r, first, more⟩ := times
    exact ⟨r, first, (times_optional_iff (R := e.Spans) _).2 ⟨k, by omega, more⟩⟩

mutual

theorem Term.spans_expr : (t : Term) → t.expr.Spans = t.Spans
  | .empty => rfl
  | .chars s => rfl
  | .look l => rfl
  | .capture body => body.spans_expr
  | .sequence items => spans_sequenceExpr items
  | .alternation branches => spans_alternationExpr branches
  | .repetition least none body => by
    rw [Term.expr, spans_repetition_unbounded, body.spans_expr]
    simp [Term.Spans]
  | .repetition least (some most) body => by
    rw [Term.expr, spans_repetition_bounded, body.spans_expr]
    simp [Term.Spans]

theorem spans_sequenceExpr : (ts : List Term) → (sequenceExpr ts).Spans = SpansInTurn ts
  | [] => rfl
  | [t] => by rw [sequenceExpr, t.spans_expr, SpansInTurn, SpansInTurn, comp_eq]
  | t :: u :: ts => by
    change Comp t.expr.Spans (sequenceExpr (u :: ts)).Spans = Comp t.Spans (SpansInTurn (u :: ts))
    rw [t.spans_expr, spans_sequenceExpr (u :: ts)]

theorem spans_alternationExpr : (ts : List Term) → (alternationExpr ts).Spans = SpansOneOf ts
  | [] => by
    funext p q
    simp [alternationExpr, Expr.Spans, SpansOneOf, CharSet.empty, CharSet.contains, CharSet.within]
  | [t] => by
    rw [alternationExpr, t.spans_expr]
    simp [SpansOneOf]
  | t :: u :: ts => by
    change (fun p q => t.expr.Spans p q ∨ (alternationExpr (u :: ts)).Spans p q) =
      fun p q => t.Spans p q ∨ SpansOneOf (u :: ts) p q
    rw [t.spans_expr, spans_alternationExpr (u :: ts)]

end

end Terms

def Expr.Unmarked (e : Expr) : Prop := ∀ p q, ¬ e.Resumes p q

namespace Expr

theorem Unmarked.seq {e₁ e₂ : Expr} (first : e₁.Unmarked) (second : e₂.Unmarked) :
    (Expr.seq e₁ e₂).Unmarked := by
  rintro p q (resumes | ⟨r, resumes, -⟩)
  · exact second p q resumes
  · exact first p r resumes

theorem Unmarked.alt {e₁ e₂ : Expr} (first : e₁.Unmarked) (second : e₂.Unmarked) :
    (Expr.alt e₁ e₂).Unmarked :=
  fun p q resumes => resumes.elim (first p q) (second p q)

theorem Unmarked.star {e : Expr} (unmarked : e.Unmarked) : e.star.Unmarked :=
  fun p _ ⟨r, resumes, _⟩ => unmarked p r resumes

theorem Unmarked.times {e : Expr} (unmarked : e.Unmarked) (n : Nat) : (e.times n).Unmarked := by
  fun_induction e.times n with
  | case1 => exact fun _ _ resumes => resumes
  | case2 => exact unmarked
  | case3 n some more ih₁ ih₂ => exact ih₁.seq ih₂

theorem unmarked_chars (s : CharSet) : (Expr.chars s false).Unmarked :=
  fun _ _ ⟨marked, _⟩ => Bool.false_ne_true marked

end Expr

mutual

theorem Term.unmarked_expr : (t : Term) → t.expr.Unmarked
  | .empty => fun _ _ resumes => resumes
  | .chars s => Expr.unmarked_chars s
  | .look l => fun _ _ resumes => resumes
  | .capture body => body.unmarked_expr
  | .sequence items => unmarked_sequenceExpr items
  | .alternation branches => unmarked_alternationExpr branches
  | .repetition least none body => (body.unmarked_expr.times least).seq body.unmarked_expr.star
  | .repetition least (some most) body => by
    have optional : (Expr.alt .empty body.expr).Unmarked :=
      Expr.Unmarked.alt (fun _ _ resumes => resumes) body.unmarked_expr
    exact (body.unmarked_expr.times least).seq (optional.times (most - least))

theorem unmarked_sequenceExpr : (ts : List Term) → (sequenceExpr ts).Unmarked
  | [] => fun _ _ resumes => resumes
  | [t] => t.unmarked_expr
  | t :: u :: ts => t.unmarked_expr.seq (unmarked_sequenceExpr (u :: ts))

theorem unmarked_alternationExpr : (ts : List Term) → (alternationExpr ts).Unmarked
  | [] => Expr.unmarked_chars .empty
  | [t] => t.unmarked_expr
  | t :: u :: ts => t.unmarked_expr.alt (unmarked_alternationExpr (u :: ts))

end

theorem occursIn_iff (t : Term) (text : List Char) :
    (Pattern.mk t.expr).occursIn text = true ↔
      ∃ p q, (Spot.mk none text).Reaches p ∧ t.Spans p q := by
  rw [occursIn, Expr.search_eq_true_iff, t.spans_expr]
  exact or_iff_right fun ⟨q, resumes⟩ => t.unmarked_expr _ q resumes

section Language

def Writes (R : Spot → Spot → Prop) (L : Language Char) : Prop :=
  ∀ p q, R p q ↔ ∃ word ∈ L, p.Reads word q

theorem Spot.reads_append_iff {p q : Spot} {u v : List Char} :
    p.Reads (u ++ v) q ↔ ∃ r, p.Reads u r ∧ r.Reads v q := by
  constructor
  · intro read
    induction u generalizing p with
    | nil => exact ⟨p, .nil p, read⟩
    | cons c u ih =>
      cases read with
      | cons later =>
        obtain ⟨r, first, second⟩ := ih later
        exact ⟨r, .cons first, second⟩
  · rintro ⟨r, first, second⟩
    exact first.append second

theorem Writes.comp {R S : Spot → Spot → Prop} {L M : Language Char} (first : Writes R L)
    (second : Writes S M) : Writes (Comp R S) (L * M) := by
  intro p q
  constructor
  · rintro ⟨r, there, further⟩
    obtain ⟨u, mem, read⟩ := (first p r).1 there
    obtain ⟨v, mem', read'⟩ := (second r q).1 further
    exact ⟨u ++ v, Language.append_mem_mul mem mem', read.append read'⟩
  · rintro ⟨word, mem, read⟩
    obtain ⟨u, left, v, right, rfl⟩ := Language.mem_mul.1 mem
    obtain ⟨r, read, read'⟩ := Spot.reads_append_iff.1 read
    exact ⟨r, (first p r).2 ⟨u, left, read⟩, (second r q).2 ⟨v, right, read'⟩⟩

theorem writes_eq : Writes Eq 1 := by
  intro p q
  simp [Language.mem_one, Spot.reads_nil_iff]

theorem Writes.last {t : Term} {L : Language Char} (writes : Writes t.Spans L) :
    Writes (SpansInTurn [t]) L := by
  have whole := writes.comp writes_eq
  rwa [mul_one] at whole

def letter (s : CharSet) : Language Char := {word | ∃ c, word = [c] ∧ s.contains c = true}

def letters (s : CharSet) (least : Nat) : Language Char :=
  {word | least ≤ word.length ∧ ∀ c ∈ word, s.contains c = true}

theorem mem_letter_iff {s : CharSet} {word : List Char} :
    word ∈ letter s ↔ ∃ c, word = [c] ∧ s.contains c = true := Iff.rfl

theorem mem_letters_iff {s : CharSet} {least : Nat} {word : List Char} :
    word ∈ letters s least ↔ least ≤ word.length ∧ ∀ c ∈ word, s.contains c = true := Iff.rfl

theorem mem_letters_one_iff {s : CharSet} {word : List Char} :
    word ∈ letters s 1 ↔ word ≠ [] ∧ ∀ c ∈ word, s.contains c = true := by
  rw [mem_letters_iff, Nat.one_le_iff_ne_zero, Ne, List.length_eq_zero_iff]

theorem mem_single_mul_iff {d : Char} {L : Language Char} {word : List Char} :
    word ∈ letter (.single d) * L ↔ ∃ rest ∈ L, word = d :: rest := by
  simp only [Language.mem_mul, mem_letter_iff, CharSet.contains_single_iff]
  constructor
  · rintro ⟨_, ⟨c, rfl, rfl⟩, rest, member, rfl⟩
    exact ⟨rest, member, rfl⟩
  · rintro ⟨rest, member, rfl⟩
    exact ⟨[d], ⟨d, rfl, rfl⟩, rest, member, rfl⟩

theorem writes_chars (s : CharSet) : Writes (Term.chars s).Spans (letter s) := by
  intro p q
  constructor
  · rintro ⟨c, read, member⟩
    exact ⟨[c], ⟨c, rfl, member⟩, read⟩
  · rintro ⟨_, ⟨c, rfl, member⟩, read⟩
    exact ⟨c, read, member⟩

theorem times_chars_iff (s : CharSet) (n : Nat) (p q : Spot) :
    Times (Term.chars s).Spans n p q ↔
      ∃ word, (word.length = n ∧ ∀ c ∈ word, s.contains c = true) ∧ p.Reads word q := by
  induction n generalizing p with
  | zero => simp [Times, Spot.reads_nil_iff]
  | succ n ih =>
    constructor
    · rintro ⟨r, ⟨c, read, member⟩, later⟩
      obtain ⟨word, ⟨length, all⟩, read'⟩ := (ih r).1 later
      exact ⟨c :: word, ⟨congrArg (· + 1) length, List.forall_mem_cons.2 ⟨member, all⟩⟩,
        read.append read'⟩
    · rintro ⟨word, ⟨length, all⟩, read⟩
      obtain ⟨c, word, rfl⟩ := List.exists_cons_of_length_eq_add_one length
      obtain ⟨member, all⟩ := List.forall_mem_cons.1 all
      obtain ⟨r, read, read'⟩ := Spot.reads_append_iff (u := [c]).1 read
      exact ⟨r, ⟨c, read, member⟩, (ih r).2 ⟨word, ⟨Nat.succ.inj length, all⟩, read'⟩⟩

theorem writes_repetition (s : CharSet) (least : Nat) :
    Writes (Term.repetition least none (.chars s)).Spans (letters s least) := by
  intro p q
  simp only [Term.Spans, Option.mem_def, reduceCtorEq, false_implies, implies_true, true_and]
  constructor
  · rintro ⟨n, enough, times⟩
    obtain ⟨word, ⟨rfl, all⟩, read⟩ := (times_chars_iff s n p q).1 times
    exact ⟨word, ⟨enough, all⟩, read⟩
  · rintro ⟨word, ⟨enough, all⟩, read⟩
    exact ⟨word.length, enough, (times_chars_iff s _ p q).2 ⟨word, ⟨rfl, all⟩, read⟩⟩

theorem writes_optional {t : Term} {L : Language Char} (writes : Writes t.Spans L) :
    Writes (Term.repetition 0 (some 1) t).Spans (1 + L) := by
  intro p q
  constructor
  · rintro ⟨n, -, few, times⟩
    have atMost : n ≤ 1 := few 1 rfl
    cases n with
    | zero => exact ⟨[], .inl rfl, Spot.reads_nil_iff.2 times⟩
    | succ n =>
      obtain rfl : n = 0 := by omega
      rw [times_one] at times
      obtain ⟨word, member, read⟩ := (writes p q).1 times
      exact ⟨word, .inr member, read⟩
  · rintro ⟨word, empty | member, read⟩
    · obtain rfl : word = [] := empty
      exact ⟨0, by simp, by simp, Spot.reads_nil_iff.1 read⟩
    · refine ⟨1, by simp, by simp, ?_⟩
      rw [times_one]
      exact (writes p q).2 ⟨word, member, read⟩

theorem writes_sequence {ts : List Term} {L : Language Char} (writes : Writes (SpansInTurn ts) L) :
    Writes (Term.sequence ts).expr.Spans L := by
  rw [Term.spans_expr]
  exact writes

def anchored (ts : List Term) : Term := .sequence (.look .textStart :: (ts ++ [.look .textEnd]))

theorem spansInTurn_append (ts us : List Term) :
    SpansInTurn (ts ++ us) = Comp (SpansInTurn ts) (SpansInTurn us) := by
  induction ts with
  | nil => rw [List.nil_append, SpansInTurn, eq_comp]
  | cons t ts ih => rw [List.cons_append, SpansInTurn, SpansInTurn, ih, comp_assoc]

theorem spans_anchored_iff (ts : List Term) (p q : Spot) :
    (anchored ts).Spans p q ↔ p.before = none ∧ SpansInTurn ts p q ∧ q.rest = [] := by
  rw [anchored, Term.Spans, SpansInTurn, spansInTurn_append]
  constructor
  · rintro ⟨_, ⟨rfl, first⟩, _, there, _, ⟨rfl, last⟩, rfl⟩
    exact ⟨by simpa [Look.holds, Spot.place] using first, there,
      by simpa [Look.holds, Spot.place] using last⟩
  · rintro ⟨first, there, last⟩
    exact ⟨p, ⟨rfl, by simp [Look.holds, Spot.place, first]⟩, q, there, q,
      ⟨rfl, by simp [Look.holds, Spot.place, last]⟩, rfl⟩

theorem occursIn_anchored_iff {ts : List Term} {L : Language Char}
    (writes : Writes (SpansInTurn ts) L) (text : List Char) :
    (Pattern.mk (anchored ts).expr).occursIn text = true ↔ text ∈ L := by
  simp only [occursIn_iff, spans_anchored_iff]
  constructor
  · rintro ⟨p, q, ⟨skipped, reach⟩, first, there, last⟩
    obtain ⟨word, mem, read⟩ := (writes p q).1 there
    cases reach with
    | nil =>
      have whole : text = word := by
        rw [← List.append_nil word, ← last]
        exact read.rest_eq
      exact whole ▸ mem
    | cons later => simpa [first] using later.before_isSome rfl
  · intro mem
    have whole : (Spot.mk none text).rest = text ++ [] := (List.append_nil text).symm
    obtain ⟨q, read, last⟩ := Spot.exists_reads whole
    exact ⟨_, q, .refl _, rfl, (writes _ q).2 ⟨text, mem, read⟩, last⟩

end Language

end FieldRules.Pattern
