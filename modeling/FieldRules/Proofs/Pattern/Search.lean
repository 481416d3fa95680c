import FieldRules.Pattern.Search
import Mathlib.Logic.Relation

set_option autoImplicit false

namespace FieldRules.Pattern

open Relation

structure Spot where
  before : Option Char
  rest : List Char

namespace Spot

def place (p : Spot) : Place := ⟨p.before, p.rest.head?⟩

inductive Reads : Spot → List Char → Spot → Prop
  | nil (p : Spot) : Reads p [] p
  | cons {before : Option Char} {c : Char} {word rest : List Char} {q : Spot}
      (later : Reads ⟨some c, rest⟩ word q) : Reads ⟨before, c :: rest⟩ (c :: word) q

variable {p q r : Spot} {before : Option Char} {c : Char} {word rest : List Char}

theorem reads_nil_iff : p.Reads [] q ↔ p = q := by
  constructor
  · intro read
    cases read
    rfl
  · rintro rfl
    exact .nil p

theorem reads_single_iff {d : Char} :
    (Spot.mk before (c :: rest)).Reads [d] q ↔ d = c ∧ q = ⟨some c, rest⟩ := by
  constructor
  · intro read
    cases read with
    | cons later => exact ⟨rfl, (reads_nil_iff.1 later).symm⟩
  · rintro ⟨rfl, rfl⟩
    exact .cons (.nil _)

theorem Reads.append {word' : List Char} (first : p.Reads word q) (second : q.Reads word' r) :
    p.Reads (word ++ word') r := by
  induction first with
  | nil => exact second
  | cons later ih => exact .cons (ih second)

theorem Reads.rest_eq (read : p.Reads word q) : p.rest = word ++ q.rest := by
  induction read with
  | nil => rfl
  | cons later ih => exact congrArg (List.cons _) ih

theorem Reads.unique {word' : List Char} (read : p.Reads word q) (read' : p.Reads word' q) :
    word = word' :=
  List.append_cancel_right (read.rest_eq.symm.trans read'.rest_eq)

theorem Reads.end_unique {q' : Spot} (read : p.Reads word q) (read' : p.Reads word q') :
    q = q' := by
  induction read with
  | nil => exact reads_nil_iff.1 read'
  | cons later ih =>
    cases read' with
    | cons later' => exact ih later'

theorem Reads.before_isSome (read : p.Reads word q) (some : p.before.isSome) :
    q.before.isSome := by
  induction read with
  | nil => exact some
  | cons later ih => exact ih rfl

theorem exists_reads (split : p.rest = word ++ rest) : ∃ q, p.Reads word q ∧ q.rest = rest := by
  induction word generalizing p with
  | nil => exact ⟨p, .nil p, split⟩
  | cons c word ih =>
    obtain ⟨before, cs⟩ := p
    obtain rfl : cs = c :: (word ++ rest) := split
    obtain ⟨q, read, behind⟩ := ih (p := ⟨some c, word ++ rest⟩) rfl
    exact ⟨q, .cons read, behind⟩

def Reaches (p q : Spot) : Prop := ∃ word, p.Reads word q

theorem Reaches.refl (p : Spot) : p.Reaches p := ⟨[], .nil p⟩

theorem Reaches.trans (first : p.Reaches q) (second : q.Reaches r) : p.Reaches r := by
  obtain ⟨word, read⟩ := first
  obtain ⟨word', read'⟩ := second
  exact ⟨word ++ word', read.append read'⟩

theorem Reaches.antisymm (there : p.Reaches q) (back : q.Reaches p) : q = p := by
  obtain ⟨word, read⟩ := there
  obtain ⟨word', read'⟩ := back
  have length := congrArg List.length read.rest_eq
  have length' := congrArg List.length read'.rest_eq
  simp only [List.length_append] at length length'
  obtain rfl : word = [] := List.eq_nil_of_length_eq_zero (by omega)
  exact (reads_nil_iff.1 read).symm

theorem reaches_of_end (reaches : (Spot.mk before []).Reaches q) : q = ⟨before, []⟩ := by
  obtain ⟨word, read⟩ := reaches
  cases read with
  | nil => rfl

theorem reaches_cons_iff :
    (Spot.mk before (c :: rest)).Reaches q ↔
      q = ⟨before, c :: rest⟩ ∨ (Spot.mk (some c) rest).Reaches q := by
  constructor
  · rintro ⟨word, read⟩
    cases read with
    | nil => exact .inl rfl
    | cons later => exact .inr ⟨_, later⟩
  · rintro (rfl | ⟨word, later⟩)
    · exact .refl _
    · exact ⟨c :: word, .cons later⟩

theorem next_ne : (Spot.mk (some c) rest) ≠ ⟨before, c :: rest⟩ := by
  intro same
  have length := congrArg (fun p : Spot => p.rest.length) same
  simp at length

end Spot

def Onward (R : Spot → Spot → Prop) : Prop := ∀ p q, R p q → p.Reaches q

theorem Onward.comp {R S : Spot → Spot → Prop} (first : Onward R) (second : Onward S) :
    Onward (Comp R S) := by
  rintro p q ⟨r, there, further⟩
  exact (first p r there).trans (second r q further)

theorem Onward.star {R : Spot → Spot → Prop} (each : Onward R) : Onward (ReflTransGen R) := by
  intro p q steps
  induction steps with
  | refl => exact .refl p
  | tail _ step ih => exact ih.trans (each _ _ step)

theorem Onward.comp_self_iff {R S : Spot → Spot → Prop} (first : Onward R) (second : Onward S)
    (p : Spot) : Comp R S p p ↔ R p p ∧ S p p := by
  constructor
  · rintro ⟨r, there, back⟩
    obtain rfl := (first p r there).antisymm (second r p back)
    exact ⟨there, back⟩
  · rintro ⟨there, back⟩
    exact ⟨p, there, back⟩

def Beyond (R : Spot → Spot → Prop) (p q : Spot) : Prop := q ≠ p ∧ R p q

theorem beyond_or_iff {R S : Spot → Spot → Prop} {p q : Spot} :
    Beyond (fun p q => R p q ∨ S p q) p q ↔ Beyond R p q ∨ Beyond S p q :=
  and_or_left

theorem exists_iff_beyond (R : Spot → Spot → Prop) (p : Spot) :
    (∃ q, R p q) ↔ R p p ∨ ∃ q, Beyond R p q := by
  constructor
  · rintro ⟨q, related⟩
    by_cases stays : q = p
    · exact .inl (stays ▸ related)
    · exact .inr ⟨q, stays, related⟩
  · rintro (related | ⟨q, -, related⟩)
    · exact ⟨p, related⟩
    · exact ⟨q, related⟩

-- Either the first part stays and the second moves on, or the first moves on.
theorem Onward.beyond_comp_iff {R S : Spot → Spot → Prop} (first : Onward R) (second : Onward S)
    {p q : Spot} :
    Beyond (Comp R S) p q ↔ R p p ∧ Beyond S p q ∨ Comp (Beyond R) S p q := by
  constructor
  · rintro ⟨moves, r, there, further⟩
    by_cases stays : r = p
    · subst stays
      exact .inl ⟨there, moves, further⟩
    · exact .inr ⟨r, ⟨stays, there⟩, further⟩
  · rintro (⟨there, moves, further⟩ | ⟨r, ⟨moves, there⟩, further⟩)
    · exact ⟨moves, p, there, further⟩
    · refine ⟨?_, r, there, further⟩
      rintro rfl
      exact moves ((first _ _ there).antisymm (second _ _ further))

-- Repetitions that stay can be left out.
theorem Onward.beyond_star_iff {R : Spot → Spot → Prop} (each : Onward R) {p q : Spot} :
    Beyond (ReflTransGen R) p q ↔ Comp (Beyond R) (ReflTransGen R) p q := by
  constructor
  · rintro ⟨moves, steps⟩
    induction steps using ReflTransGen.head_induction_on with
    | refl => exact absurd rfl moves
    | @head p r step later ih =>
      by_cases stays : r = p
      · subst stays
        exact ih moves
      · exact ⟨r, ⟨stays, step⟩, later⟩
  · rintro ⟨r, ⟨moves, step⟩, later⟩
    refine ⟨?_, .head step later⟩
    rintro rfl
    exact moves ((each _ _ step).antisymm (each.star _ _ later))

theorem comp_of_iff {R S T U : Spot → Spot → Prop} {p p' : Spot} {a : Prop}
    (parts : ∀ r, R p' r ↔ a ∧ S p r ∨ T p r) (q : Spot) :
    Comp R U p' q ↔ a ∧ Comp S U p q ∨ Comp T U p q := by
  simp only [Comp, parts, or_and_right, exists_or, and_assoc, exists_and_left]

namespace Expr

def Spans : Expr → Spot → Spot → Prop
  | empty => Eq
  | look l => fun p q => p = q ∧ l.holds p.place = true
  | chars s _ => fun p q => ∃ c, p.Reads [c] q ∧ s.contains c = true
  | seq e₁ e₂ => Comp e₁.Spans e₂.Spans
  | alt e₁ e₂ => fun p q => e₁.Spans p q ∨ e₂.Spans p q
  | star e => ReflTransGen e.Spans

def Resumes : Expr → Spot → Spot → Prop
  | empty, _, _ => False
  | look _, _, _ => False
  | chars _ marked, p, q => marked = true ∧ p = q
  | seq e₁ e₂, p, q => e₂.Resumes p q ∨ Comp e₁.Resumes e₂.Spans p q
  | alt e₁ e₂, p, q => e₁.Resumes p q ∨ e₂.Resumes p q
  | star e, p, q => Comp e.Resumes (ReflTransGen e.Spans) p q

theorem onward_spans (e : Expr) : Onward e.Spans := by
  induction e with
  | empty =>
    rintro p q rfl
    exact .refl p
  | look l =>
    rintro p q ⟨rfl, -⟩
    exact .refl p
  | chars s marked =>
    rintro p q ⟨c, read, -⟩
    exact ⟨[c], read⟩
  | seq e₁ e₂ ih₁ ih₂ => exact ih₁.comp ih₂
  | alt e₁ e₂ ih₁ ih₂ => exact fun p q spans => spans.elim (ih₁ p q) (ih₂ p q)
  | star e ih => exact ih.star

theorem onward_resumes (e : Expr) : Onward e.Resumes := by
  induction e with
  | empty | look l => exact fun p q resumes => resumes.elim
  | chars s marked =>
    rintro p q ⟨-, rfl⟩
    exact .refl p
  | seq e₁ e₂ ih₁ ih₂ =>
    exact fun p q resumes => resumes.elim (ih₂ p q) (ih₁.comp e₂.onward_spans p q)
  | alt e₁ e₂ ih₁ ih₂ => exact fun p q resumes => resumes.elim (ih₁ p q) (ih₂ p q)
  | star e ih => exact ih.comp e.onward_spans.star

theorem nullable_iff (e : Expr) (p : Spot) : e.nullable p.place = true ↔ e.Spans p p := by
  induction e with
  | empty => simp [nullable, Spans]
  | look l => simp [nullable, Spans]
  | chars s marked =>
    refine ⟨fun never => absurd never Bool.false_ne_true, ?_⟩
    rintro ⟨c, read, -⟩
    have length := congrArg List.length read.rest_eq
    simp at length
  | seq e₁ e₂ ih₁ ih₂ =>
    rw [nullable, Bool.and_eq_true, ih₁, ih₂]
    exact (e₁.onward_spans.comp_self_iff e₂.onward_spans p).symm
  | alt e₁ e₂ ih₁ ih₂ => rw [nullable, Bool.or_eq_true, ih₁, ih₂, Spans]
  | star e ih => exact iff_of_true rfl .refl

theorem final_iff (e : Expr) (p : Spot) : e.final p.place = true ↔ e.Resumes p p := by
  induction e with
  | empty | look l => exact iff_of_false Bool.false_ne_true id
  | chars s marked => simp [final, Resumes]
  | seq e₁ e₂ ih₁ ih₂ =>
    rw [final, Bool.or_eq_true, Bool.and_eq_true, ih₁, ih₂, nullable_iff, Resumes,
      e₁.onward_resumes.comp_self_iff e₂.onward_spans]
  | alt e₁ e₂ ih₁ ih₂ => rw [final, Bool.or_eq_true, ih₁, ih₂, Resumes]
  | star e ih =>
    rw [final, ih, Resumes, e.onward_resumes.comp_self_iff e.onward_spans.star]
    exact (and_iff_left .refl).symm

theorem spans_shift (e : Expr) (p : Place) (c : Char) (entered : Bool) :
    (e.shift p c entered).Spans = e.Spans := by
  induction e generalizing entered with
  | empty | look l | chars s marked => rfl
  | seq e₁ e₂ ih₁ ih₂ => rw [shift, Spans, Spans, ih₁, ih₂]
  | alt e₁ e₂ ih₁ ih₂ => rw [shift, Spans, Spans, ih₁, ih₂]
  | star e ih => rw [shift, Spans, Spans, ih]

theorem resumes_shift_iff (e : Expr) (entered : Bool) {before : Option Char} {c : Char}
    {rest : List Char} {p : Spot} (here : p = ⟨before, c :: rest⟩) (q : Spot) :
    (e.shift p.place c entered).Resumes ⟨some c, rest⟩ q ↔
      entered = true ∧ Beyond e.Spans p q ∨ Beyond e.Resumes p q := by
  induction e generalizing entered q with
  | empty => simp [shift, Resumes, Beyond, Spans, eq_comm]
  | look l =>
    refine iff_of_false id ?_
    rintro (⟨-, moves, stays, -⟩ | ⟨-, never⟩)
    · exact moves stays.symm
    · exact never
  | chars s marked =>
    subst here
    have stays : ¬ Beyond (chars s marked).Resumes ⟨before, c :: rest⟩ q :=
      fun ⟨moves, _, same⟩ => moves same.symm
    rw [or_iff_left stays]
    simp only [shift, Resumes, Beyond, Spans, Spot.reads_single_iff, Bool.and_eq_true]
    constructor
    · rintro ⟨⟨may, member⟩, rfl⟩
      exact ⟨may, Spot.next_ne, c, ⟨rfl, rfl⟩, member⟩
    · rintro ⟨may, -, d, ⟨rfl, rfl⟩, member⟩
      exact ⟨⟨may, member⟩, rfl⟩
  | seq e₁ e₂ ih₁ ih₂ =>
    have passed := comp_of_iff (U := e₂.Spans) (ih₁ entered) q
    have began := e₁.onward_spans.beyond_comp_iff e₂.onward_spans (p := p) (q := q)
    have marked := e₁.onward_resumes.beyond_comp_iff e₂.onward_spans (p := p) (q := q)
    have resumes : Beyond (seq e₁ e₂).Resumes p q ↔
        Beyond e₂.Resumes p q ∨ Beyond (Comp e₁.Resumes e₂.Spans) p q := beyond_or_iff
    rw [shift, Resumes, ih₂, spans_shift, passed, Bool.or_eq_true, Bool.and_eq_true, nullable_iff,
      final_iff, Spans, resumes, began, marked]
    grind
  | alt e₁ e₂ ih₁ ih₂ =>
    have began : Beyond (alt e₁ e₂).Spans p q ↔ Beyond e₁.Spans p q ∨ Beyond e₂.Spans p q :=
      beyond_or_iff
    have resumes : Beyond (alt e₁ e₂).Resumes p q ↔
        Beyond e₁.Resumes p q ∨ Beyond e₂.Resumes p q := beyond_or_iff
    rw [shift, Resumes, ih₁, ih₂, began, resumes]
    grind
  | star e ih =>
    have passed := comp_of_iff (U := ReflTransGen e.Spans) (ih (entered || e.final p.place)) q
    have began := e.onward_spans.beyond_star_iff (p := p) (q := q)
    have resumes : Beyond (star e).Resumes p q ↔
        e.Resumes p p ∧ Beyond (ReflTransGen e.Spans) p q ∨
          Comp (Beyond e.Resumes) (ReflTransGen e.Spans) p q :=
      e.onward_resumes.beyond_comp_iff e.onward_spans.star
    rw [shift, Resumes, spans_shift, passed, Bool.or_eq_true, final_iff, Spans, resumes, began]
    grind

-- A search finds the matches that have begun and can be ended, and those that begin later.
theorem search_eq_true_iff (e : Expr) (before : Option Char) (cs : List Char) :
    e.search before cs = true ↔
      (∃ q, e.Resumes ⟨before, cs⟩ q) ∨
        ∃ p q, (Spot.mk before cs).Reaches p ∧ e.Spans p q := by
  induction cs generalizing e before with
  | nil =>
    have ends := e.nullable_iff ⟨before, []⟩
    have ends' := e.final_iff ⟨before, []⟩
    rw [search, Bool.or_eq_true]
    constructor
    · rintro (spans | resumes)
      · exact .inr ⟨_, _, .refl _, ends.1 spans⟩
      · exact .inl ⟨_, ends'.1 resumes⟩
    · rintro (⟨q, resumes⟩ | ⟨p, q, reaches, spans⟩)
      · obtain rfl := Spot.reaches_of_end (e.onward_resumes _ _ resumes)
        exact .inr (ends'.2 resumes)
      · obtain rfl := Spot.reaches_of_end reaches
        obtain rfl := Spot.reaches_of_end (e.onward_spans _ _ spans)
        exact .inl (ends.2 spans)
  | cons c cs ih =>
    let p : Spot := ⟨before, c :: cs⟩
    have here := exists_iff_beyond e.Spans p
    have marked := exists_iff_beyond e.Resumes p
    have later : (∃ r q, p.Reaches r ∧ e.Spans r q) ↔
        (∃ q, e.Spans p q) ∨ ∃ r q, (Spot.mk (some c) cs).Reaches r ∧ e.Spans r q := by
      simp only [p, Spot.reaches_cons_iff, or_and_right, exists_or, exists_and_left,
        exists_eq_left]
    have step : (∃ q, (e.shift p.place c true).Resumes ⟨some c, cs⟩ q) ↔
        (∃ q, Beyond e.Spans p q) ∨ ∃ q, Beyond e.Resumes p q := by
      simp only [resumes_shift_iff e true (rfl : p = ⟨before, c :: cs⟩), true_and, exists_or]
    change (e.nullable p.place || e.final p.place ||
      (e.shift p.place c true).search (some c) cs) = true ↔ _
    rw [Bool.or_eq_true, Bool.or_eq_true, nullable_iff, final_iff, ih, step, spans_shift, later,
      here, marked]
    grind

end Expr

end FieldRules.Pattern
