import FieldRules.Proofs.Message.Segmentation
import FieldRules.Proofs.Pattern.Form

set_option autoImplicit false

namespace FieldRules.Template

open Pattern

def placeholderTerms : List Term := [.chars (.single ':'), .repetition 1 none (.chars wordSet)]

theorem denotes_placeholderTerms : Denotes ":(\\w+)" (Term.sequence placeholderTerms).expr := by
  exact ⟨.alternation [.sequence [
    .literal ⟨':', false⟩,
    .group true [] (.alternation [.sequence [.repetition 1 none (.set (.named .word false))]])]],
    _, _, rfl, rfl, rfl⟩

def MatchesPlaceholder : Spot → Spot → Prop := (Term.sequence placeholderTerms).expr.Spans

theorem matchesPlaceholder_iff (p q : Spot) :
    MatchesPlaceholder p q ↔
      ∃ word, (word ≠ [] ∧ ∀ c ∈ word, isWord c = true) ∧ p.Reads (':' :: word) q := by
  have writes : Writes (SpansInTurn placeholderTerms)
      (letter (.single ':') * letters wordSet 1) :=
    (writes_chars (.single ':')).comp (writes_repetition wordSet 1).last
  rw [MatchesPlaceholder, writes_sequence writes]
  simp only [mem_single_mul_iff, mem_letters_one_iff, isWord_eq_contains]
  constructor
  · rintro ⟨_, ⟨word, all, rfl⟩, read⟩
    exact ⟨word, all, read⟩
  · rintro ⟨word, all, read⟩
    exact ⟨_, ⟨word, all, rfl⟩, read⟩

theorem reaches_of_placeholder {text word after : List Char} {before last : Option Char} {r : Spot}
    (place : Placeholder text [] word after)
    (read : (Spot.mk before text).Reads (':' :: word) ⟨last, after⟩)
    (found : MatchesPlaceholder ⟨before, text⟩ r) : r.Reaches ⟨last, after⟩ := by
  obtain ⟨word', ⟨-, all⟩, read'⟩ := (matchesPlaceholder_iff _ r).1 found
  have same : word ++ after = word' ++ r.rest :=
    (List.cons.inj (place.text.symm.trans read'.rest_eq)).2
  have longer : ∃ more, word = word' ++ more := by
    rcases List.append_eq_append_iff.1 same with ⟨more, rfl, rfl⟩ | ⟨more, whole, -⟩
    · cases more with
      | nil => exact ⟨[], by simp⟩
      | cons c more =>
        have outside := place.stop c rfl
        simp [all c] at outside
    · exact ⟨more, whole⟩
  obtain ⟨more, rfl⟩ := longer
  obtain ⟨r', first, second⟩ := Spot.reads_append_iff (u := ':' :: word').1 read
  obtain rfl := first.end_unique read'
  exact ⟨more, second⟩

theorem exists_placeholder_of_match {text : List Char} {before : Option Char} {r : Spot}
    (found : MatchesPlaceholder ⟨before, text⟩ r) :
    ∃ word after, word ≠ [] ∧ Placeholder text [] word after := by
  obtain ⟨word, ⟨some, all⟩, read⟩ := (matchesPlaceholder_iff _ r).1 found
  obtain ⟨run, after, split, allRun, stop⟩ := exists_run isWord (word ++ r.rest)
  have whole : text = ':' :: (word ++ r.rest) := read.rest_eq
  refine ⟨run, after, ?_, by rw [whole, split, List.nil_append], allRun, stop⟩
  rintro rfl
  obtain ⟨c, word, rfl⟩ := List.exists_cons_of_ne_nil some
  rw [List.nil_append] at split
  have outside := stop c (by rw [← split]; rfl)
  simp [all c] at outside

variable (kind : Kind) (key : String) (param : Option String)

def fillMatch (found : List Char) : List Char := (Piece.ofWord kind found.tail).fill key param

theorem replaced_segmentation (text : List Char) (before : Option Char) :
    Replaced MatchesPlaceholder (fillMatch kind key param) ⟨before, text⟩
      ((segmentation kind text).flatMap (Piece.fill key param)) := by
  -- A match takes its whole word, so the induction is on the length of what is left.
  induction size : text.length using Nat.strongRecOn generalizing text before with
  | ind n ih =>
    by_cases own : ∃ word after, word ≠ [] ∧ Placeholder text [] word after
    next =>
      obtain ⟨word, after, some, place⟩ := own
      obtain ⟨c, word, rfl⟩ := List.exists_cons_of_ne_nil some
      obtain rfl : text = ':' :: (c :: word ++ after) := place.text
      have whole : (Spot.mk before (':' :: (c :: word ++ after))).rest =
          (':' :: c :: word) ++ after := rfl
      obtain ⟨⟨last, rest⟩, read, behind⟩ := Spot.exists_reads whole
      obtain rfl : rest = after := behind
      have shorter : rest.length < n := by
        rw [← size, List.length_cons, List.length_append]
        omega
      have found : MatchesPlaceholder ⟨before, ':' :: (c :: word ++ rest)⟩ ⟨last, rest⟩ :=
        (matchesPlaceholder_iff _ _).2 ⟨c :: word, ⟨some, place.run⟩, read⟩
      rw [segmentation_colon_run place.run place.stop, List.flatMap_append, Piece.fill_single]
      exact .next (.nil _) (fun _ _ reach _ => reach) found
        (fun _ found' => reaches_of_placeholder place read found') read
        (ih rest.length shorter rest last rfl)
    next =>
      cases text with
      | nil =>
        refine .none fun q r reach found => ?_
        obtain rfl := Spot.reaches_of_end reach
        exact own (exists_placeholder_of_match found)
      | cons c text =>
        have noSlot : ∀ word p, SlotOf kind word p → ∀ after,
            ¬ Placeholder (c :: text) [] word after :=
          fun word p slot after place => own ⟨word, after, slot.word_ne_nil, place⟩
        rw [segmentation_char noSlot]
        exact Replaced.cons (fun r found => own (exists_placeholder_of_match found))
          (ih text.length (by simp [← size]) text (some c) rfl)

-- Rendering replaces all that the pattern of placeholders finds.
theorem render_eq_iff_replaced (template : String) (out : List Char) :
    (render template kind key param).toList = out ↔
      Replaced MatchesPlaceholder (fillMatch kind key param) ⟨none, template.toList⟩ out := by
  have replaced := replaced_segmentation kind key param template.toList none
  rw [flatMap_fill_segmentation] at replaced
  rw [render, String.toList_ofList]
  constructor
  · rintro rfl
    exact replaced
  · exact replaced.unique

end FieldRules.Template
