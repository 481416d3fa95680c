import FieldRules.Proofs.Check.Places
import FieldRules.Proofs.Pattern.Form

set_option autoImplicit false

namespace FieldRules

open Pattern

namespace Numeral

def literalTerms : List Term :=
  [.repetition 0 (some 1) (.chars (.single '-')), .repetition 1 none (.chars digitSet),
    .repetition 0 (some 1)
      (.sequence [.chars (.single '.'), .repetition 1 none (.chars digitSet)])]

theorem denotes_literalTerms : Denotes "^-?\\d+(?:\\.(\\d+))?$" (anchored literalTerms).expr := by
  exact ⟨.alternation [.sequence [
    .anchor .lineStart,
    .repetition 0 (some 1) (.literal ⟨'-', false⟩),
    .repetition 1 none (.set (.named .digit false)),
    .repetition 0 (some 1) (.group false [] (.alternation [.sequence [
      .literal ⟨'.', false⟩,
      .group true [] (.alternation [.sequence [
        .repetition 1 none (.set (.named .digit false))]])]])),
    .anchor .lineEnd]], _, _, rfl, rfl, rfl⟩

def behindPoint (fraction : Option (List Char)) : List Char := fraction.elim [] ('.' :: ·)

-- The text as its pattern cuts it, with the group of digits behind the point where there is one.
structure LiteralCut (text whole : List Char) (fraction : Option (List Char)) : Prop where
  text : ∃ negative, text = signed negative (whole ++ behindPoint fraction)
  whole : whole ∈ letters digitSet 1
  fraction : ∀ digits ∈ fraction, digits ∈ letters digitSet 1

theorem mem_behindPoint_iff {back : List Char} :
    back ∈ 1 + letter (.single '.') * letters digitSet 1 ↔
      ∃ fraction, back = behindPoint fraction ∧
        ∀ digits ∈ fraction, digits ∈ letters digitSet 1 := by
  rw [Language.mem_add, Language.mem_one, mem_single_mul_iff]
  constructor
  · rintro (rfl | ⟨digits, member, rfl⟩)
    · exact ⟨none, rfl, by simp⟩
    · exact ⟨some digits, rfl, by simpa using member⟩
  · rintro ⟨_ | digits, rfl, member⟩
    · exact .inl rfl
    · exact .inr ⟨digits, member digits rfl, rfl⟩

theorem signed_eq (negative : Bool) (cs : List Char) :
    signed negative cs = signed negative [] ++ cs := by
  cases negative <;> rfl

theorem mem_sign_iff {sign : List Char} :
    sign ∈ 1 + letter (.single '-') ↔ ∃ negative, sign = signed negative [] := by
  simp only [Language.mem_add, Language.mem_one, mem_letter_iff, CharSet.contains_single_iff]
  constructor
  · rintro (rfl | ⟨c, rfl, rfl⟩)
    · exact ⟨false, rfl⟩
    · exact ⟨true, rfl⟩
  · rintro ⟨_ | _, rfl⟩
    · exact .inl rfl
    · exact .inr ⟨'-', rfl, rfl⟩

theorem occursIn_literal_iff (text : List Char) :
    (Pattern.mk (anchored literalTerms).expr).occursIn text = true ↔
      ∃ whole fraction, LiteralCut text whole fraction := by
  have pointed : Pattern.Writes
      (Term.sequence [.chars (.single '.'), .repetition 1 none (.chars digitSet)]).Spans
      (letter (.single '.') * letters digitSet 1) :=
    (writes_chars (.single '.')).comp (writes_repetition digitSet 1).last
  have writes : Pattern.Writes (SpansInTurn literalTerms) ((1 + letter (.single '-')) *
      (letters digitSet 1 * (1 + letter (.single '.') * letters digitSet 1))) :=
    (writes_optional (writes_chars (.single '-'))).comp
      ((writes_repetition digitSet 1).comp (writes_optional pointed).last)
  rw [occursIn_anchored_iff writes]
  constructor
  · intro member
    obtain ⟨sign, first, _, later, rfl⟩ := Language.mem_mul.1 member
    obtain ⟨whole, second, back, third, rfl⟩ := Language.mem_mul.1 later
    obtain ⟨fraction, rfl, digits⟩ := mem_behindPoint_iff.1 third
    obtain ⟨negative, rfl⟩ := mem_sign_iff.1 first
    exact ⟨whole, fraction, ⟨negative, (signed_eq negative _).symm⟩, second, digits⟩
  · rintro ⟨whole, fraction, ⟨negative, rfl⟩, second, digits⟩
    have third : behindPoint fraction ∈ 1 + letter (.single '.') * letters digitSet 1 :=
      mem_behindPoint_iff.2 ⟨fraction, rfl, digits⟩
    rw [signed_eq]
    exact Language.append_mem_mul (mem_sign_iff.2 ⟨negative, rfl⟩)
      (Language.append_mem_mul second third)

-- All that is read as a number is in ASCII, so no digits of other scripts come to the pattern.
theorem ascii_of_numeral? {v : Json} {text : List Char} (written : v.numeral? = some text) :
    ∀ c ∈ text, c.toNat < 128 := by
  have read : ∃ x, Binary64.ofText? text = some x := by
    cases v with
    | number n =>
      obtain rfl := Option.some.inj written
      exact ⟨_, n.ofText?_text⟩
    | text s =>
      simp only [Json.numeral?] at written
      split at written
      next number =>
        obtain rfl := Option.some.inj written
        exact Option.isSome_iff_exists.1 number
      next => contradiction
    | null | bool | array | object => contradiction
  obtain ⟨x, read⟩ := read
  intro c member
  rcases isNumeral_of_ofText? read c member with digit | mark
  · have range := (isDigit_iff c).1 digit
    omega
  · have small : ∀ c ∈ ['+', '-', '.', 'e', 'E'], c.toNat < 128 := by simp
    exact small c mark

theorem mem_digits_iff {digits : List Char} (ascii : ∀ c ∈ digits, c.toNat < 128) :
    digits ∈ letters digitSet 1 ↔ digits ≠ [] ∧ AllDigits digits := by
  rw [mem_letters_one_iff]
  exact and_congr_right fun _ => forall₂_congr fun c member =>
    contains_digitSet_of_ascii (ascii c member)

theorem ascii_of_allDigits {digits : List Char} (all : AllDigits digits) :
    ∀ c ∈ digits, c.toNat < 128 := by
  intro c member
  have range := (isDigit_iff c).1 (all c member)
  omega

theorem places?_eq_some_iff_cut {text : List Char} (ascii : ∀ c ∈ text, c.toNat < 128)
    (places : Nat) :
    places? text = some places ↔
      ∃ whole fraction, LiteralCut text whole fraction ∧
        places = (fraction.map List.length).getD 0 := by
  rw [places?_eq_some_iff]
  constructor
  · intro full
    cases full with
    | @whole digits some all negative =>
      have member := (mem_digits_iff (ascii_of_allDigits all)).2 ⟨some, all⟩
      exact ⟨digits, none, ⟨⟨negative, by simp [behindPoint]⟩, member, by simp⟩, rfl⟩
    | @pointed digits fraction some all behind allBehind negative =>
      have member := (mem_digits_iff (ascii_of_allDigits all)).2 ⟨some, all⟩
      have memberBehind := (mem_digits_iff (ascii_of_allDigits allBehind)).2 ⟨behind, allBehind⟩
      exact ⟨digits, .some fraction, ⟨⟨negative, rfl⟩, member, by simpa using memberBehind⟩, rfl⟩
  · rintro ⟨whole, fraction, ⟨⟨negative, rfl⟩, member, memberBehind⟩, rfl⟩
    rw [signed_eq] at ascii
    obtain ⟨-, small⟩ := List.forall_mem_append.1 ascii
    obtain ⟨smallWhole, smallBehind⟩ := List.forall_mem_append.1 small
    obtain ⟨some, all⟩ := (mem_digits_iff smallWhole).1 member
    cases fraction with
    | none =>
      rw [behindPoint, Option.elim_none, List.append_nil]
      exact .whole some all negative
    | some fraction =>
      have smallFraction := (List.forall_mem_cons.1 smallBehind).2
      obtain ⟨behind, allBehind⟩ := (mem_digits_iff smallFraction).1 (memberBehind fraction rfl)
      exact .pointed some all behind allBehind negative

end Numeral

-- The places are the length of the group behind the point, and none without one.
theorem hasPlaces_iff_cut (places : Nat) (v : Json) :
    hasPlaces places v = true ↔
      ∃ text whole fraction, v.numeral? = some text ∧ Numeral.LiteralCut text whole fraction ∧
        places = (fraction.map List.length).getD 0 := by
  simp only [hasPlaces, beq_iff_eq, Option.bind_eq_some_iff]
  constructor
  · rintro ⟨text, written, found⟩
    have ascii := Numeral.ascii_of_numeral? written
    obtain ⟨whole, fraction, cut, rfl⟩ := (Numeral.places?_eq_some_iff_cut ascii _).1 found
    exact ⟨text, whole, fraction, written, cut, rfl⟩
  · rintro ⟨text, whole, fraction, written, cut, rfl⟩
    have ascii := Numeral.ascii_of_numeral? written
    exact ⟨text, written, (Numeral.places?_eq_some_iff_cut ascii _).2 ⟨whole, fraction, cut, rfl⟩⟩

end FieldRules
