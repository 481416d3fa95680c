import FieldRules.Batch.Environment
import FieldRules.Proofs.Text.Blank
import FieldRules.Proofs.Text.Letter
import Mathlib.Data.List.Forall2

set_option autoImplicit false

namespace FieldRules

theorem isBlank_of_letter {c : Char}
    (letter : 65 ≤ c.toNat ∧ c.toNat ≤ 90 ∨ 97 ≤ c.toNat ∧ c.toNat ≤ 122) : isBlank c = false := by
  simp [isBlank, blankRanges]
  omega

theorem isBlank_toLower (c : Char) : isBlank c.toLower = isBlank c := by
  by_cases capital : 65 ≤ c.toNat ∧ c.toNat ≤ 90
  next =>
    have small : c.toLower.toNat = c.toNat + 32 := by rw [toNat_toLower, if_pos capital]
    rw [isBlank_of_letter (.inl capital), isBlank_of_letter (.inr (by omega))]
  next => rw [toLower_eq_self capital]

theorem trimBlanks_map_toLower (cs : List Char) :
    trimBlanks (cs.map Char.toLower) = (trimBlanks cs).map Char.toLower := by
  have same : isBlank ∘ Char.toLower = isBlank := funext isBlank_toLower
  have dropped (xs : List Char) :
      (xs.map Char.toLower).dropWhile isBlank = (xs.dropWhile isBlank).map Char.toLower := by
    rw [List.dropWhile_map, same]
  rw [trimBlanks, trimBlanks, skipBlanks, skipBlanks, dropped, ← List.map_reverse, dropped,
    ← List.map_reverse]

section Spelling

-- A character and its lower case, as far as that is a letter of English: capitals of English, and
-- the Kelvin sign for `k`. Other characters are left as they are.
inductive LowersTo : Char → Char → Prop
  | letter {c : Char} (other : c ≠ '\u212A') : LowersTo c c.toLower
  | kelvin : LowersTo '\u212A' 'k'

inductive Spells (text word : String) : Prop
  | mk {front letters back : List Char}
      (blankFront : ∀ c ∈ front, isBlank c = true) (blankBack : ∀ c ∈ back, isBlank c = true)
      (lower : List.Forall₂ LowersTo letters word.toList)
      (whole : text.toList = front ++ letters ++ back)

def lowered (c : Char) : Char := if c = '\u212A' then 'k' else c.toLower

theorem plainWord_eq (text : String) : plainWord text = (trimBlanks text.toList).map lowered := rfl

theorem lowersTo_iff {c l : Char} : LowersTo c l ↔ lowered c = l := by
  unfold lowered
  constructor
  next =>
    intro lowers
    cases lowers with
    | letter other => rw [if_neg other]
    | kelvin => rfl
  next =>
    rintro rfl
    split
    next kelvin => exact kelvin ▸ .kelvin
    next other => exact .letter other

theorem forall₂_lowersTo_iff {letters word : List Char} :
    List.Forall₂ LowersTo letters word ↔ letters.map lowered = word := by
  have relation : LowersTo = fun c l => lowered c = l := by
    funext c l
    exact propext lowersTo_iff
  rw [relation, ← List.forall₂_map_left_iff (f := lowered), List.forall₂_eq_eq_eq]

theorem isBlank_lowered (c : Char) : isBlank (lowered c) = isBlank c := by
  unfold lowered
  split
  next kelvin => rw [kelvin]; decide
  next => exact isBlank_toLower c

theorem plainWord_eq_iff {word : String} (solid : ∀ l ∈ word.toList, isBlank l = false)
    (text : String) : String.ofList (plainWord text) = word ↔ Spells text word := by
  rw [← String.toList_inj, String.toList_ofList, plainWord_eq]
  constructor
  next =>
    intro lower
    obtain ⟨front, back, blankFront, blankBack, whole⟩ := exists_trimBlanks text.toList
    exact .mk blankFront blankBack (forall₂_lowersTo_iff.2 lower) whole
  next =>
    rintro @⟨front, letters, back, blankFront, blankBack, lower, whole⟩
    have lower := forall₂_lowersTo_iff.1 lower
    have kept : ∀ c ∈ letters, isBlank c = false := fun c member =>
      isBlank_lowered c ▸ solid _ (lower ▸ List.mem_map_of_mem member)
    rw [whole, trimBlanks_append_right blankBack, trimBlanks_append_left blankFront,
      trimBlanks_eq_self kept, lower]

end Spelling

section Capitals

inductive SameLetters (s t : String) : Prop
  | mk {front middle back : List Char}
      (blankFront : ∀ c ∈ front, isBlank c = true) (blankBack : ∀ c ∈ back, isBlank c = true)
      (letters : middle.map Char.toLower = s.toList.map Char.toLower)
      (whole : t.toList = front ++ middle ++ back)

theorem lowered_toLower (c : Char) : lowered c.toLower = lowered c := by
  by_cases capital : 65 ≤ c.toNat ∧ c.toNat ≤ 90
  next =>
    have kelvin : '\u212A'.toNat = 8490 := rfl
    have small : c.toLower.toNat = c.toNat + 32 := by rw [toNat_toLower, if_pos capital]
    have other : c ≠ '\u212A' := by
      rintro rfl
      omega
    have other' : c.toLower ≠ '\u212A' := by
      intro same
      rw [same] at small
      omega
    rw [lowered, lowered, if_neg other, if_neg other', toLower_eq_self (by omega)]
  next => rw [toLower_eq_self capital]

theorem plainWord_of_sameLetters {s t : String} (same : SameLetters s t) :
    plainWord t = plainWord s := by
  have capitals (cs : List Char) :
      (trimBlanks cs).map lowered = (trimBlanks (cs.map Char.toLower)).map lowered := by
    rw [trimBlanks_map_toLower, List.map_map]
    exact List.map_congr_left fun c _ => (lowered_toLower c).symm
  cases same with
  | @mk front middle back blankFront blankBack letters whole =>
    rw [plainWord_eq, plainWord_eq, whole, trimBlanks_append_right blankBack,
      trimBlanks_append_left blankFront, capitals, letters, ← capitals]

end Capitals

end FieldRules
