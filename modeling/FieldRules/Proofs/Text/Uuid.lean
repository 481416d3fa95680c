import FieldRules.Proofs.Text.Hex
import FieldRules.Proofs.Text.Letter
import FieldRules.Proofs.Text.Split
import FieldRules.Text.Uuid
import Mathlib.Data.String.Basic

set_option autoImplicit false

namespace FieldRules

section Digits

theorem hexDigit?_toLower (c : Char) : hexDigit? c.toLower = hexDigit? c := by
  ext n
  rw [hexDigit?_eq_some_iff, hexDigit?_eq_some_iff, toNat_toLower]
  split_ifs <;> omega

theorem toLower_eq_dash_iff (c : Char) : c.toLower = '-' ↔ c = '-' := by
  rw [← Char.toNat_inj, ← Char.toNat_inj, toNat_toLower]
  simp only [Char.reduceToNat]
  split_ifs <;> omega

end Digits

section Bytes

inductive WritesBytes : List Char → List UInt8 → Prop
  | nil : WritesBytes [] []
  | cons {high low : Char} {h l : Nat} {cs : List Char} {bytes : List UInt8}
      (first : hexDigit? high = some h) (second : hexDigit? low = some l)
      (later : WritesBytes cs bytes) :
      WritesBytes (high :: low :: cs) (UInt8.ofNat (16 * h + l) :: bytes)

theorem readBytes?_eq_some_iff {cs : List Char} {bytes : List UInt8} :
    readBytes? cs = some bytes ↔ WritesBytes cs bytes := by
  constructor
  · intro read
    fun_induction readBytes? cs generalizing bytes with
    | case1 =>
      obtain rfl := Option.some.inj read
      exact .nil
    | case2 => simp at read
    | case3 high low cs ih =>
      simp only [Option.bind_eq_bind, Option.bind_eq_some_iff] at read
      obtain ⟨h, first, l, second, later, rest, whole⟩ := read
      obtain rfl := Option.some.inj whole
      exact .cons first second (ih rest)
  · intro writes
    induction writes with
    | nil => rfl
    | cons first second later ih => simp [readBytes?, first, second, ih]

namespace WritesBytes

variable {cs : List Char} {bytes : List UInt8}

theorem length_eq (writes : WritesBytes cs bytes) : cs.length = 2 * bytes.length := by
  induction writes with
  | nil => rfl
  | cons first second later ih =>
    simp only [List.length_cons, ih]
    omega

theorem isHex (writes : WritesBytes cs bytes) : ∀ c ∈ cs, IsHex c := by
  induction writes with
  | nil => simp
  | cons first second later ih =>
    simp only [List.forall_mem_cons]
    exact ⟨isHex_of_hexDigit? first, isHex_of_hexDigit? second, ih⟩

theorem exists_of_isHex {n : Nat} (length : cs.length = 2 * n) (hex : ∀ c ∈ cs, IsHex c) :
    ∃ bytes, WritesBytes cs bytes := by
  induction n generalizing cs with
  | zero =>
    obtain rfl := List.eq_nil_of_length_eq_zero length
    exact ⟨[], .nil⟩
  | succ n ih =>
    match cs with
    | high :: low :: cs =>
      simp only [List.forall_mem_cons] at hex
      obtain ⟨h, first⟩ := exists_hexDigit? hex.1
      obtain ⟨l, second⟩ := exists_hexDigit? hex.2.1
      obtain ⟨bytes, later⟩ := ih (by simp only [List.length_cons] at length; omega) hex.2.2
      exact ⟨_, .cons first second later⟩

theorem exists_byte (writes : WritesBytes cs bytes) {i : Nat} {c : Char}
    (digit : cs[2 * i]? = some c) :
    ∃ h l, hexDigit? c = some h ∧ l < 16 ∧ bytes[i]? = some (UInt8.ofNat (16 * h + l)) := by
  induction writes generalizing i with
  | nil => simp at digit
  | @cons high low h l cs bytes first second later ih =>
    cases i with
    | zero =>
      obtain rfl : high = c := by simpa using digit
      exact ⟨h, l, first, hexDigit?_lt second, rfl⟩
    | succ i => exact ih (by simpa [Nat.mul_add] using digit)

end WritesBytes

theorem readBytes?_map_toLower (cs : List Char) :
    readBytes? (cs.map Char.toLower) = readBytes? cs := by
  fun_induction readBytes? cs with
  | case1 => rfl
  | case2 => rfl
  | case3 high low cs ih => simp [readBytes?, hexDigit?_toLower, ih]

end Bytes

section Size

theorem utf8Len_of_ascii {cs : List Char} (ascii : ∀ c ∈ cs, c.toNat < 128) :
    String.utf8Len cs = cs.length := by
  induction cs with
  | nil => rfl
  | cons c cs ih =>
    obtain ⟨first, later⟩ := List.forall_mem_cons.1 ascii
    have one : c.utf8Size = 1 := by
      rw [Char.utf8Size_eq_one_iff, UInt32.le_iff_toNat_le]
      exact Nat.le_of_lt_succ first
    rw [String.utf8Len_cons, ih later, one, List.length_cons]

theorem length_le_utf8Len (cs : List Char) : cs.length ≤ String.utf8Len cs := by
  induction cs with
  | nil => exact Nat.le_refl 0
  | cons c cs ih =>
    rw [String.utf8Len_cons, List.length_cons]
    exact Nat.add_le_add ih c.utf8Size_pos

end Size

namespace Uuid

theorem ofBytes?_eq_some_iff {bytes : List UInt8} {id : Uuid} :
    ofBytes? bytes = some id ↔ bytes = id.bytes.toList := by
  obtain ⟨⟨array, size⟩⟩ := id
  unfold ofBytes?
  split
  next length =>
    simp only [Option.some.injEq, Uuid.mk.injEq, Vector.mk.injEq, Vector.toList_mk]
    exact ⟨fun same => by rw [← same], fun same => by rw [same]⟩
  next other =>
    refine iff_of_false (by simp) fun same => other ?_
    rw [same, Vector.toList_mk, Array.length_toList, size]

theorem ofDigits?_eq_some_iff {cs : List Char} {id : Uuid} :
    ofDigits? cs = some id ↔ WritesBytes cs id.bytes.toList := by
  simp [ofDigits?, Option.bind_eq_some_iff, ofBytes?_eq_some_iff, readBytes?_eq_some_iff]

theorem length_of_ofDigits? {cs : List Char} {id : Uuid} (read : ofDigits? cs = some id) :
    cs.length = 32 := by
  have length := (ofDigits?_eq_some_iff.1 read).length_eq
  simpa using length

structure Grouped (text a b c d e : List Char) : Prop where
  whole : text = List.intercalate ['-'] [a, b, c, d, e]
  lengths : [a, b, c, d, e].map List.length = [8, 4, 4, 4, 12]
  digits : ∀ group ∈ [a, b, c, d, e], ∀ x ∈ group, IsHex x

theorem not_isHex_dash : ¬ IsHex '-' := by decide

theorem exists_of_lengths {groups : List (List Char)}
    (lengths : groups.map List.length = groupLengths) : ∃ a b c d e, groups = [a, b, c, d, e] := by
  simp only [groupLengths, List.map_eq_cons_iff, List.map_eq_nil_iff] at lengths
  obtain ⟨a, _, rfl, -, b, _, rfl, -, c, _, rfl, -, d, _, rfl, -, e, _, rfl, -, rfl⟩ := lengths
  exact ⟨a, b, c, d, e, rfl⟩

theorem ofGroups?_eq_some_iff {cs : List Char} {id : Uuid} :
    ofGroups? cs = some id ↔ ∃ a b c d e,
      Grouped cs a b c d e ∧ WritesBytes [a, b, c, d, e].flatten id.bytes.toList := by
  rw [ofGroups?]
  constructor
  · intro read
    split at read
    next lengths =>
      have writes := ofDigits?_eq_some_iff.1 read
      have hex := writes.isHex
      obtain ⟨a, b, c, d, e, groups⟩ := exists_of_lengths lengths
      rw [groups] at lengths writes hex
      refine ⟨a, b, c, d, e, ⟨?_, lengths, fun group member x inside => ?_⟩, writes⟩
      · rw [← groups, intercalate_splitAt]
      · exact hex x (List.mem_flatten_of_mem member inside)
    next => simp at read
  · rintro ⟨a, b, c, d, e, grouped, writes⟩
    have free : ∀ group ∈ [a, b, c, d, e], '-' ∉ group := fun group member dash =>
      not_isHex_dash (grouped.digits group member '-' dash)
    have groups : splitAt '-' cs = [a, b, c, d, e] := by
      rw [grouped.whole, splitAt_intercalate (by simp) free]
    have lengths : [a, b, c, d, e].map List.length = groupLengths := grouped.lengths
    rw [groups, if_pos lengths, ofDigits?_eq_some_iff]
    exact writes

namespace Grouped

variable {text a b c d e : List Char}

theorem char (grouped : Grouped text a b c d e) : ∀ x ∈ text, IsHex x ∨ x = '-' := by
  intro x member
  rw [grouped.whole] at member
  rcases mem_intercalate member with dash | ⟨group, among, inside⟩
  · exact .inr dash
  · exact .inl (grouped.digits group among x inside)

theorem group_lengths (grouped : Grouped text a b c d e) :
    a.length = 8 ∧ b.length = 4 ∧ c.length = 4 ∧ d.length = 4 ∧ e.length = 12 := by
  simpa using grouped.lengths

theorem length_eq (grouped : Grouped text a b c d e) : text.length = 36 := by
  rw [grouped.whole]
  simp [List.intercalate_cons_cons, grouped.group_lengths]

theorem ascii (grouped : Grouped text a b c d e) : ∀ x ∈ text, x.toNat < 128 := by
  intro x member
  rcases grouped.char x member with hex | rfl
  · rw [isHex_iff_toNat] at hex
    omega
  · decide

theorem utf8Len_eq (grouped : Grouped text a b c d e) : String.utf8Len text = 36 := by
  rw [utf8Len_of_ascii grouped.ascii, grouped.length_eq]

end Grouped

theorem exists_grouped {cs : List Char} {id : Uuid} (read : ofGroups? cs = some id) :
    ∃ a b c d e, Grouped cs a b c d e := by
  obtain ⟨a, b, c, d, e, grouped, -⟩ := ofGroups?_eq_some_iff.1 read
  exact ⟨a, b, c, d, e, grouped⟩

theorem bare_sublist (cs : List Char) : (bare cs).Sublist cs := by
  unfold bare
  dsimp only
  split
  · exact List.drop_sublist _ cs
  · split
    next =>
      split
      · exact (List.dropLast_sublist _).trans (List.sublist_cons_self _ _)
      · exact List.Sublist.refl _
    next => exact List.Sublist.refl _

theorem bare_of_char {cs : List Char} (char : ∀ x ∈ cs, IsHex x ∨ x = '-') : bare cs = cs := by
  cases cs with
  | nil => rfl
  | cons c cs =>
    have first := char c (by simp)
    have scheme : c ≠ 'u' := by
      rintro rfl
      exact absurd first (by decide)
    have brace : c ≠ '\x7b' := by
      rintro rfl
      exact absurd first (by decide)
    simp [bare, scheme.symm, brace]

theorem ofDigits?_of_utf8Len {cs : List Char} (size : String.utf8Len cs = 36) :
    ofDigits? cs = none := by
  cases read : ofDigits? cs with
  | none => rfl
  | some id =>
    have hex := (ofDigits?_eq_some_iff.1 read).isHex
    have ascii : ∀ x ∈ cs, x.toNat < 128 := fun x member => by
      have digit := (isHex_iff_toNat x).1 (hex x member)
      omega
    rw [utf8Len_of_ascii ascii, length_of_ofDigits? read] at size
    contradiction

-- The texts of thirty-six bytes that can be read at all are those in groups.
theorem ofText?_of_utf8Len {cs : List Char} {id : Uuid} :
    String.utf8Len cs = 36 ∧ ofText? cs = some id ↔ ofGroups? cs = some id := by
  constructor
  · rintro ⟨size, read⟩
    rw [ofText?, ofDigits?_of_utf8Len size] at read
    have inner : ofGroups? (bare cs) = some id := read
    obtain ⟨a, b, c, d, e, grouped⟩ := exists_grouped inner
    have some : cs.length ≤ 36 := size ▸ length_le_utf8Len cs
    have kept : bare cs = cs :=
      (bare_sublist cs).eq_of_length_le (by rw [grouped.length_eq]; exact some)
    rwa [kept] at inner
  · intro read
    obtain ⟨a, b, c, d, e, grouped⟩ := exists_grouped read
    have size := grouped.utf8Len_eq
    refine ⟨size, ?_⟩
    rw [ofText?, ofDigits?_of_utf8Len size, bare_of_char grouped.char]
    exact read

theorem ofGroups?_map_toLower (cs : List Char) :
    ofGroups? (cs.map Char.toLower) = ofGroups? cs := by
  have groups := splitAt_map toLower_eq_dash_iff cs
  have flatten : ((splitAt '-' cs).map (List.map Char.toLower)).flatten =
      (splitAt '-' cs).flatten.map Char.toLower := List.map_flatten.symm
  simp only [ofGroups?, groups, List.map_map, flatten, ofDigits?, readBytes?_map_toLower]
  congr 2
  simp

end Uuid

end FieldRules
