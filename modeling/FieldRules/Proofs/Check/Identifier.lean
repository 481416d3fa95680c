import FieldRules.Proofs.Check.Interval
import FieldRules.Proofs.Text.Uuid

set_option autoImplicit false

namespace FieldRules

namespace Uuid

variable {text a b c d e : List Char} {id : Uuid}

theorem ofNat_shiftRight_eq_four_iff :
    ∀ h < 16, ∀ l < 16, UInt8.ofNat (16 * h + l) >>> 4 = 4 ↔ h = 4 := by
  decide +kernel

theorem variant_ofNat_eq_bits10_iff :
    ∀ h < 16, ∀ l < 16, Variant.ofByte (.ofNat (16 * h + l)) = .bits10 ↔ 8 ≤ h ∧ h ≤ 11 := by
  decide +kernel

theorem hexDigit?_four_iff {x : Char} {h : Nat} (digit : hexDigit? x = some h) :
    h = 4 ↔ x = '4' := by
  rw [hexDigit?_eq_some_iff] at digit
  simp only [← Char.toNat_inj, Char.reduceToNat]
  omega

theorem hexDigit?_eight_to_eleven_iff {x : Char} {h : Nat} (digit : hexDigit? x = some h) :
    8 ≤ h ∧ h ≤ 11 ↔ x ∈ ['8', '9', 'a', 'b', 'A', 'B'] := by
  rw [hexDigit?_eq_some_iff] at digit
  simp only [List.mem_cons, List.not_mem_nil, or_false, ← Char.toNat_inj, Char.reduceToNat]
  omega

-- The digits in front of the third and of the fourth group tell version and variant.
structure IsMarked (third fourth : List Char) : Prop where
  version : third.head? = some '4'
  variant : ∃ x ∈ ['8', '9', 'a', 'b', 'A', 'B'], fourth.head? = some x

theorem exists_high_digit {cs : List Char} (writes : WritesBytes cs id.bytes.toList) {i : Nat}
    (within : i < 16) :
    ∃ x h l, cs[2 * i]? = some x ∧ hexDigit? x = some h ∧ l < 16 ∧
      id.bytes[i] = UInt8.ofNat (16 * h + l) := by
  have length : cs.length = 32 := by simpa using writes.length_eq
  have digit : cs[2 * i]? = some cs[2 * i] := List.getElem?_eq_getElem (by omega)
  obtain ⟨h, l, high, low, byte⟩ := writes.exists_byte digit
  refine ⟨_, h, l, digit, high, low, ?_⟩
  simpa [within] using byte

theorem version_eq_four_iff {cs : List Char} (writes : WritesBytes cs id.bytes.toList) :
    id.version = 4 ↔ cs[12]? = some '4' := by
  obtain ⟨x, h, l, digit, high, low, byte⟩ := exists_high_digit writes (by decide : 6 < 16)
  rw [version, byte, ofNat_shiftRight_eq_four_iff h (hexDigit?_lt high) l low,
    hexDigit?_four_iff high, digit, Option.some.injEq]

theorem variant_eq_bits10_iff {cs : List Char} (writes : WritesBytes cs id.bytes.toList) :
    id.variant = .bits10 ↔ ∃ x ∈ ['8', '9', 'a', 'b', 'A', 'B'], cs[16]? = some x := by
  obtain ⟨x, h, l, digit, high, low, byte⟩ := exists_high_digit writes (by decide : 8 < 16)
  rw [variant, byte, variant_ofNat_eq_bits10_iff h (hexDigit?_lt high) l low,
    hexDigit?_eight_to_eleven_iff high, digit]
  simp only [Option.some.injEq, exists_eq_right']

namespace Grouped

theorem exists_id (grouped : Grouped text a b c d e) :
    ∃ id : Uuid, WritesBytes [a, b, c, d, e].flatten id.bytes.toList := by
  have length : [a, b, c, d, e].flatten.length = 2 * 16 := by simp [grouped.group_lengths]
  have hex : ∀ x ∈ [a, b, c, d, e].flatten, IsHex x := fun x member =>
    let ⟨group, among, inside⟩ := List.mem_flatten.1 member
    grouped.digits group among x inside
  obtain ⟨bytes, writes⟩ := WritesBytes.exists_of_isHex length hex
  have size : bytes.length = 16 := by
    have twice := writes.length_eq
    omega
  exact ⟨⟨bytes.toArray, by simpa using size⟩, by simpa using writes⟩

theorem first_digits (grouped : Grouped text a b c d e) :
    [a, b, c, d, e].flatten[12]? = c.head? ∧ [a, b, c, d, e].flatten[16]? = d.head? := by
  have lengths := grouped.group_lengths
  have behind (front group rest : List Char) (some : 0 < group.length) :
      (front ++ (group ++ rest))[front.length]? = group.head? := by
    rw [List.getElem?_append_right (Nat.le_refl _), Nat.sub_self, List.getElem?_append_left some,
      List.head?_eq_getElem?]
  have third := behind (a ++ b) c (d ++ e) (by omega)
  have fourth := behind (a ++ (b ++ c)) d e (by omega)
  simp only [List.length_append, List.append_assoc, lengths] at third fourth
  simpa using And.intro third fourth

theorem isVersion4_iff (grouped : Grouped text a b c d e)
    (writes : WritesBytes [a, b, c, d, e].flatten id.bytes.toList) :
    id.isVersion4 = true ↔ IsMarked c d := by
  obtain ⟨third, fourth⟩ := grouped.first_digits
  rw [isVersion4, Bool.and_eq_true, beq_iff_eq, beq_iff_eq, version_eq_four_iff writes, third,
    variant_eq_bits10_iff writes, fourth]
  exact ⟨fun ⟨version, variant⟩ => ⟨version, variant⟩, fun marked => ⟨marked.1, marked.2⟩⟩

end Grouped

end Uuid

open Uuid

theorem isIdentifier_text_iff_ofGroups? (s : String) :
    isIdentifier (.text s) = true ↔
      ∃ id, ofGroups? s.toList = some id ∧ id.isVersion4 = true := by
  have size : s.utf8ByteSize = String.utf8Len s.toList := by
    rw [← String.utf8ByteSize_ofList, String.ofList_toList]
  simp only [isIdentifier, Bool.and_eq_true, beq_iff_eq, Option.any_eq_true, size,
    ← ofText?_of_utf8Len, and_assoc, exists_and_left]

theorem isIdentifier_text_iff (s : String) :
    isIdentifier (.text s) = true ↔ ∃ a b c d e, Grouped s.toList a b c d e ∧ IsMarked c d := by
  rw [isIdentifier_text_iff_ofGroups?]
  constructor
  · rintro ⟨id, groups, version⟩
    obtain ⟨a, b, c, d, e, grouped, writes⟩ := ofGroups?_eq_some_iff.1 groups
    exact ⟨a, b, c, d, e, grouped, (grouped.isVersion4_iff writes).1 version⟩
  · rintro ⟨a, b, c, d, e, grouped, marked⟩
    obtain ⟨id, writes⟩ := grouped.exists_id
    exact ⟨id, ofGroups?_eq_some_iff.2 ⟨a, b, c, d, e, grouped, writes⟩,
      (grouped.isVersion4_iff writes).2 marked⟩

theorem isIdentifier_text_congr {s t : String}
    (letters : s.toList.map Char.toLower = t.toList.map Char.toLower) :
    isIdentifier (.text s) = isIdentifier (.text t) := by
  have same : ofGroups? s.toList = ofGroups? t.toList := by
    rw [← ofGroups?_map_toLower, letters, ofGroups?_map_toLower]
  rw [Bool.eq_iff_iff, isIdentifier_text_iff_ofGroups?, isIdentifier_text_iff_ofGroups?, same]

namespace Kind

variable (now : Moment) (param : Option String)

theorem check_uuid_of_groups :
    (∀ v : Json, check now .uuid v param = .pass ↔ ∃ s a b c d e, v = .text s ∧
      s.toList.length = 36 ∧ (∀ x ∈ s.toList, x.toNat < 128) ∧
        Grouped s.toList a b c d e ∧ IsMarked c d) ∧
    ∀ s t : String, s.toList.map Char.toLower = t.toList.map Char.toLower →
      check now .uuid (.text s) param = check now .uuid (.text t) param := by
  have reads : condition now param .uuid = .ok isIdentifier := rfl
  constructor
  next =>
    intro v
    rw [check_eq_pass_iff reads]
    cases v with
    | text s =>
      rw [isIdentifier_text_iff]
      constructor
      · rintro ⟨a, b, c, d, e, grouped, marked⟩
        exact ⟨s, a, b, c, d, e, rfl, grouped.length_eq, grouped.ascii, grouped, marked⟩
      · rintro ⟨_, a, b, c, d, e, ⟨rfl⟩, -, -, grouped, marked⟩
        exact ⟨a, b, c, d, e, grouped, marked⟩
    | null | bool | number | array | object => simp [isIdentifier]
  next =>
    intro s t letters
    simp only [check, reads, isIdentifier_text_congr letters]

theorem check_uuid_of_groups_of_letters :
    let mixed := "5FCB09a4-f5cc-46EF-Aa76-8d185e6490ab"
    let plain := "5fcb09a4-f5cc-46ef-aa76-8d185e6490ab"
    mixed.toList.map Char.toLower = plain.toList.map Char.toLower ∧
      check (.midnight 0) .uuid (.text mixed) none = .pass ∧
      check (.midnight 0) .uuid (.text plain) none = .pass := by
  intro mixed plain
  have letters : mixed.toList.map Char.toLower = plain.toList.map Char.toLower := by
    decide +kernel
  obtain ⟨passes, cases⟩ := check_uuid_of_groups (.midnight 0) none
  have grouped : Grouped plain.toList "5fcb09a4".toList "f5cc".toList "46ef".toList "aa76".toList
      "8d185e6490ab".toList := ⟨by decide +kernel, by decide, by simp [IsHex]⟩
  have marked : IsMarked "46ef".toList "aa76".toList := ⟨rfl, 'a', by decide, rfl⟩
  have pass : check (.midnight 0) .uuid (.text plain) none = .pass :=
    (passes _).2 ⟨plain, _, _, _, _, _, rfl, grouped.length_eq, grouped.ascii, grouped, marked⟩
  exact ⟨letters, (cases _ _ letters).trans pass, pass⟩

end Kind

end FieldRules
