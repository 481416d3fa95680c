import FieldRules.Proofs.Json.Reader
import FieldRules.Proofs.Text.Hex
import Mathlib.Tactic.IntervalCases

set_option autoImplicit false

namespace FieldRules.Document

def HexDigit (c : Char) (k : Nat) : Prop :=
  k < 16 ∧ (c = Nat.digitChar k ∨ c = (Nat.digitChar k).toUpper)

instance (c : Char) (k : Nat) : Decidable (HexDigit c k) := inferInstanceAs (Decidable (_ ∧ _))

theorem HexDigit.hexDigit? {c : Char} {k : Nat} (digit : HexDigit c k) :
    FieldRules.hexDigit? c = some k := by
  obtain ⟨small, rfl | rfl⟩ := digit <;> interval_cases k <;> decide

inductive FourDigits : List Char → Nat → Prop
  | mk {a b c d : Char} {j k m n : Nat} (first : HexDigit a j) (second : HexDigit b k)
      (third : HexDigit c m) (fourth : HexDigit d n) :
      FourDigits [a, b, c, d] (16 * (16 * (16 * j + k) + m) + n)

def escapeLetters : List (Char × Char) :=
  [('"', '"'), ('\\', '\\'), ('/', '/'), ('b', '\x08'), ('f', '\x0C'), ('n', '\n'), ('r', '\r'),
    ('t', '\t')]

def IsPlain (c : Char) : Prop := c ≠ '"' ∧ c ≠ '\\' ∧ 0x20 ≤ c.toNat

instance (c : Char) : Decidable (IsPlain c) := inferInstanceAs (Decidable (_ ∧ _ ∧ _))

inductive CharSpelling : Char → List Char → Prop
  | plain {c : Char} (plain : IsPlain c) : CharSpelling c [c]
  | letter {letter c : Char} (escape : (letter, c) ∈ escapeLetters) : CharSpelling c ['\\', letter]
  | codePoint {c : Char} {digits : List Char} (hex : FourDigits digits c.toNat) :
      CharSpelling c ('\\' :: 'u' :: digits)
  | pair {c : Char} {first second : List Char} {high low : Nat} (hexHigh : FourDigits first high)
      (hexLow : FourDigits second low) (isHigh : 0xD800 ≤ high ∧ high < 0xDC00)
      (isLow : 0xDC00 ≤ low ∧ low < 0xE000)
      (joined : c.toNat = 0x10000 + (high - 0xD800) * 0x400 + (low - 0xDC00)) :
      CharSpelling c ('\\' :: 'u' :: first ++ '\\' :: 'u' :: second)

inductive TextSpelling : List Char → List Char → Prop
  | nil : TextSpelling [] []
  | cons {c : Char} {cs first later : List Char} (char : CharSpelling c first)
      (text : TextSpelling cs later) : TextSpelling (c :: cs) (first ++ later)

theorem textSpelling_plain {cs : List Char} (plain : ∀ c ∈ cs, IsPlain c) : TextSpelling cs cs := by
  induction cs with
  | nil => exact .nil
  | cons c cs ih =>
    obtain ⟨first, later⟩ := List.forall_mem_cons.1 plain
    exact .cons (.plain first) (ih later)

-- What is spelled reads as the given code points, in front of whatever is read behind it.
def ReadsAs (written : List Char) (units : List Nat) : Prop :=
  ∀ rest, takeCodePoints (written ++ rest) =
    (takeCodePoints rest).map fun (ns, left) => (units ++ ns, left)

theorem readsAs_plain {c : Char} (plain : IsPlain c) : ReadsAs [c] [c.toNat] := by
  intro rest
  obtain ⟨quote, backslash, printed⟩ := plain
  simp [takeCodePoints, backslash, Nat.not_lt.2 printed, Option.map_eq_bind]

theorem readsAs_letter {letter c : Char} (escape : (letter, c) ∈ escapeLetters) :
    ReadsAs ['\\', letter] [c.toNat] := by
  intro rest
  simp only [escapeLetters, List.mem_cons, Prod.mk.injEq, List.not_mem_nil, or_false] at escape
  rcases escape with ⟨rfl, rfl⟩ | ⟨rfl, rfl⟩ | ⟨rfl, rfl⟩ | ⟨rfl, rfl⟩ | ⟨rfl, rfl⟩ | ⟨rfl, rfl⟩ |
    ⟨rfl, rfl⟩ | ⟨rfl, rfl⟩ <;>
    simp [takeCodePoints, escaped?, Option.map_eq_bind]

theorem readsAs_hex {digits : List Char} {n : Nat} (hex : FourDigits digits n) :
    ReadsAs ('\\' :: 'u' :: digits) [n] := by
  intro rest
  cases hex with
  | mk first second third fourth =>
    simp [takeCodePoints, hexValue?, first.hexDigit?, second.hexDigit?, third.hexDigit?,
      fourth.hexDigit?, Option.map_eq_bind]

theorem ReadsAs.append {first later : List Char} {ms ns : List Nat} (front : ReadsAs first ms)
    (behind : ReadsAs later ns) : ReadsAs (first ++ later) (ms ++ ns) := by
  intro rest
  rw [List.append_assoc, front, behind, Option.map_map]
  simp [Function.comp_def]

theorem CharSpelling.exists_units {c : Char} {written : List Char}
    (spelling : CharSpelling c written) :
    ∃ units, ReadsAs written units ∧
      ∀ ns, joinPairs? (units ++ ns) = (joinPairs? ns).map (c :: ·) := by
  cases spelling with
  | plain plain => exact ⟨[c.toNat], readsAs_plain plain, joinPairs?_toNat_cons c⟩
  | letter escape => exact ⟨[c.toNat], readsAs_letter escape, joinPairs?_toNat_cons c⟩
  | codePoint hex => exact ⟨[c.toNat], readsAs_hex hex, joinPairs?_toNat_cons c⟩
  | @pair _ first second high low hexHigh hexLow isHigh isLow joined =>
    refine ⟨[high] ++ [low], (readsAs_hex hexHigh).append (readsAs_hex hexLow), fun ns => ?_⟩
    rw [List.append_assoc, List.singleton_append, List.singleton_append, joinPairs?.eq_def]
    simp only [if_pos isHigh, if_pos isLow, ← joined, Char.ofNat_toNat]

theorem TextSpelling.exists_units {cs written : List Char} (spelling : TextSpelling cs written) :
    ∃ units, ReadsAs written units ∧ joinPairs? units = some cs := by
  induction spelling with
  | nil => exact ⟨[], fun rest => by simp, rfl⟩
  | cons char _ ih =>
    obtain ⟨front, readFront, joinFront⟩ := char.exists_units
    obtain ⟨behind, readBehind, joinBehind⟩ := ih
    exact ⟨front ++ behind, readFront.append readBehind, by rw [joinFront, joinBehind]; rfl⟩

theorem TextSpelling.takeText {cs written : List Char} (spelling : TextSpelling cs written)
    (rest : List Char) :
    Document.takeText (written ++ '"' :: rest) = some (some (String.ofList cs), rest) := by
  obtain ⟨units, read, joined⟩ := spelling.exists_units
  simp [Document.takeText, read ('"' :: rest), takeCodePoints, joined]

theorem HexDigit.of_hexDigit? {c : Char} {k : Nat} (read : FieldRules.hexDigit? c = some k) :
    HexDigit c k := by
  have small := hexDigit?_lt read
  rw [hexDigit?_eq_some_iff] at read
  rw [← Char.ofNat_toNat c]
  generalize c.toNat = n at read ⊢
  rcases read with ⟨first, last, rfl⟩ | ⟨first, last, rfl⟩ | ⟨first, last, rfl⟩
  · interval_cases n <;> decide
  · interval_cases n <;> decide
  · interval_cases n <;> decide

theorem FourDigits.of_hexValue? {a b c d : Char} {n : Nat}
    (read : hexValue? [a, b, c, d] = some n) : FourDigits [a, b, c, d] n := by
  simp only [hexValue?, List.foldlM_cons, List.foldlM_nil, Option.bind_eq_bind,
    Option.bind_eq_some_iff, Option.map_eq_some_iff, Option.pure_def, Option.some.injEq] at read
  obtain ⟨_, ⟨j, first, rfl⟩, _, ⟨k, second, rfl⟩, _, ⟨m, third, rfl⟩, _, ⟨l, fourth, rfl⟩, rfl⟩ :=
    read
  have digits := FourDigits.mk (.of_hexDigit? first) (.of_hexDigit? second) (.of_hexDigit? third)
    (.of_hexDigit? fourth)
  simpa using digits

theorem FourDigits.lt {digits : List Char} {n : Nat} (hex : FourDigits digits n) : n < 0x10000 := by
  cases hex with
  | mk first second third fourth =>
    have := first.1
    have := second.1
    have := third.1
    have := fourth.1
    omega

theorem mem_escapeLetters_of_escaped? {letter c : Char} (read : escaped? letter = some c) :
    (letter, c) ∈ escapeLetters := by
  unfold escaped? at read
  split at read <;> simp_all [escapeLetters, eq_comm]

-- The ways to write a code point, be it half of a pair.
inductive UnitSpelling : Nat → List Char → Prop
  | plain {c : Char} (plain : IsPlain c) : UnitSpelling c.toNat [c]
  | letter {letter c : Char} (escape : (letter, c) ∈ escapeLetters) :
      UnitSpelling c.toNat ['\\', letter]
  | hex {digits : List Char} {n : Nat} (hex : FourDigits digits n) :
      UnitSpelling n ('\\' :: 'u' :: digits)

inductive UnitsSpelling : List Nat → List Char → Prop
  | nil : UnitsSpelling [] []
  | cons {n : Nat} {ns : List Nat} {first later : List Char} (unit : UnitSpelling n first)
      (units : UnitsSpelling ns later) : UnitsSpelling (n :: ns) (first ++ later)

theorem exists_unitsSpelling {cs rest : List Char} {ns : List Nat}
    (read : takeCodePoints cs = some (ns, rest)) :
    ∃ written, cs = written ++ '"' :: rest ∧ UnitsSpelling ns written := by
  induction cs using takeCodePoints.induct generalizing ns with
  | case1 => simp [takeCodePoints] at read
  | case2 cs =>
    simp only [takeCodePoints, Option.some.injEq, Prod.mk.injEq] at read
    obtain ⟨rfl, rfl⟩ := read
    exact ⟨[], rfl, .nil⟩
  | case3 a b c d cs ih =>
    simp only [takeCodePoints, bind, Option.bind_eq_some_iff, Option.some.injEq, Prod.mk.injEq,
      Prod.exists] at read
    obtain ⟨n, hex, ns, _, later, rfl, rfl⟩ := read
    obtain ⟨written, rfl, units⟩ := ih later
    exact ⟨_, by simp, .cons (.hex (.of_hexValue? hex)) units⟩
  | case4 letter cs noHex ih =>
    simp only [takeCodePoints, bind, Option.bind_eq_some_iff, Option.some.injEq, Prod.mk.injEq,
      Prod.exists] at read
    obtain ⟨c, escape, ns, _, later, rfl, rfl⟩ := read
    obtain ⟨written, rfl, units⟩ := ih later
    exact ⟨_, by simp, .cons (.letter (mem_escapeLetters_of_escaped? escape)) units⟩
  | case5 c cs quote _ _ control => simp [takeCodePoints, control] at read
  | case6 c cs quote _ escape printed ih =>
    simp only [takeCodePoints, printed, if_false, bind, Option.bind_eq_some_iff,
      Option.some.injEq, Prod.mk.injEq, Prod.exists] at read
    obtain ⟨ns, _, later, rfl, rfl⟩ := read
    have plain : IsPlain c := by
      refine ⟨quote, ?_, Nat.not_lt.1 printed⟩
      rintro rfl
      cases cs with
      | nil => simp [takeCodePoints] at later
      | cons letter cs => exact escape letter cs rfl rfl
    obtain ⟨written, rfl, units⟩ := ih later
    exact ⟨_, by simp, .cons (.plain plain) units⟩

theorem toNat_ofNat_of_isValidChar {n : Nat} (valid : n.isValidChar) :
    (Char.ofNat n).toNat = n := by
  rw [Char.ofNat, dif_pos valid]
  rfl

theorem UnitSpelling.charSpelling {n : Nat} {written : List Char} (unit : UnitSpelling n written)
    (whole : ¬ (0xD800 ≤ n ∧ n < 0xDC00) ∧ ¬ (0xDC00 ≤ n ∧ n < 0xE000)) :
    CharSpelling (Char.ofNat n) written := by
  cases unit with
  | @plain c plain =>
    rw [Char.ofNat_toNat]
    exact .plain plain
  | @letter letter c escape =>
    rw [Char.ofNat_toNat]
    exact .letter escape
  | hex hex =>
    refine .codePoint ?_
    have small := hex.lt
    have valid : n.isValidChar := by
      rw [Nat.isValidChar]
      omega
    rwa [toNat_ofNat_of_isValidChar valid]

-- No character is half of a pair, so a half is written in digits.
theorem UnitSpelling.fourDigits {n : Nat} {written : List Char} (unit : UnitSpelling n written)
    (half : 0xD800 ≤ n ∧ n < 0xE000) :
    ∃ digits, written = '\\' :: 'u' :: digits ∧ FourDigits digits n := by
  have valid (c : Char) : ¬ (0xD800 ≤ c.toNat ∧ c.toNat < 0xE000) := by
    have valid : c.toNat < 0xD800 ∨ 0xDFFF < c.toNat ∧ c.toNat < 0x110000 := c.valid
    omega
  cases unit with
  | @plain c => exact absurd half (valid c)
  | @letter _ c => exact absurd half (valid c)
  | hex hex => exact ⟨_, rfl, hex⟩

theorem UnitsSpelling.textSpelling {ns : List Nat} {written cs : List Char}
    (units : UnitsSpelling ns written) (joined : joinPairs? ns = some cs) :
    TextSpelling cs written := by
  induction ns using joinPairs?.induct generalizing written cs with
  | case1 =>
    cases units
    obtain rfl : cs = [] := by simpa [joinPairs?] using joined.symm
    exact .nil
  | case2 n isHigh low ns isLow ih =>
    rw [joinPairs?.eq_def] at joined
    simp only [if_pos isHigh, if_pos isLow, Option.map_eq_some_iff] at joined
    obtain ⟨later, joined, rfl⟩ := joined
    cases units with
    | cons high units =>
      cases units with
      | cons low' units =>
        obtain ⟨first, rfl, hexHigh⟩ := high.fourDigits (by omega)
        obtain ⟨second, rfl, hexLow⟩ := low'.fourDigits (by omega)
        have valid : (0x10000 + (n - 0xD800) * 0x400 + (low - 0xDC00)).isValidChar := by
          rw [Nat.isValidChar]
          omega
        have pair :=
          CharSpelling.pair hexHigh hexLow isHigh isLow (toNat_ofNat_of_isValidChar valid)
        simpa using TextSpelling.cons pair (ih units joined)
  | case3 n isHigh low ns noLow =>
    rw [joinPairs?.eq_def] at joined
    simp [isHigh, noLow] at joined
  | case4 n isHigh =>
    rw [joinPairs?.eq_def] at joined
    simp [isHigh] at joined
  | case5 n ns noHigh isLow =>
    rw [joinPairs?.eq_def] at joined
    simp [noHigh, isLow] at joined
  | case6 n ns noHigh noLow ih =>
    rw [joinPairs?.eq_def] at joined
    simp only [if_neg noHigh, if_neg noLow, Option.map_eq_some_iff] at joined
    obtain ⟨later, joined, rfl⟩ := joined
    cases units with
    | cons unit units => exact .cons (unit.charSpelling ⟨noHigh, noLow⟩) (ih units joined)

theorem exists_textSpelling {cs rest : List Char} {s : String}
    (read : Document.takeText cs = some (some s, rest)) :
    ∃ written, cs = written ++ '"' :: rest ∧ TextSpelling s.toList written := by
  simp only [Document.takeText, bind, Option.bind_eq_some_iff, Option.some.injEq, Prod.mk.injEq,
    Prod.exists, Option.map_eq_some_iff] at read
  obtain ⟨ns, _, taken, ⟨cs, joined, rfl⟩, rfl⟩ := read
  obtain ⟨written, rfl, units⟩ := exists_unitsSpelling taken
  refine ⟨written, rfl, ?_⟩
  rw [String.toList_ofList]
  exact units.textSpelling joined

inductive TextItem : List Char → String → Prop
  | quoted {front written back : List Char} {s : String} (gapFront : ∀ c ∈ front, isGap c = true)
      (gapBack : ∀ c ∈ back, isGap c = true) (spelling : TextSpelling s.toList written) :
      TextItem (front ++ '"' :: (written ++ ['"']) ++ back) s

theorem TextItem.itemText {piece : List Char} {s : String} (item : TextItem piece s) :
    ItemText piece (.text s) := by
  cases item with
  | quoted gapFront gapBack spelling =>
    refine itemText_of_takeText gapFront gapBack fun rest => ?_
    rw [spelling.takeText, String.ofList_toList]

inductive TextArray (text : List Char) (items : List String) : Prop
  | mk {front back : List Char} {pieces : List (List Char)}
      (gapFront : ∀ c ∈ front, isGap c = true) (gapBack : ∀ c ∈ back, isGap c = true)
      (nonempty : pieces ≠ []) (quoted : List.Forall₂ TextItem pieces items)
      (whole : text = front ++ '[' :: (List.intercalate [','] pieces ++ [']']) ++ back)

theorem textArray_of_escapes :
    TextArray " [ \"\\\"\",\"\\u00E9\" ,\n\"\\ud83d\\uDE00\"]".toList ["\"", "é", "😀"] := by
  have accent : FourDigits ['0', '0', 'E', '9'] 'é'.toNat :=
    .mk (j := 0) (k := 0) (m := 14) (n := 9) (by decide) (by decide) (by decide) (by decide)
  have high : FourDigits ['d', '8', '3', 'd'] 0xD83D :=
    .mk (j := 13) (k := 8) (m := 3) (n := 13) (by decide) (by decide) (by decide) (by decide)
  have low : FourDigits ['D', 'E', '0', '0'] 0xDE00 :=
    .mk (j := 13) (k := 14) (m := 0) (n := 0) (by decide) (by decide) (by decide) (by decide)
  have first : TextSpelling "\"".toList ['\\', '"'] :=
    .cons (.letter (by decide)) .nil
  have second : TextSpelling "é".toList ['\\', 'u', '0', '0', 'E', '9'] :=
    .cons (CharSpelling.codePoint accent) .nil
  have third : TextSpelling "😀".toList
      ['\\', 'u', 'd', '8', '3', 'd', '\\', 'u', 'D', 'E', '0', '0'] :=
    .cons (.pair high low (by decide) (by decide) (by decide)) .nil
  have noGap : ∀ c ∈ ([] : List Char), isGap c = true := by simp
  have gap : ∀ c ∈ [' '], isGap c = true := by simp [isGap]
  have newline : ∀ c ∈ ['\n'], isGap c = true := by simp [isGap]
  have quoted := List.Forall₂.cons (TextItem.quoted gap noGap first)
    (.cons (.quoted noGap gap second) (.cons (.quoted newline noGap third) .nil))
  exact .mk gap noGap (by simp) quoted (by decide +kernel)

theorem itemTexts_of_textItems {pieces : List (List Char)} {items : List String}
    (quoted : List.Forall₂ TextItem pieces items) :
    List.Forall₂ ItemText pieces (items.map Document.text) :=
  List.forall₂_map_right_iff.2 (quoted.imp fun _ _ item => item.itemText)

theorem jsonItems?_texts (items : List String) :
    jsonItems? (items.map Document.text) = some (items.map Json.text) := by
  induction items with
  | nil => rfl
  | cons item items ih => simp [jsonItems?, json?, ih]

end FieldRules.Document
