import FieldRules.Proofs.Check.Interval
import FieldRules.Proofs.Pattern.Form
import FieldRules.Proofs.Pattern.Reading
import FieldRules.Proofs.Text.Letter
import FieldRules.Proofs.Text.Split

set_option autoImplicit false

namespace FieldRules

theorem textWith_eq_true_iff {holds : List Char → Bool} (v : Json) :
    textWith holds v = true ↔ ∃ s, v = .text s ∧ holds s.toList = true := by
  cases v with
  | text s => simp [textWith]
  | null | bool | number | array | object => simp [textWith]

namespace Wording

open Pattern

def letterSet : CharSet := ⟨[(0x41, 0x5A), (0x61, 0x7A)]⟩

def alphanumSet : CharSet := ⟨[(0x30, 0x39), (0x41, 0x5A), (0x61, 0x7A)]⟩

def hostSet : CharSet := ⟨[(0x2D, 0x2E), (0x30, 0x39), (0x41, 0x5A), (0x61, 0x7A)]⟩

def localSet : CharSet :=
  ⟨[(0x25, 0x25), (0x2B, 0x2B), (0x2D, 0x2E), (0x30, 0x39), (0x41, 0x5A), (0x5F, 0x5F),
    (0x61, 0x7A)]⟩

def IsHostChar (c : Char) : Prop := c.isAlphanum = true ∨ c ∈ ['.', '-']

instance (c : Char) : Decidable (IsHostChar c) := inferInstanceAs (Decidable (_ ∨ _))

def IsLocalChar (c : Char) : Prop := c.isAlphanum = true ∨ c ∈ ['.', '_', '%', '+', '-']

instance (c : Char) : Decidable (IsLocalChar c) := inferInstanceAs (Decidable (_ ∨ _))

theorem contains_letterSet_iff (c : Char) : letterSet.contains c = true ↔ c.isAlpha = true := by
  simp only [letterSet, CharSet.contains_cons_iff, CharSet.contains_nil, isAlpha_iff,
    Bool.false_eq_true, or_false]
  omega

theorem contains_alphanumSet_iff (c : Char) :
    alphanumSet.contains c = true ↔ c.isAlphanum = true := by
  simp only [alphanumSet, CharSet.contains_cons_iff, CharSet.contains_nil, isAlphanum_iff,
    isAlpha_iff, Bool.false_eq_true, or_false]
  omega

theorem contains_hostSet_iff (c : Char) : hostSet.contains c = true ↔ IsHostChar c := by
  simp only [hostSet, CharSet.contains_cons_iff, CharSet.contains_nil, IsHostChar, isAlphanum_iff,
    isAlpha_iff, List.mem_cons, List.not_mem_nil, ← Char.toNat_inj, Char.reduceToNat,
    Bool.false_eq_true, or_false]
  omega

theorem contains_localSet_iff (c : Char) : localSet.contains c = true ↔ IsLocalChar c := by
  simp only [localSet, CharSet.contains_cons_iff, CharSet.contains_nil, IsLocalChar, isAlphanum_iff,
    isAlpha_iff, List.mem_cons, List.not_mem_nil, ← Char.toNat_inj, Char.reduceToNat,
    Bool.false_eq_true, or_false]
  omega

theorem hasForm_iff {form : Option Pattern} {ts : List Term} {L : Language Char}
    (tied : form = some ⟨(anchored ts).expr⟩) (writes : Writes (SpansInTurn ts) L)
    (cs : List Char) : hasForm form cs = true ↔ cs ∈ L := by
  rw [← occursIn_anchored_iff writes, tied, hasForm, Option.any_some]

theorem hasForm_letters_iff {form : Option Pattern} {s : CharSet}
    (tied : form = some ⟨(anchored [.repetition 1 none (.chars s)]).expr⟩) (cs : List Char) :
    hasForm form cs = true ↔ cs ≠ [] ∧ ∀ c ∈ cs, s.contains c = true := by
  rw [hasForm_iff tied (writes_repetition s 1).last, mem_letters_one_iff]

def letterNode : SetNode :=
  .bracketed false (.union [.range ⟨'a', false⟩ ⟨'z', false⟩, .range ⟨'A', false⟩ ⟨'Z', false⟩])

def alphanumNode : SetNode :=
  .bracketed false (.union [.range ⟨'a', false⟩ ⟨'z', false⟩, .range ⟨'A', false⟩ ⟨'Z', false⟩,
    .range ⟨'0', false⟩ ⟨'9', false⟩])

def hostNode : SetNode :=
  .bracketed false (.union [.range ⟨'a', false⟩ ⟨'z', false⟩, .range ⟨'A', false⟩ ⟨'Z', false⟩,
    .range ⟨'0', false⟩ ⟨'9', false⟩, .literal ⟨'.', false⟩, .literal ⟨'-', false⟩])

def localNode : SetNode :=
  .bracketed false (.union [.range ⟨'a', false⟩ ⟨'z', false⟩, .range ⟨'A', false⟩ ⟨'Z', false⟩,
    .range ⟨'0', false⟩ ⟨'9', false⟩, .literal ⟨'.', false⟩, .literal ⟨'_', false⟩,
    .literal ⟨'%', false⟩, .literal ⟨'+', false⟩, .literal ⟨'-', false⟩])

theorem set?_nodes :
    letterNode.set? {} = some letterSet ∧ alphanumNode.set? {} = some alphanumSet ∧
      hostNode.set? {} = some hostSet ∧ localNode.set? {} = some localSet := by
  simp [letterNode, alphanumNode, hostNode, localNode, letterSet, alphanumSet, hostSet, localSet,
    SetNode.set?, items?, finish?, CharSet.union, CharSet.ofRanges, CharSet.range, CharSet.single,
    CharSet.empty, CharSet.withoutSurrogates, CharSet.join, List.mergeSort,
    List.MergeSort.Internal.splitInTwo]

def runNodes (node : SetNode) : List Node :=
  [.anchor .lineStart, .repetition 1 none (.set node), .anchor .lineEnd]

theorem ofText?_run {cs : List Char} {node : SetNode} {s : CharSet}
    (opened : Opens cs node ['+', '$'])
    (shallow : (Node.alternation [.sequence (runNodes node)]).depth ≤ 250)
    (set : node.set? {} = some s)
    (cheap : (Term.alternation [anchored [.repetition 1 none (.chars s)]]).cost ≤ costLimit) :
    ofText? ('^' :: '[' :: cs) = some ⟨(anchored [.repetition 1 none (.chars s)]).expr⟩ := by
  have size : 2 * ('^' :: '[' :: cs).length + 1 = 2 * cs.length + 5 := by
    simp
    omega
  have read : takeItems (2 * ('^' :: '[' :: cs).length + 1) ⟨false, []⟩ [] ('^' :: '[' :: cs) =
      some (runNodes node, ⟨false, []⟩, []) := by
    rw [size, takeItems_lineStart rfl, takeItems_bracket rfl opened, takeItems_plus rfl (by decide),
      takeItems_lineEnd rfl]
    rfl
  have meant : (Node.alternation [.sequence (runNodes node)]).term? {} =
      some (.alternation [anchored [.repetition 1 none (.chars s)]], {}) := by
    simp [runNodes, Node.term?, terms?, set, look, anchored, Term.repeated, Term.isZeroWidth]
  exact ofText?_of_node (readNode?_of_items read shallow) meant cheap rfl

theorem hasForm_alpha_iff (cs : List Char) :
    hasForm alphaForm cs = true ↔ cs ≠ [] ∧ ∀ c ∈ cs, c.isAlpha = true := by
  have opened : Opens "a-zA-Z]+$".toList letterNode ['+', '$'] := rfl
  have tied : alphaForm = some ⟨(anchored [.repetition 1 none (.chars letterSet)]).expr⟩ :=
    ofText?_run opened (by decide) set?_nodes.1 (by decide)
  simp only [hasForm_letters_iff tied, contains_letterSet_iff]

theorem hasForm_alphaNumeric_iff (cs : List Char) :
    hasForm alphaNumericForm cs = true ↔ cs ≠ [] ∧ ∀ c ∈ cs, c.isAlphanum = true := by
  have opened : Opens "a-zA-Z0-9]+$".toList alphanumNode ['+', '$'] := rfl
  have tied : alphaNumericForm =
      some ⟨(anchored [.repetition 1 none (.chars alphanumSet)]).expr⟩ :=
    ofText?_run opened (by decide) set?_nodes.2.1 (by decide)
  simp only [hasForm_letters_iff tied, contains_alphanumSet_iff]

def emailTerms : List Term :=
  [.repetition 1 none (.chars localSet), .chars (.single '@'),
    .repetition 1 none (.chars hostSet), .chars (.single '.'),
    .repetition 2 none (.chars letterSet)]

def emailNodes : List Node :=
  [.anchor .lineStart, .repetition 1 none (.set localNode), .literal ⟨'@', false⟩,
    .repetition 1 none (.set hostNode), .literal ⟨'.', false⟩,
    .repetition 2 none (.set letterNode), .anchor .lineEnd]

theorem readNode?_email :
    readNode? "^[a-zA-Z0-9._%+-]+@[a-zA-Z0-9.-]+\\.[a-zA-Z]\x7b2,\x7d$".toList =
      some (.alternation [.sequence emailNodes]) := by
  have opened : Opens "a-zA-Z0-9._%+-]+@[a-zA-Z0-9.-]+\\.[a-zA-Z]\x7b2,\x7d$".toList
      localNode ('+' :: '@' :: '[' :: "a-zA-Z0-9.-]+\\.[a-zA-Z]\x7b2,\x7d$".toList) := rfl
  have opened' : Opens "a-zA-Z0-9.-]+\\.[a-zA-Z]\x7b2,\x7d$".toList hostNode
      ('+' :: '\\' :: '.' :: '[' :: "a-zA-Z]\x7b2,\x7d$".toList) := rfl
  have opened'' : Opens "a-zA-Z]\x7b2,\x7d$".toList letterNode
      ('\x7b' :: "2,\x7d$".toList) := rfl
  have bounds : takeBounds false "2,\x7d$".toList = some (2, none, ['$']) := by decide +kernel
  have read : takeItems 97 ⟨false, []⟩ []
      ('^' :: '[' :: "a-zA-Z0-9._%+-]+@[a-zA-Z0-9.-]+\\.[a-zA-Z]\x7b2,\x7d$".toList) =
        some (emailNodes, ⟨false, []⟩, []) := by
    rw [takeItems_lineStart rfl, takeItems_bracket rfl opened, takeItems_plus rfl (by decide),
      takeItems_atSign rfl, takeItems_bracket rfl opened', takeItems_plus rfl (by decide),
      takeItems_point rfl, takeItems_bracket rfl opened'', takeItems_bounds rfl bounds (by decide),
      takeItems_lineEnd rfl]
    rfl
  exact readNode?_of_items read (by decide)

theorem emailForm_eq : emailForm = some ⟨(anchored emailTerms).expr⟩ := by
  have meant : (Node.alternation [.sequence emailNodes]).term? {} =
      some (.alternation [anchored emailTerms], {}) := by
    simp [emailNodes, Node.term?, terms?, set?_nodes, look, anchored, Term.repeated,
      Term.isZeroWidth, literalSet?, emailTerms]
  exact ofText?_of_node readNode?_email meant (by decide) rfl

def emailLanguage : Language Char :=
  letters localSet 1 * (letter (.single '@') *
    (letters hostSet 1 * (letter (.single '.') * letters letterSet 2)))

theorem writes_emailTerms : Writes (SpansInTurn emailTerms) emailLanguage := by
  exact (writes_repetition localSet 1).comp ((writes_chars (.single '@')).comp
    ((writes_repetition hostSet 1).comp ((writes_chars (.single '.')).comp
      (writes_repetition letterSet 2).last)))

structure EmailParts (name host top : List Char) : Prop where
  name_ne_nil : name ≠ []
  name_chars : ∀ c ∈ name, IsLocalChar c
  host_ne_nil : host ≠ []
  host_chars : ∀ c ∈ host, IsHostChar c
  top_length : 2 ≤ top.length
  top_letters : ∀ c ∈ top, c.isAlpha = true

structure EmailCut (text name host top : List Char) : Prop where
  whole : text = name ++ '@' :: (host ++ '.' :: top)
  name_free : '@' ∉ name
  only_sign : '@' ∉ host ++ '.' :: top
  last_point : '.' ∉ top

theorem mem_emailLanguage_iff (text : List Char) :
    text ∈ emailLanguage ↔ ∃ name host top,
      text = name ++ '@' :: (host ++ '.' :: top) ∧ EmailParts name host top := by
  constructor
  · intro member
    obtain ⟨name, first, _, fromSign, rfl⟩ := Language.mem_mul.1 member
    obtain ⟨_, behindSign, rfl⟩ := mem_single_mul_iff.1 fromSign
    obtain ⟨host, second, _, fromPoint, rfl⟩ := Language.mem_mul.1 behindSign
    obtain ⟨top, third, rfl⟩ := mem_single_mul_iff.1 fromPoint
    rw [mem_letters_one_iff] at first second
    rw [mem_letters_iff] at third
    simp only [contains_localSet_iff, contains_hostSet_iff, contains_letterSet_iff]
      at first second third
    exact ⟨name, host, top, rfl, {
      name_ne_nil := first.1
      name_chars := first.2
      host_ne_nil := second.1
      host_chars := second.2
      top_length := third.1
      top_letters := third.2 }⟩
  · rintro ⟨name, host, top, rfl, parts⟩
    have first : name ∈ letters localSet 1 := by
      simp only [mem_letters_one_iff, contains_localSet_iff]
      exact ⟨parts.name_ne_nil, parts.name_chars⟩
    have second : host ∈ letters hostSet 1 := by
      simp only [mem_letters_one_iff, contains_hostSet_iff]
      exact ⟨parts.host_ne_nil, parts.host_chars⟩
    have third : top ∈ letters letterSet 2 := by
      simp only [mem_letters_iff, contains_letterSet_iff]
      exact ⟨parts.top_length, parts.top_letters⟩
    have behindSign : host ++ '.' :: top ∈
        letters hostSet 1 * (letter (.single '.') * letters letterSet 2) :=
      Language.append_mem_mul second (mem_single_mul_iff.2 ⟨top, third, rfl⟩)
    exact Language.append_mem_mul first (mem_single_mul_iff.2 ⟨_, behindSign, rfl⟩)

theorem EmailParts.cut {name host top : List Char} (parts : EmailParts name host top) :
    EmailCut (name ++ '@' :: (host ++ '.' :: top)) name host top where
  whole := rfl
  name_free member := absurd (parts.name_chars '@' member) (by decide)
  only_sign := by
    simp only [List.mem_append, List.mem_cons, not_or]
    refine ⟨fun member => absurd (parts.host_chars '@' member) (by decide), by decide,
      fun member => absurd (parts.top_letters '@' member) (by decide)⟩
  last_point member := absurd (parts.top_letters '.' member) (by decide)

theorem hasForm_email_iff (text : List Char) :
    hasForm emailForm text = true ↔ ∃ name host top,
      EmailCut text name host top ∧ EmailParts name host top := by
  rw [hasForm_iff emailForm_eq writes_emailTerms, mem_emailLanguage_iff]
  constructor
  · rintro ⟨name, host, top, rfl, parts⟩
    exact ⟨name, host, top, parts.cut, parts⟩
  · rintro ⟨name, host, top, cut, parts⟩
    exact ⟨name, host, top, cut.whole, parts⟩

theorem EmailCut.unique {text name host top name' host' top' : List Char}
    (cut : EmailCut text name host top) (cut' : EmailCut text name' host' top') :
    name = name' ∧ host = host' ∧ top = top' := by
  have atSign := splitOnce_append_of_not_mem cut.name_free (host ++ '.' :: top)
  have atSign' := splitOnce_append_of_not_mem cut'.name_free (host' ++ '.' :: top')
  rw [← cut.whole] at atSign
  rw [← cut'.whole, atSign] at atSign'
  obtain ⟨rfl, behind⟩ := Prod.mk.inj (Option.some.inj atSign')
  have turned (host top : List Char) :
      (host ++ '.' :: top).reverse = top.reverse ++ '.' :: host.reverse := by simp
  have atPoint := splitOnce_append_of_not_mem (mt List.mem_reverse.1 cut.last_point) host.reverse
  have atPoint' := splitOnce_append_of_not_mem (mt List.mem_reverse.1 cut'.last_point) host'.reverse
  rw [← turned, behind, turned, atPoint'] at atPoint
  obtain ⟨same, same'⟩ := Prod.mk.inj (Option.some.inj atPoint)
  exact ⟨rfl, List.reverse_injective same'.symm, List.reverse_injective same.symm⟩

end Wording

namespace Kind

open Wording

variable (now : Moment) (param : Option String)

theorem check_alpha_iff (v : Json) : check now .alpha v param = .pass ↔
    ∃ s, v = .text s ∧ s.toList ≠ [] ∧ ∀ c ∈ s.toList, c.isAlpha = true := by
  have reads : condition now param .alpha = .ok (textWith (hasForm alphaForm)) := rfl
  simp only [check_eq_pass_iff reads, textWith_eq_true_iff, hasForm_alpha_iff]

theorem check_alphaNumeric_iff (v : Json) : check now .alphaNumeric v param = .pass ↔
    ∃ s, v = .text s ∧ s.toList ≠ [] ∧ ∀ c ∈ s.toList, c.isAlphanum = true := by
  have reads : condition now param .alphaNumeric = .ok (textWith (hasForm alphaNumericForm)) := rfl
  simp only [check_eq_pass_iff reads, textWith_eq_true_iff, hasForm_alphaNumeric_iff]

theorem check_email_of_cut :
    (∀ v : Json, check now .email v param = .pass ↔ ∃ s name host top,
      v = .text s ∧ EmailCut s.toList name host top ∧ EmailParts name host top) ∧
    ∀ (s : String) (name host top : List Char), EmailCut s.toList name host top →
      (check now .email (.text s) param = .pass ↔ EmailParts name host top) := by
  have reads : condition now param .email = .ok (textWith (hasForm emailForm)) := rfl
  have passes (v : Json) : check now .email v param = .pass ↔ ∃ s name host top,
      v = .text s ∧ EmailCut s.toList name host top ∧ EmailParts name host top := by
    simp only [check_eq_pass_iff reads, textWith_eq_true_iff, hasForm_email_iff, exists_and_left]
  refine ⟨passes, fun s name host top cut => ?_⟩
  rw [passes]
  constructor
  · rintro ⟨_, name', host', top', ⟨rfl⟩, cut', parts⟩
    obtain ⟨rfl, rfl, rfl⟩ := cut.unique cut'
    exact parts
  · exact fun parts => ⟨s, name, host, top, rfl, cut, parts⟩

theorem check_email_of_cut_of_line_feed :
    EmailCut "a.b@mail.x-y.co".toList "a.b".toList "mail.x-y".toList "co".toList ∧
      check (.midnight 0) .email (.text "a.b@mail.x-y.co") none = .pass ∧
      EmailCut "a.b@mail.x-y.co\n".toList "a.b".toList "mail.x-y".toList "co\n".toList ∧
      check (.midnight 0) .email (.text "a.b@mail.x-y.co\n") none ≠ .pass := by
  have cut : EmailCut "a.b@mail.x-y.co".toList "a.b".toList "mail.x-y".toList "co".toList :=
    ⟨by decide, by decide, by decide, by decide⟩
  have cut' : EmailCut "a.b@mail.x-y.co\n".toList "a.b".toList "mail.x-y".toList "co\n".toList :=
    ⟨by decide, by decide, by decide, by decide⟩
  have parts : EmailParts "a.b".toList "mail.x-y".toList "co".toList := {
    name_ne_nil := by decide
    name_chars := by simp [IsLocalChar]
    host_ne_nil := by decide
    host_chars := by simp [IsHostChar]
    top_length := by decide
    top_letters := by simp }
  obtain ⟨-, decides⟩ := check_email_of_cut (.midnight 0) none
  refine ⟨cut, (decides _ _ _ _ cut).2 parts, cut', fun passes => ?_⟩
  exact absurd ((decides _ _ _ _ cut').1 passes).top_letters (by simp)

end Kind

end FieldRules
