import FieldRules.Proofs.Pattern.Form
import FieldRules.Proofs.Rule.Token

set_option autoImplicit false

namespace FieldRules

open Pattern

namespace Rule

def tokenTerms : List Term :=
  [.repetition 1 none (.chars wordSet), .chars (.single ':'), .repetition 1 none (.chars lineSet)]

theorem denotes_tokenTerms : Denotes "^(\\w+):(.+)$" (anchored tokenTerms).expr := by
  exact ⟨.alternation [.sequence [
    .anchor .lineStart,
    .group true [] (.alternation [.sequence [.repetition 1 none (.set (.named .word false))]]),
    .literal ⟨':', false⟩,
    .group true [] (.alternation [.sequence [.repetition 1 none .dot]]),
    .anchor .lineEnd]], _, _, rfl, rfl, rfl⟩

-- The token as the groups of its pattern cut it.
structure TokenCut (token name param : List Char) : Prop where
  whole : token = name ++ ':' :: param
  name : name ∈ letters wordSet 1
  param : param ∈ letters lineSet 1

theorem occursIn_token_iff (token : List Char) :
    (Pattern.mk (anchored tokenTerms).expr).occursIn token = true ↔
      ∃ name param, TokenCut token name param := by
  have writes : Pattern.Writes (SpansInTurn tokenTerms)
      (letters wordSet 1 * (letter (.single ':') * letters lineSet 1)) :=
    (writes_repetition wordSet 1).comp
      ((writes_chars (.single ':')).comp (writes_repetition lineSet 1).last)
  rw [occursIn_anchored_iff writes, Language.mem_mul]
  constructor
  · rintro ⟨name, first, _, second, rfl⟩
    obtain ⟨param, third, rfl⟩ := mem_single_mul_iff.1 second
    exact ⟨name, param, rfl, first, third⟩
  · rintro ⟨name, param, cut⟩
    exact ⟨name, cut.name, _, mem_single_mul_iff.2 ⟨param, cut.param, rfl⟩, cut.whole.symm⟩

theorem mem_lineSet_iff (param : List Char) :
    param ∈ letters lineSet 1 ↔ isParam param = true := by
  simp only [mem_letters_one_iff, contains_lineSet_iff, isParam, decide_eq_true_eq]
  refine and_congr_right fun _ => ⟨fun all member => all '\n' member rfl, ?_⟩
  rintro free c member rfl
  exact free member

theorem name_mem_letters (kind : Kind) : kind.name.toList ∈ letters wordSet 1 := by
  have word : kind.name.toList ≠ [] ∧ kind.name.toList.all isWord = true := by
    cases kind <;> decide
  simp only [List.all_eq_true, isWord_eq_contains] at word
  exact mem_letters_one_iff.2 word

theorem TokenCut.colon_not_mem {token name param : List Char} (cut : TokenCut token name param) :
    ':' ∉ name := by
  intro member
  have inside := (mem_letters_one_iff.1 cut.name).2 ':' member
  rw [contains_wordSet_of_ascii (by decide)] at inside
  exact absurd inside (by decide)

theorem TokenCut.unique {token name param name' param' : List Char}
    (cut : TokenCut token name param) (cut' : TokenCut token name' param') :
    name = name' ∧ param = param' := by
  have split := splitOnce_append_of_not_mem cut.colon_not_mem param
  rw [← cut.whole, cut'.whole, splitOnce_append_of_not_mem cut'.colon_not_mem] at split
  obtain ⟨same, same'⟩ := Prod.mk.inj (Option.some.inj split)
  exact ⟨same.symm, same'.symm⟩

-- Where the pattern occurs, its groups are the name and the parameter.
theorem ofToken?_of_cut {token : String} {name param : List Char}
    (cut : TokenCut token.toList name param) :
    ofToken? token = (Kind.ofName? (String.ofList name)).map
      fun kind => ⟨kind, some (String.ofList param)⟩ := by
  have unnamed : Kind.ofName? token = none := by
    apply Kind.ofName?_of_colon_mem
    simp [cut.whole]
  have split := splitOnce_append_of_not_mem cut.colon_not_mem param
  rw [← cut.whole] at split
  have readable : isParam param = true := (mem_lineSet_iff param).1 cut.param
  cases named : Kind.ofName? (String.ofList name) with
  | none => simp [ofToken?, unnamed, split, named]
  | some kind => simp [ofToken?, unnamed, split, named, readable]

theorem ofToken?_of_not_occursIn {token : String}
    (other : ¬ (Pattern.mk (anchored tokenTerms).expr).occursIn token.toList = true) :
    ofToken? token = (Kind.ofName? token).map fun kind => ⟨kind, none⟩ := by
  rw [occursIn_token_iff] at other
  cases read : ofToken? token with
  | none =>
    cases named : Kind.ofName? token with
    | none => rfl
    | some kind => simp [ofToken?, named] at read
  | some rule =>
    have spelling :=
      (ofToken_eq_ok_iff_spelling token rule).1 ((ofToken_eq_ok_iff token rule).2 read)
    cases spelling with
    | bare kind => simp [Kind.ofName?_name]
    | withParam parts first nonempty line =>
      have readable := (isParam_toList_iff _).2 ⟨nonempty, line⟩
      exact absurd ⟨_, _, parts, name_mem_letters _, (mem_lineSet_iff _).2 readable⟩ other

end Rule

end FieldRules
