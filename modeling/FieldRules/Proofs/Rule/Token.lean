import FieldRules.Proofs.Rule.Spec
import FieldRules.Proofs.Text.Split

set_option autoImplicit false

namespace FieldRules

theorem Kind.colon_not_mem_name (kind : Kind) : ':' ∉ kind.name.toList := by
  cases kind <;> decide

theorem Kind.ofName?_of_colon_mem {name : String} (member : ':' ∈ name.toList) :
    Kind.ofName? name = none := by
  cases found : Kind.ofName? name with
  | none => rfl
  | some kind =>
    have same := Kind.name_of_ofName? found
    exact absurd (same ▸ member) kind.colon_not_mem_name

namespace Rule

theorem token_of_param (kind : Kind) (param : String) :
    (token ⟨kind, some param⟩).toList = kind.name.toList ++ ':' :: param.toList := by
  simp [token]

theorem isParam_toList_iff (param : String) :
    isParam param.toList = true ↔ param ≠ "" ∧ '\n' ∉ param.toList := by
  simp [isParam]

theorem ofToken?_token_of_param (kind : Kind) (param : String) :
    ofToken? (token ⟨kind, some param⟩) =
      if isParam param.toList then some ⟨kind, some param⟩ else none := by
  have unnamed : Kind.ofName? (token ⟨kind, some param⟩) = none := by
    apply Kind.ofName?_of_colon_mem
    simp [token_of_param]
  have split := splitOnce_append_of_not_mem kind.colon_not_mem_name param.toList
  simp [ofToken?, unnamed, token_of_param, split, Kind.ofName?_name]

-- A token and the rule it writes: a bare name, or a name in front of the first colon and all behind
-- it as the parameter, on one line and not empty.
inductive Spelling : String → Rule → Prop
  | bare (kind : Kind) : Spelling kind.name ⟨kind, none⟩
  | withParam {token param : String} {kind : Kind}
      (parts : token.toList = kind.name.toList ++ ':' :: param.toList)
      (first : ':' ∉ kind.name.toList) (nonempty : param ≠ "") (line : '\n' ∉ param.toList) :
      Spelling token ⟨kind, some param⟩

theorem Spelling.token_eq {token : String} {rule : Rule} (spelling : Spelling token rule) :
    rule.token = token := by
  cases spelling with
  | bare kind => rfl
  | withParam parts =>
    apply String.toList_inj.1
    rw [token_of_param, parts]

theorem ofToken_eq_ok_iff_spelling (token : String) (rule : Rule) :
    ofToken token = .ok rule ↔ Spelling token rule := by
  rw [ofToken_eq_ok_iff]
  constructor
  next =>
    intro read
    unfold ofToken? at read
    split at read
    next kind named =>
      obtain rfl := Option.some.inj read
      rw [← Kind.name_of_ofName? named]
      exact .bare kind
    next =>
      simp only [bind, Option.bind_eq_some_iff] at read
      obtain ⟨⟨name, param⟩, split, kind, named, read⟩ := read
      obtain ⟨parts, first⟩ := splitOnce_eq_some split
      have same : kind.name.toList = name := by
        rw [Kind.name_of_ofName? named, String.toList_ofList]
      split at read
      next readable =>
        obtain rfl := Option.some.inj read
        have param : param = (String.ofList param).toList := (String.toList_ofList).symm
        rw [param] at parts readable
        obtain ⟨nonempty, line⟩ := (isParam_toList_iff _).1 readable
        exact .withParam (same ▸ parts) (same ▸ first) nonempty line
      next => simp at read
  next =>
    intro spelling
    have written := spelling.token_eq
    cases spelling with
    | bare kind => simp [ofToken?, Kind.ofName?_name]
    | withParam parts first nonempty line =>
      rw [← written, ofToken?_token_of_param, if_pos ((isParam_toList_iff _).2 ⟨nonempty, line⟩)]

theorem ofToken_token_iff (kind : Kind) :
    ofToken kind.name = .ok ⟨kind, none⟩ ∧
    ∀ param,
      (ofToken (token ⟨kind, some param⟩) = .ok ⟨kind, some param⟩ ↔
        param ≠ "" ∧ '\n' ∉ param.toList) ∧
      (ofToken (token ⟨kind, some param⟩) = .error ⟨token ⟨kind, some param⟩⟩ ↔
        param = "" ∨ '\n' ∈ param.toList) := by
  refine ⟨?_, fun param => ?_⟩
  · simp [ofToken, ofToken?, Kind.ofName?_name]
  · rw [ofToken_eq_ok_iff, ofToken_eq_error_iff, ofToken?_token_of_param]
    by_cases readable : isParam param.toList = true
    next =>
      have plain := (isParam_toList_iff param).1 readable
      simp [readable, plain]
    next =>
      have bad := mt (isParam_toList_iff param).2 readable
      have refused : param = "" ∨ '\n' ∈ param.toList := by
        simpa [Classical.or_iff_not_imp_left] using bad
      simp [readable, bad, refused]

-- Between two lines the parameter is lost, and the rule with it.
theorem ofToken_token_of_two_lines :
    "a\nb" ≠ "" ∧ token ⟨.equalTo, some "a\nb"⟩ = "equalTo:a\nb" ∧
      ofToken "equalTo:a\nb" = .error ⟨"equalTo:a\nb"⟩ ∧
      ofToken "equalTo:a\nb" ≠ .ok ⟨.equalTo, some "a\nb"⟩ := by
  decide +kernel

end Rule

end FieldRules
