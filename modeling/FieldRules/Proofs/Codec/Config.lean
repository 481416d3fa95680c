import FieldRules.Codec.Config
import FieldRules.Proofs.Codec.Rules

set_option autoImplicit false

namespace FieldRules

theorem MalformedPolicy.ofDocument?_name (policy : MalformedPolicy) :
    ofDocument? (.text policy.name) = some policy := by
  cases policy <;> decide

theorem fields?_options (dataInResult returnInvalidOnly setMessage malformedRules : Json) :
    Document.fields? optionNames (.ofJson (.record
      [("dataInResult", dataInResult), ("returnInvalidOnly", returnInvalidOnly),
        ("setMessage", setMessage), ("malformedRules", malformedRules)])) =
      some [some (.ofJson dataInResult), some (.ofJson returnInvalidOnly),
        some (.ofJson setMessage), some (.ofJson malformedRules)] := by
  have distinct : optionNames.Nodup := by decide
  apply Document.fields?_ofJson_record_of_all
  exact distinct

namespace Config

theorem ordered_toJson (config : Config) : config.toJson.Ordered := by
  apply Json.ordered_record
  simp only [List.forall_mem_cons]
  exact ⟨trivial, trivial, Json.ordered_ofOption Messages.ordered_toJson _, trivial, by simp⟩

theorem ofDocument?_toJson (config : Config) :
    ofDocument? (.ofJson config.toJson) = some config := by
  have message := Document.nullable_ofJson_ofOption Messages.nullable_ofDocument?_toJson
    config.setMessage
  simp [ofDocument?, toJson, fields?_options, Document.fieldOr, message, Document.ofJson,
    Document.bool?, MalformedPolicy.ofDocument?_name]

end Config

namespace Setup

theorem ordered_toJson (setup : Setup) : setup.toJson.Ordered := by
  have bool (o : Option Bool) : (Json.ofOption .bool o).Ordered := by cases o <;> trivial
  have policy (o : Option MalformedPolicy) :
      (Json.ofOption (fun p => .text p.name) o).Ordered := by
    cases o <;> trivial
  apply Json.ordered_record
  simp only [List.forall_mem_cons]
  exact ⟨bool _, bool _, Json.ordered_ofOption Messages.ordered_toJson _, policy _, by simp⟩

theorem ofDocument?_toJson (setup : Setup) :
    ofDocument? (.ofJson setup.toJson) = some setup := by
  have bool (o : Option Bool) :
      Document.nullable Document.bool? (.ofJson (.ofOption .bool o)) = some o :=
    Document.nullable_ofJson_ofOption (fun _ => rfl) o
  have policy (o : Option MalformedPolicy) :
      Document.nullable MalformedPolicy.ofDocument?
        (.ofJson (.ofOption (fun p => .text p.name) o)) = some o := by
    apply Document.nullable_ofJson_ofOption
    intro p
    exact congrArg (Option.map some) p.ofDocument?_name
  have message := Document.nullable_ofJson_ofOption Messages.nullable_ofDocument?_toJson
    setup.setMessage
  simp [ofDocument?, toJson, fields?_options, Document.fieldOr, bool, message, policy]

end Setup

end FieldRules
