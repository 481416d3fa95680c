import FieldRules.Batch.Config
import FieldRules.Codec.Rules

set_option autoImplicit false

namespace FieldRules

namespace MalformedPolicy

def name : MalformedPolicy → String
  | skip => "skip"
  | reject => "reject"

def ofName? (name : String) : Option MalformedPolicy :=
  if name = "skip" then some skip else if name = "reject" then some reject else none

def ofDocument? (d : Document) : Option MalformedPolicy := d.choice?.bind ofName?

end MalformedPolicy

def optionNames : List String :=
  ["dataInResult", "returnInvalidOnly", "setMessage", "malformedRules"]

namespace Config

def toJson (config : Config) : Json :=
  .record
    [("dataInResult", .bool config.dataInResult),
      ("returnInvalidOnly", .bool config.returnInvalidOnly),
      ("setMessage", .ofOption Messages.toJson config.setMessage),
      ("malformedRules", .text config.malformedRules.name)]

def ofDocument? (d : Document) : Option Config := do
  match ← d.fields? optionNames with
  | [dataInResult, returnInvalidOnly, setMessage, malformedRules] =>
    some
      { dataInResult := ← Document.fieldOr false Document.bool? dataInResult
        returnInvalidOnly := ← Document.fieldOr true Document.bool? returnInvalidOnly
        setMessage := ← Document.fieldOr none (Document.nullable Messages.ofDocument?) setMessage
        malformedRules := ← Document.fieldOr .skip MalformedPolicy.ofDocument? malformedRules }
  | _ => none

end Config

namespace Setup

def toJson (setup : Setup) : Json :=
  .record
    [("dataInResult", .ofOption .bool setup.dataInResult),
      ("returnInvalidOnly", .ofOption .bool setup.returnInvalidOnly),
      ("setMessage", .ofOption Messages.toJson setup.setMessage),
      ("malformedRules", .ofOption (fun p => .text p.name) setup.malformedRules)]

def ofDocument? (d : Document) : Option Setup := do
  match ← d.fields? optionNames with
  | [dataInResult, returnInvalidOnly, setMessage, malformedRules] =>
    some
      { dataInResult := ← Document.fieldOr none (Document.nullable Document.bool?) dataInResult
        returnInvalidOnly :=
          ← Document.fieldOr none (Document.nullable Document.bool?) returnInvalidOnly
        setMessage := ← Document.fieldOr none (Document.nullable Messages.ofDocument?) setMessage
        malformedRules :=
          ← Document.fieldOr none (Document.nullable MalformedPolicy.ofDocument?) malformedRules }
  | _ => none

end Setup

end FieldRules
