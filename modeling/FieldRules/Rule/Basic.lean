import FieldRules.Rule.Kind
import FieldRules.Text.Split

set_option autoImplicit false

namespace FieldRules

structure Rule where
  kind : Kind
  param : Option String
deriving DecidableEq

structure UnknownRule where
  token : String
deriving DecidableEq

def UnknownRule.message (e : UnknownRule) : String :=
  "unrecognized rule token `" ++ e.token ++ "`"

def Kind.ofName (name : String) : Except UnknownRule Kind :=
  match Kind.ofName? name with
  | some k => .ok k
  | none => .error ⟨name⟩

namespace Rule

def token (r : Rule) : String :=
  match r.param with
  | some param => r.kind.name ++ ":" ++ param
  | none => r.kind.name

def isParam (cs : List Char) : Bool := cs ≠ [] ∧ '\n' ∉ cs

def ofToken? (token : String) : Option Rule :=
  match Kind.ofName? token with
  | some kind => some ⟨kind, none⟩
  | none => do
    let (name, param) ← splitOnce ':' token.toList
    let kind ← Kind.ofName? (String.ofList name)
    if isParam param then some ⟨kind, some (String.ofList param)⟩ else none

def ofToken (token : String) : Except UnknownRule Rule :=
  match ofToken? token with
  | some rule => .ok rule
  | none => .error ⟨token⟩

end Rule

end FieldRules
