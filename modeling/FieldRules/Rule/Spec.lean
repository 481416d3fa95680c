import FieldRules.Rule.Basic

set_option autoImplicit false

namespace FieldRules

inductive RuleSpec where
  | piped (text : String)
  | list (tokens : List String)
deriving DecidableEq

def readRules : List String → List Rule × Option String
  | [] => ([], none)
  | token :: tokens =>
    match Rule.ofToken? token with
    | some rule =>
      let (rules, stop) := readRules tokens
      (rule :: rules, stop)
    | none => ([], some token)

namespace RuleSpec

def tokens : RuleSpec → List String
  -- Empty tokens are left out.
  | piped text => ((splitAt '|' text.toList).map String.ofList).filter (· ≠ "")
  | list tokens => tokens.filter (· ≠ "")

def rules (spec : RuleSpec) : Except UnknownRule (List Rule) :=
  match readRules spec.tokens with
  | (rules, none) => .ok rules
  | (_, some token) => .error ⟨token⟩

def contains (spec : RuleSpec) (kind : Kind) : Bool :=
  (spec.tokens.filterMap Rule.ofToken?).any (·.kind = kind)

def isEmpty (spec : RuleSpec) : Bool := spec.tokens.isEmpty

end RuleSpec

end FieldRules
