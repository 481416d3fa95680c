import FieldRules.Codec.Record
import FieldRules.Message.Messages
import FieldRules.Rule.Spec

set_option autoImplicit false

namespace FieldRules

def Document.choice? (d : Document) : Option String :=
  match d with
  | .text name => some name
  | .object [(name, .null)] => some name
  | _ => none

namespace Kind

def toJson (kind : Kind) : Json := .text kind.name

def ofDocument? (d : Document) : Option Kind := d.choice?.bind ofName?

end Kind

namespace RuleSpec

def toJson : RuleSpec → Json
  | piped text => .text text
  | list tokens => .array (tokens.map .text)

def ofDocument? : Document → Option RuleSpec
  | .text text => some (piped text)
  | .array items => (items.mapM Document.text?).map list
  | _ => none

end RuleSpec

namespace Messages

def toJson (m : Messages) : Json :=
  .record (m.entries.map fun (kind, text) => (kind.name, .text text))

def ofDocument? : Document → Option Messages
  -- A name that is repeated has its last text.
  | .object members =>
    (members.mapM entry?).map .ofList
  | _ => none
where
  entry? (m : String × Document) : Option (Kind × String) := do
    some ((← Kind.ofName? m.1), (← m.2.text?))

end Messages

end FieldRules
