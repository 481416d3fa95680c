import FieldRules.Json.Document

set_option autoImplicit false

namespace FieldRules

namespace Document

def text? : Document → Option String
  | .text s => some s
  | _ => none

def bool? : Document → Option Bool
  | .bool b => some b
  | _ => none

def member? (members : List (String × Document)) (name : String) : Option (Option Document) :=
  -- A name must not be repeated.
  match members.filter (·.1 = name) with
  | [] => some none
  | [(_, d)] => some (some d)
  | _ => none

-- Members of other names do not count, but items beyond the last field do.
def fields? (names : List String) : Document → Option (List (Option Document))
  | .object members => names.mapM (member? members)
  | .array items =>
    if items.length ≤ names.length then
      some (items.map some ++ List.replicate (names.length - items.length) none)
    else none
  | _ => none

def fieldOr {α : Type} (default : α) (read? : Document → Option α) :
    Option Document → Option α
  | none => some default
  | some d => read? d

def nullable {α : Type} (read? : Document → Option α) : Document → Option (Option α)
  | .null => some none
  | d => (read? d).map some

end Document

namespace Json

def record (members : List (String × Json)) : Json := .object (SortedMap.ofList members).entries

def ofOption {α : Type} (write : α → Json) : Option α → Json
  | some a => write a
  | none => .null

end Json

end FieldRules
