import FieldRules.Unicode.CharSet

set_option autoImplicit false

namespace FieldRules

structure NamedSet where
  names : List String
  table : String

def looseName (name : List Char) : List Char :=
  -- Letters and digits are what counts, whatever their case.
  let kept := (name.filter fun c => c.toNat < 128 && c ≠ ' ' && c ≠ '_' && c ≠ '-').map Char.toLower
  match kept with
  | ['i', 's', 'c'] => kept
  | 'i' :: 's' :: rest => rest
  | _ => kept

namespace NamedSet

def answers (s : NamedSet) (loose : List Char) : Bool :=
  s.names.any fun name => looseName name.toList == loose

def find? (sets : List NamedSet) (loose : List Char) : Option CharSet :=
  (sets.find? (·.answers loose)).map fun s => .ofTable s.table

end NamedSet

end FieldRules
