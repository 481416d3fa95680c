set_option autoImplicit false

namespace FieldRules

inductive Kind where
  | required | nullable
  | string | number | boolean | array | object | date | uuid | integer | decimal
  | min | max | minDigit | maxDigit
  | email | password | alpha | alphaNumeric | url | regex
  | accepted | declined
  | after | before | afterOrEqual | beforeOrEqual | dateBetween
  | equalTo | notEqualTo | isIn | notIn | numberBetween
deriving DecidableEq, Repr

namespace Kind

def all : List Kind :=
  [required, nullable, string, number, boolean, array, object, date, uuid, integer, decimal,
    min, max, minDigit, maxDigit, email, password, alpha, alphaNumeric, url, regex,
    accepted, declined, after, before, afterOrEqual, beforeOrEqual, dateBetween,
    equalTo, notEqualTo, isIn, notIn, numberBetween]

def name : Kind → String
  | required => "required"
  | nullable => "nullable"
  | string => "string"
  | number => "number"
  | boolean => "boolean"
  | array => "array"
  | object => "object"
  | date => "date"
  | uuid => "uuid"
  | integer => "integer"
  | decimal => "decimal"
  | min => "min"
  | max => "max"
  | minDigit => "minDigit"
  | maxDigit => "maxDigit"
  | email => "email"
  | password => "password"
  | alpha => "alpha"
  | alphaNumeric => "alphaNumeric"
  | url => "url"
  | regex => "regex"
  | accepted => "accepted"
  | declined => "declined"
  | after => "after"
  | before => "before"
  | afterOrEqual => "afterOrEqual"
  | beforeOrEqual => "beforeOrEqual"
  | dateBetween => "dateBetween"
  | equalTo => "equalTo"
  | notEqualTo => "notEqualTo"
  | isIn => "in"
  | notIn => "notIn"
  | numberBetween => "numberBetween"

def takesParam : Kind → Bool
  | decimal | min | max | minDigit | maxDigit | regex | after | before | afterOrEqual
  | beforeOrEqual | dateBetween | equalTo | notEqualTo | isIn | notIn | numberBetween => true
  | _ => false

def index (k : Kind) : Nat := all.idxOf k

def ofName? (name : String) : Option Kind := all.find? (·.name = name)

theorem mem_all (k : Kind) : k ∈ all := by cases k <;> decide

theorem index_inj {j k : Kind} (h : j.index = k.index) : j = k := by
  have hj := List.getElem_idxOf (List.idxOf_lt_length_of_mem (mem_all j))
  have hk := List.getElem_idxOf (List.idxOf_lt_length_of_mem (mem_all k))
  unfold index at h
  rw [← hj, ← hk]
  simp [h]

theorem ofName?_name (k : Kind) : ofName? k.name = some k := by cases k <;> decide

theorem name_of_ofName? {name : String} {k : Kind} (h : ofName? name = some k) :
    k.name = name := by
  simpa using List.find?_some h

instance : Ord Kind := ⟨fun j k => compare j.index k.index⟩

instance : Std.TransOrd Kind where
  eq_swap {j k} := by
    show compare j.index k.index = (compare k.index j.index).swap
    exact Std.OrientedCmp.eq_swap
  isLE_trans {i j k} h h' := by
    change (compare i.index j.index).isLE at h
    change (compare j.index k.index).isLE at h'
    show (compare i.index k.index).isLE
    exact Std.TransCmp.isLE_trans h h'

instance : Std.LawfulEqOrd Kind where
  compare_self {k} := by
    show compare k.index k.index = .eq
    exact Std.ReflCmp.compare_self
  eq_of_compare {j k} h := by
    change compare j.index k.index = .eq at h
    exact index_inj (Std.LawfulEqCmp.eq_of_compare h)

end Kind

end FieldRules
