import FieldRules.Json.Basic

set_option autoImplicit false

namespace FieldRules.Json

def hexLetter (n : Nat) : Char := "0123456789abcdef".toList.getD n '0'

def quotedChar (c : Char) : List Char :=
  -- Quotes, backslashes and control characters are escaped.
  if c = '"' then ['\\', '"']
  else if c = '\\' then ['\\', '\\']
  else if c.toNat < 0x20 then
    ['\\', 'u', '0', '0', hexLetter (c.toNat / 16), hexLetter (c.toNat % 16)]
  else [c]

def quoted (s : String) : List Char := '"' :: s.toList.flatMap quotedChar ++ ['"']

mutual

def written : Json → List Char
  | .null => "null".toList
  | .bool b => (if b then "true" else "false").toList
  | .number n => n.text
  | .text s => quoted s
  | .array items => '[' :: writtenItems items ++ [']']
  | .object members => '\x7b' :: writtenMembers members ++ ['\x7d']

def writtenItems : List Json → List Char
  | [] => []
  | [x] => x.written
  | x :: xs => x.written ++ ',' :: writtenItems xs

def writtenMembers : List (String × Json) → List Char
  | [] => []
  | [(k, x)] => quoted k ++ ':' :: x.written
  | (k, x) :: ms => quoted k ++ ':' :: x.written ++ ',' :: writtenMembers ms

end

end FieldRules.Json
