import FieldRules.Rule.Kind
import FieldRules.Unicode.Word

set_option autoImplicit false

namespace FieldRules

-- A text cut into its longest runs of word characters and the single characters between.
inductive Lexeme where
  | word (cs : List Char)
  | mark (c : Char)
deriving DecidableEq

namespace Lexeme

def text : Lexeme → List Char
  | word cs => cs
  | mark c => [c]

def ofText : List Char → List Lexeme
  | [] => []
  | c :: cs =>
    if isWord c then
      match ofText cs with
      | word run :: rest => word (c :: run) :: rest
      | rest => word [c] :: rest
    else mark c :: ofText cs

end Lexeme

inductive Piece where
  | literal (cs : List Char)
  | key
  | param (slot : List Char)
deriving DecidableEq

namespace Piece

def fill (key : String) (param : Option String) : Piece → List Char
  -- A parameter slot without parameter stays as it is.
  | literal cs => cs
  | .key => key.toList
  | .param slot => (param.map String.toList).getD slot

def ofWord (kind : Kind) (word : List Char) : Piece :=
  if word = "attr".toList then .key
  else if word = kind.name.toList then .param (':' :: word)
  else .literal (':' :: word)

end Piece

namespace Template

def pieces (kind : Kind) : List Lexeme → List Piece
  | [] => []
  | .mark ':' :: .word word :: rest => Piece.ofWord kind word :: pieces kind rest
  | lexeme :: rest => .literal lexeme.text :: pieces kind rest

def render (template : String) (kind : Kind) (key : String) (param : Option String) : String :=
  String.ofList ((pieces kind (Lexeme.ofText template.toList)).flatMap (Piece.fill key param))

def builtIn? : Kind → Option String
  -- The rule that never fails has none.
  | .required => some ":attr is required"
  | .nullable => none
  | .string => some ":attr must be a string"
  | .number => some ":attr must be a number"
  | .boolean => some ":attr must be a boolean"
  | .array => some ":attr must be an array"
  | .object => some ":attr must be an object"
  | .date => some ":attr is not a valid date"
  | .uuid => some ":attr must be a valid UUID"
  | .integer => some ":attr must be a positive integer"
  | .decimal => some ":attr must have :decimal decimal places"
  | .min => some ":attr must not be smaller than :min"
  | .max => some ":attr must not be larger than :max"
  | .minDigit => some ":attr must have at least as many digits as :minDigit"
  | .maxDigit => some ":attr must have no more digits than :maxDigit"
  | .email => some ":attr is not a valid email"
  | .password => some ":attr is not a strong enough password"
  | .alpha => some ":attr may only contain letters"
  | .alphaNumeric => some ":attr may only contain letters and numbers"
  | .url => some ":attr is not a valid URL"
  | .regex => some ":attr does not match the pattern :regex"
  | .accepted => some ":attr must be accepted"
  | .declined => some ":attr must be declined"
  | .after => some ":attr must be a date after :after"
  | .before => some ":attr must be a date before :before"
  | .afterOrEqual => some ":attr must be a date after or equal to :afterOrEqual"
  | .beforeOrEqual => some ":attr must be a date before or equal to :beforeOrEqual"
  | .dateBetween => some ":attr must be a date between :dateBetween"
  | .equalTo => some ":attr must be equal to :equalTo"
  | .notEqualTo => some ":attr must not be equal to :notEqualTo"
  | .isIn => some ":attr must be one of :in"
  | .notIn => some ":attr must not be one of :notIn"
  | .numberBetween => some ":attr must be between :numberBetween"

def resolve (kind : Kind) (key : String) (param custom : Option String) : String :=
  match custom <|> builtIn? kind with
  | some template => render template kind key param
  | none => key ++ " is invalid"

end Template

end FieldRules
