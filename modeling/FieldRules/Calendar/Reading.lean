import FieldRules.Calendar.Timestamp

set_option autoImplicit false

namespace FieldRules

def readMoment? (text : List Char) : Option Moment :=
  let cs := trimBlanks text
  Timestamp.moment? cs <|>
    (DateFormat.withTime ++ DateFormat.dateOnly).findSome? fun format => format.moment? cs

end FieldRules
