import FieldRules.Rule.Kind
import FieldRules.SortedMap

set_option autoImplicit false

namespace FieldRules

abbrev Messages := SortedMap Kind String

end FieldRules
