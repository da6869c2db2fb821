import Std.Data.ExtTreeMap

/-!
Mappings from names to forms, in the order of the code points of the names.
Of two entries under one name the later one counts.
-/

namespace Inflection

abbrev Mapping := Std.ExtTreeMap String String

namespace Mapping

/-- The map with the given entries, where a later entry replaces an earlier one
of its name. -/
def ofEntries {α : Type} (entries : List (String × α)) : Std.ExtTreeMap String α :=
  entries.foldl (fun map entry => map.insert entry.1 entry.2) ∅

end Mapping

end Inflection
