import Inflection.CharSet

/-!
Sets of characters given by tables. A row of a table names a set and lists, in
decimal, alternating lengths: so many code points outside the set, then so
many inside, and so on from code point zero. Whatever follows the last length
is outside.
-/

namespace Inflection.Unicode

/-- The rows of a table: for each its names, separated by blanks, and the
lengths. -/
abbrev Table := List (String × List String)

namespace Table

/-- The points that lie the given distances apart. -/
def points (start : Nat) : List Nat → List Nat
  | [] => []
  | distance :: distances => (start + distance) :: points (start + distance) distances

/-- The set that the lengths of a row describe. -/
def setOf (lines : List String) : CharSet :=
  CharSet.ofBounds (points 0 (lines.flatMap fun line => (line.splitOn " ").filterMap String.toNat?))

def isNamed (name : String) (row : String × List String) : Bool :=
  (row.1.toList.splitOn ' ').contains name.toList

/-- The set with the given name. -/
def find? (table : Table) (name : String) : Option CharSet :=
  (List.find? (isNamed name) table).map fun row => setOf row.2

end Table

end Inflection.Unicode
