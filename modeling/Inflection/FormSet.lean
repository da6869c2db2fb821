/-!
The forms of one word, in the order of the replacements of its rule. A rule may
say that a form does not exist.
-/

namespace Inflection

structure FormSet where
  root : String
  forms : List (Option String)
deriving DecidableEq, Repr

namespace FormSet

/-- The form at a position, if there is one. -/
def get? (set : FormSet) (position : Nat) : Option String :=
  set.forms[position]?.join

/-- The forms that exist, in order. -/
def present (set : FormSet) : List String :=
  set.forms.filterMap id

def size (set : FormSet) : Nat := set.forms.length

def isEmpty (set : FormSet) : Bool := set.forms.isEmpty

end FormSet

end Inflection
