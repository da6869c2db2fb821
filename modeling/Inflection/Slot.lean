import Inflection.Error

/-!
The grammatical slots that a noun or adjective form can fill, and mappings
from slots to forms. Verb forms keep their descriptions as keys, so a mapping
is keyed by text.
-/

namespace Inflection

inductive Slot where
  | singularIndefinite
  | singularDefinite
  | pluralIndefinite
  | pluralDefinite
  /-- The form used after numerals. -/
  | count
  | masculine
  | feminine
  | neuter
  | plural
deriving DecidableEq, Repr

namespace Slot

def all : List Slot :=
  [singularIndefinite, singularDefinite, pluralIndefinite, pluralDefinite, count,
    masculine, feminine, neuter, plural]

/-- The name of a slot on the cards; the spelling is fixed. -/
def name : Slot → String
  | singularIndefinite => "singular_indefinite"
  | singularDefinite => "singular_definite"
  | pluralIndefinite => "plural_indefinite"
  | pluralDefinite => "plural_definite"
  | count => "contable"
  | masculine => "masculineForm"
  | feminine => "femenineForm"
  | neuter => "neutralForm"
  | plural => "pluralForm"

def ofName? (name : String) : Option Slot :=
  all.find? (·.name = name)

/-- The slot of the given name, or the error that there is none. -/
def ofName (name : String) : Except Error Slot :=
  match ofName? name with
  | some slot => .ok slot
  | none => .error (.config ("unknown slot name '" ++ name ++ "'"))

@[simp] theorem ofName?_name (slot : Slot) : ofName? slot.name = some slot := by
  cases slot <;> decide

theorem name_injective {s t : Slot} (h : s.name = t.name) : s = t := by
  have hs : ofName? t.name = some s := by rw [← h, ofName?_name]
  rw [ofName?_name] at hs
  exact (Option.some.inj hs).symm

end Slot

end Inflection
