import Inflection.Dictionary

/-!
Deriving the forms of the words of a dictionary by their rules.
-/

namespace Inflection

/-- A word with its forms and the slots they fill. -/
structure Derivation where
  entry : WordEntry
  partOfSpeech : PartOfSpeech
  forms : FormSet
  slots : Mapping
deriving DecidableEq

/-- The forms of a word by its rule, with the slots of its part of speech. -/
def WordEntry.derive (entry : WordEntry) : Except Error Derivation := do
  let part ← entry.partOfSpeech
  let rules ← entry.ruleSet
  let forms ← (rules.generate entry.root).mapError Rule.Misfit.toError
  return { entry, partOfSpeech := part, forms, slots := forms.slots part }

namespace Dictionary

def derive (dictionary : Dictionary) (id : UInt64) : Except Error Derivation := do
  (← dictionary.entry id).derive

/-- The slots of the stored noun or adjective forms of a word. -/
def describedSlots (dictionary : Dictionary) (id : UInt64) : Except Error Mapping := do
  return DescribedForm.slots (← dictionary.formsOf id)

/-- The stored verb forms of a word that may be irregular. -/
def irregularForms (dictionary : Dictionary) (id : UInt64) : Except Error Mapping := do
  return DescribedForm.irregularForms (← dictionary.formsOf id)

/-- The stored participles of a word that may be irregular. -/
def irregularParticiples (dictionary : Dictionary) (id : UInt64) : Except Error Mapping := do
  return DescribedForm.onlyParticiples (← dictionary.irregularForms id)

end Dictionary

end Inflection
