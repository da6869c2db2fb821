import Inflection.DescribedForm
import Inflection.PartOfSpeech

/-!
Where the forms of a mapping come from: a rule, whose forms are told apart by
their positions, or what is stored for a word, whose forms have descriptions.
-/

namespace Inflection

inductive FormSource where
  | generated (set : FormSet) (part : PartOfSpeech)
  /-- Stored noun or adjective forms. -/
  | described (forms : List DescribedForm)
  /-- Stored verb forms, of which those are kept that may be irregular. -/
  | verb (forms : List DescribedForm)
  /-- Stored verb forms, of which the participles are kept that may be irregular. -/
  | participles (forms : List DescribedForm)

/-- The mapping that the forms make. -/
def FormSource.mapping : FormSource → Mapping
  | generated set part => set.slots part
  | described forms => DescribedForm.slots forms
  | verb forms => DescribedForm.irregularForms forms
  | participles forms => DescribedForm.irregularParticiples forms

end Inflection
