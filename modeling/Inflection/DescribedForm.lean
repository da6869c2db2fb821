import Inflection.Mapping
import Inflection.Slot

/-!
Forms that are stored with a description of their grammar. Descriptions of noun
and adjective forms name slots; of verb forms those are kept, under their
descriptions, that may be irregular.
-/

namespace Inflection

structure DescribedForm where
  form : String
  description : String
deriving DecidableEq, Repr

namespace Description

/-- The slots of noun and adjective descriptions. Of two definitions of one
description the later one counts. -/
def definitions : List (String × Slot) :=
  [("ед.ч.", .singularIndefinite),
    ("ед.ч. пълен член", .singularDefinite),
    ("ед.ч. членувано", .singularDefinite),
    ("мн.ч.", .pluralIndefinite),
    ("мн.ч. членувано", .pluralDefinite),
    ("бройна форма", .count),
    ("м.р.", .masculine),
    ("ж.р.", .feminine),
    ("ср.р.", .neuter),
    ("мн.ч.", .plural)]

/-- The participles that may be irregular. -/
def participles : List String :=
  ["мин.деят.св.прич. м.р.",
    "мин.деят.св.прич. ж.р.",
    "мин.деят.св.прич. ср.р.",
    "мин.деят.св.прич. мн.ч.",
    "мин.деят.св.прич. м.р. пълен член",
    "мин.деят.несв.прич. м.р.",
    "мин.деят.несв.прич. мн.ч.",
    "мин.страд.прич. ср.р.",
    "сег.деят.прич. м.р.",
    "деепричастие"]

/-- The conjugated forms that may be irregular: of the present tense, the
aorist, the imperfect and the imperative. -/
def verbForms : List String :=
  ["сег.вр., 1л., ед.ч.",
    "сег.вр., 2л., ед.ч.",
    "сег.вр., 3л., мн.ч.",
    "мин.св.вр., 1л., ед.ч.",
    "мин.св.вр., 2л., ед.ч.",
    "мин.несв.вр., 1л., ед.ч.",
    "мин.несв.вр., 2л., ед.ч.",
    "повелително наклонение, ед.ч.",
    "повелително наклонение, мн.ч."]

/-- The slot that a description stands for, if it is defined. -/
def slot? (description : String) : Option Slot :=
  definitions.reverse.lookup description

/-- The names of the slots that the descriptions stand for. -/
def slotNames : Mapping :=
  Mapping.ofEntries (definitions.map fun (description, slot) => (description, slot.name))

def isParticiple (description : String) : Bool :=
  participles.contains description

/-- Whether a verb form of this description may be irregular. -/
def isIrregular (description : String) : Bool :=
  verbForms.contains description || isParticiple description

end Description

namespace DescribedForm

/-- Noun and adjective forms under the names of their slots. -/
def slots (forms : List DescribedForm) : Mapping :=
  Mapping.ofEntries (forms.filterMap fun form =>
    (Description.slot? form.description).map fun slot => (slot.name, form.form))

/-- The verb forms that may be irregular, under their descriptions. -/
def irregularForms (forms : List DescribedForm) : Mapping :=
  Mapping.ofEntries ((forms.filter (Description.isIrregular ·.description)).map fun form =>
    (form.description, form.form))

/-- The part of a mapping under descriptions of participles. -/
def onlyParticiples (mapping : Mapping) : Mapping :=
  mapping.filter fun description _ => Description.isParticiple description

/-- The participles that may be irregular, under their descriptions. -/
def irregularParticiples (forms : List DescribedForm) : Mapping :=
  onlyParticiples (irregularForms forms)

end DescribedForm

end Inflection
