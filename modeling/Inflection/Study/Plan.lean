import Inflection.Error
import Inflection.Json.Codec
import Inflection.Mapping

/-!
Study plans: which forms are worth a card. A plan lists slot names, in the
order of the cards, for each part of speech and word type. Word types are
numbers, but the plan knows them by their decimal text.
-/

namespace Inflection

/-- The slots to study for each word type of one part of speech. -/
abbrev StudyPlan.WordTypes := Std.ExtTreeMap String (List String)

structure StudyPlan where
  slots : Std.ExtTreeMap String StudyPlan.WordTypes := ∅
deriving DecidableEq

namespace StudyPlan

/-- The text by which a plan knows a word type. -/
def typeKey (typeId : UInt64) : String := toString typeId.toNat

/-- The plan with the slots of one word type replaced. -/
def withSlots (plan : StudyPlan) (speechPart : String) (typeId : UInt64) (slots : List String) :
    StudyPlan :=
  ⟨plan.slots.insert speechPart ((plan.slots.getD speechPart ∅).insert (typeKey typeId) slots)⟩

/-- The parts of speech of a plan, in order. -/
def tags (plan : StudyPlan) : List String := plan.slots.keys

/-- The word types of a part of speech, in the order of their texts. -/
def wordTypes (plan : StudyPlan) (speechPart : String) : List String :=
  (plan.slots.getD speechPart ∅).keys

def slotsFor? (plan : StudyPlan) (speechPart : String) (typeId : UInt64) :
    Option (List String) :=
  plan.slots[speechPart]?.bind (·[typeKey typeId]?)

/-- The slots of a word type, or the error that the plan has none for it. -/
def slotsFor (plan : StudyPlan) (speechPart : String) (typeId : UInt64) :
    Except Error (List String) :=
  match plan.slotsFor? speechPart typeId with
  | some slots => .ok slots
  | none =>
    .error (.config ("no slots to study configured for word type " ++ typeKey typeId ++
      " in '" ++ speechPart ++ "'"))

/-- The forms of a mapping that are to be studied, in the order of the plan. -/
def select (plan : StudyPlan) (speechPart : String) (typeId : UInt64) (mapping : Mapping) :
    Except Error (List (String × String)) :=
  (plan.slotsFor speechPart typeId).map fun slots =>
    slots.filterMap fun slot => mapping[slot]?.map (slot, ·)

end StudyPlan

/-- A plan is kept as its map. -/
instance : Json.Codec StudyPlan where
  encode plan := Json.Codec.encode plan.slots
  decode? value := (Json.Codec.decode? value).map StudyPlan.mk

end Inflection
