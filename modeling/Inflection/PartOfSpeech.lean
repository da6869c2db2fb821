import Inflection.Error
import Inflection.FormSet
import Inflection.Mapping
import Inflection.Slot

/-!
Parts of speech whose forms have fixed positions, and the slots that the
positions stand for.
-/

namespace Inflection

inductive PartOfSpeech where
  /-- Feminine and neuter nouns. -/
  | noun
  /-- Masculine nouns, which have a short and a full definite form and a form
  used after numerals. -/
  | masculineNoun
deriving DecidableEq, Repr

namespace PartOfSpeech

def all : List PartOfSpeech := [noun, masculineNoun]

def name : PartOfSpeech → String
  | noun => "noun"
  | masculineNoun => "masculine_noun"

/-- The part of speech that a dictionary tag stands for. -/
def ofTag (tag : String) : Except Error PartOfSpeech :=
  if tag = "noun_male" then .ok masculineNoun
  else if tag = "noun_female" ∨ tag = "noun_neutral" then .ok noun
  else .error (.unsupportedSpeechPart tag)

/-- The slots that have a position. Of the two definite forms of a masculine
noun, at positions 1 and 2, the full one counts. -/
def slotTable : PartOfSpeech → List (Slot × Nat)
  | noun =>
    [(.singularIndefinite, 0), (.singularDefinite, 1), (.pluralIndefinite, 2),
      (.pluralDefinite, 3)]
  | masculineNoun =>
    [(.singularIndefinite, 0), (.singularDefinite, 2), (.pluralIndefinite, 3),
      (.pluralDefinite, 4), (.count, 5)]

/-- The position of a slot, if it has one. -/
def position? (part : PartOfSpeech) (slot : Slot) : Option Nat :=
  part.slotTable.lookup slot

end PartOfSpeech

/-- The forms at labelled positions, under the names of their slots. -/
def FormSet.slots (set : FormSet) (part : PartOfSpeech) : Mapping :=
  Mapping.ofEntries (part.slotTable.filterMap fun (slot, position) =>
    (set.get? position).map (slot.name, ·))

end Inflection
