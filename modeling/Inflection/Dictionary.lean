import Inflection.Lexicon.Basic

/-!
Where words and stored forms are looked up. A look-up can fail by itself, which
is not the same as finding nothing. In a lexicon it never fails.
-/

namespace Inflection

structure Dictionary where
  /-- The word with an id, if there is one. -/
  word? : UInt64 → Except Error (Option WordEntry)
  /-- The stored forms of a word, in order. -/
  formsOf : UInt64 → Except Error (List DescribedForm)

/-- The word with an id, or the error that there is none. -/
def Dictionary.entry (dictionary : Dictionary) (id : UInt64) : Except Error WordEntry := do
  match ← dictionary.word? id with
  | some entry => return entry
  | none => throw (.lookup ("the word " ++ toString id.toNat ++ " is unknown"))

/-- The look-ups in a lexicon. -/
def Lexicon.dictionary (lexicon : Lexicon) : Dictionary where
  word? id := .ok (lexicon.word? id)
  formsOf id := .ok (lexicon.formsOf id)

end Inflection
