import Inflection.DescribedForm
import Inflection.PartOfSpeech
import Inflection.Rule.Generation
import Std.Data.ExtTreeMap

/-!
A lexicon holds words with the rules for their forms, and forms that are stored
with a description. A stored form need not belong to a word of the lexicon.
-/

namespace Inflection

structure WordEntry where
  id : UInt64
  root : String
  /-- The word type, which decides the rule and the part of speech. -/
  typeId : UInt64
  speechPart : String
  rules : String
deriving DecidableEq, Repr

namespace WordEntry

def partOfSpeech (entry : WordEntry) : Except Error PartOfSpeech :=
  PartOfSpeech.ofTag entry.speechPart

def ruleSet (entry : WordEntry) : Except Error RuleSet :=
  (RuleSet.ofText entry.rules).mapError Rule.Fault.toError

end WordEntry

structure Lexicon where
  words : Std.ExtTreeMap UInt64 WordEntry := ∅
  /-- The stored forms under the ids of their words, in the order in which
  they were added. -/
  forms : Std.ExtTreeMap UInt64 (List DescribedForm) := ∅

namespace Lexicon

/-- Adds a word or replaces the word with its id. -/
def insertWord (lexicon : Lexicon) (entry : WordEntry) : Lexicon :=
  { lexicon with words := lexicon.words.insert entry.id entry }

/-- The stored forms of a word, in order. -/
def formsOf (lexicon : Lexicon) (id : UInt64) : List DescribedForm :=
  lexicon.forms.getD id []

/-- Adds a stored form after those its word has. -/
def insertForm (lexicon : Lexicon) (id : UInt64) (form : DescribedForm) : Lexicon :=
  { lexicon with forms := lexicon.forms.insert id (lexicon.formsOf id ++ [form]) }

def word? (lexicon : Lexicon) (id : UInt64) : Option WordEntry :=
  lexicon.words[id]?

def wordCount (lexicon : Lexicon) : Nat :=
  lexicon.words.size

def formCount (lexicon : Lexicon) : Nat :=
  (lexicon.forms.toList.flatMap (·.2)).length

end Lexicon

end Inflection
