import Inflection.Json.Number
import Inflection.Json.Records
import Inflection.Lexicon.Basic

/-!
Lines of a dump. A line is an object that says by its member `kind` whether it
holds a word or a form, or an array of the kind and the fields in order.
Everything in a line must be readable, members that are of no use included.
-/

namespace Inflection.Lexicon

/-- What a line adds to a lexicon. -/
inductive Line where
  | word (entry : WordEntry)
  | form (wordId : UInt64) (form : DescribedForm)
deriving DecidableEq, Repr

namespace Line

open Json (Value)
open Json.Codec (decode?)

/-- The number of levels that the values of a line may nest. -/
def depthLimit : Nat := 127

mutual

/-- Whether a value nests at most `depth` levels and holds only texts and
numbers within range. -/
def isReadable : Nat → Value → Bool
  | _, .null => true
  | _, .bool _ => true
  | _, .number number => number.inRange
  | _, .string text => text.isSome
  | 0, .array _ => false
  | depth + 1, .array elements => areReadable depth elements
  | 0, .object _ => false
  | depth + 1, .object members => areReadableMembers depth members

def areReadable : Nat → List Value → Bool
  | _, [] => true
  | depth, value :: values => isReadable depth value && areReadable depth values

def areReadableMembers : Nat → List (Option String × Value) → Bool
  | _, [] => true
  | depth, (key, value) :: members =>
    key.isSome && isReadable depth value && areReadableMembers depth members

end

/-- The stored form that a line of kind `form` holds. -/
def form? (content : Value) : Option Line := do
  let [wordId, name, description] ←
    content.fields? ["base_word_id", "name", "description"] | none
  return .form (← decode? wordId) ⟨← decode? name, ← decode? description⟩

/-- The kind of a line and what else it holds. -/
def kind? : Value → Option (String × Value)
  | .object members =>
    match members.filter (·.1 = some "kind") with
    | [(_, .string (some kind))] => some (kind, .object (members.filter (·.1 ≠ some "kind")))
    | _ => none
  | .array (.string (some kind) :: fields) => some (kind, .array fields)
  | _ => none

def ofValue? (value : Value) : Option Line := do
  if !isReadable depthLimit value then none
  let (kind, content) ← kind? value
  match kind with
  | "word" => (decode? content).map .word
  | "form" => form? content
  | _ => none

/-- The line that a text writes. -/
def ofText? (text : List Char) : Option Line :=
  (Value.ofText? text).bind ofValue?

end Line

/-- Adds the word or form of a line. -/
def add (lexicon : Lexicon) : Line → Lexicon
  | .word entry => lexicon.insertWord entry
  | .form wordId form => lexicon.insertForm wordId form

end Inflection.Lexicon
