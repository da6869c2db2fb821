import Inflection.File
import Inflection.Study.Plan
import Inflection.Unicode.Classes
import Inflection.Yaml.Document

/-!
Study plans as text, in JSON or in YAML.
-/

namespace Inflection.StudyPlan

open Yaml (Document Tree)

/-- A mapping of a document with texts as keys, whose values are read by
`value?`; of several pairs with one key the last counts. -/
def map? {α : Type} (document : Document) (value? : Tree → Option α) (tree : Tree) :
    Option (Std.ExtTreeMap String α) := do
  let pairs ← document.pairs? tree
  let pairs ← pairs.mapM fun (key, value) => do
    return (← document.text? key, ← value? value)
  return Mapping.ofEntries pairs

def slotNames? (document : Document) (tree : Tree) : Option (List String) := do
  (← document.items? tree).mapM document.text?

/-- The plan of a document. -/
def ofDocument? (document : Document) : Option StudyPlan :=
  match document.root with
  | none => some {}
  | some root => do
    if !document.repeatsWithinBounds 4 then none
    return ⟨← map? document (map? document (slotNames? document)) root⟩

/-- The plan of a text in YAML. The error says only that the text cannot be read:
the report of the reader on what is wrong in it, which a longer text would give
after a colon, is left out. -/
def ofYaml (text : String) : Except Error StudyPlan :=
  match (Document.ofText? text.toList).bind ofDocument? with
  | some plan => .ok plan
  | none => .error (.config "invalid YAML study configuration")

/-- The plan of a text in JSON, with an error that leaves out the report of the
reader in the same way. -/
def ofJson (text : String) : Except Error StudyPlan :=
  match Json.read? text with
  | some plan => .ok plan
  | none => .error (.config "invalid JSON study configuration")

/-- Reads a plan in either format: a text that begins with a brace is JSON. -/
def ofText (text : String) : Except Error StudyPlan :=
  if (text.toList.dropWhile Unicode.isBlank).head? = some '{' then ofJson text else ofYaml text

/-- Reads a plan in the format that the extension of the file names. -/
def ofFile (file : File) : Except Error StudyPlan := do
  let text ← file.text
  match (file.extension.getD []).map Char.toLower |> String.ofList with
  | "json" => ofJson text
  | "yaml" | "yml" => ofYaml text
  | _ => ofText text

end Inflection.StudyPlan
