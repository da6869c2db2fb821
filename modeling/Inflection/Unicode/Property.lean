import Inflection.Unicode.Age
import Inflection.Unicode.BinaryProperty
import Inflection.Unicode.GeneralCategory
import Inflection.Unicode.Script
import Inflection.Unicode.ScriptExtensions
import Inflection.Unicode.Segmentation

/-!
Character properties by name. Names are compared loosely: case, blanks, low
lines, hyphens and a leading "is" do not count, and neither do characters
outside ASCII.
-/

namespace Inflection.Unicode.Property

/-- Whether a character of a name counts. -/
def counts (c : Char) : Bool :=
  c.toNat < 128 && c ≠ ' ' && c ≠ '_' && c ≠ '-'

def withoutIs : List Char → List Char
  | i :: s :: rest => if i.toLower = 'i' ∧ s.toLower = 's' then rest else i :: s :: rest
  | name => name

/-- The form in which two loosely equal names are the same. The name `isc`
keeps its first letters, as it would otherwise be mistaken for `c`. -/
def normalize (name : List Char) : String :=
  let short := String.ofList (((withoutIs name).filter counts).map Char.toLower)
  if short = "c" ∧ withoutIs name ≠ name then "isc" else short

/-- The set of a general category or of a group of them, by normal form. -/
def category? (name : String) : Option CharSet :=
  match name with
  | "any" => some CharSet.all
  | "ascii" => some (CharSet.ascii fun _ => true)
  | "assigned" => (GeneralCategory.table.find? "cn").map CharSet.compl
  | _ => GeneralCategory.table.find? name

/-- The set named by a property, a general category or a script alone. Three
abbreviations are shared by a property that is no set and a category; they
mean the category. -/
def ofName? (name : List Char) : Option CharSet :=
  let key := normalize name
  BinaryProperty.table.find? key <|> category? key <|> Script.table.find? key

/-- The characters assigned in the given version or an earlier one. -/
def age? (version : String) : Option CharSet :=
  let later := Age.table.dropWhile fun row => !Table.isNamed version row
  match later with
  | [] => none
  | row :: _ =>
    let earlier := Age.table.takeWhile fun row => !Table.isNamed version row
    some (earlier.foldl (fun assigned row => assigned ∪ Table.setOf row.2) (Table.setOf row.2))

/-- The set of characters whose property `name` has the given value. -/
def ofValue? (name value : List Char) : Option CharSet :=
  let value := normalize value
  match normalize name with
  | "gc" | "generalcategory" => category? value
  | "sc" | "script" => Script.table.find? value
  | "scx" | "scriptextensions" => ScriptExtensions.table.find? value
  | "age" => age? value
  | "gcb" | "graphemeclusterbreak" => Segmentation.graphemeClusters.find? value
  | "wb" | "wordbreak" => Segmentation.words.find? value
  | "sb" | "sentencebreak" => Segmentation.sentences.find? value
  | _ => none

end Inflection.Unicode.Property
