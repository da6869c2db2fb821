import Inflection.Lines
import Inflection.Rule.Fault

/-!
The lines of a rule text. The first declares the ending to strip and, after a
comma and a blank, the condition on the root; the others give one replacement
each. Empty lines and lines of a single hyphen among the latter are
placeholders and do not count.
-/

namespace Inflection.Rule

structure Tokens where
  ending : String
  precondition : Option String
  entries : List String
deriving DecidableEq, Repr

namespace Tokens

/-- The lines of a rule text, without their ends. -/
def lines (text : List Char) : List (List Char) :=
  (text.splitOn '\n').map (Lines.dropFinal '\r')

/-- The parts of a line before and after its first comma that a blank
follows. -/
def splitDeclaration : List Char → Option (List Char × List Char)
  | ',' :: ' ' :: rest => some ([], rest)
  | [] => none
  | c :: rest => (splitDeclaration rest).map fun (ending, condition) => (c :: ending, condition)

/-- Whether a line after the first holds a replacement. -/
def isEntry (line : List Char) : Bool :=
  line ≠ [] ∧ line ≠ ['-']

def ofDeclaration (declaration : List Char) (entries : List String) : Tokens :=
  match splitDeclaration declaration with
  | some (ending, condition) => ⟨String.ofList ending, some (String.ofList condition), entries⟩
  | none => ⟨String.ofList declaration, none, entries⟩

/-- The tokens of a rule text. -/
def ofText (text : String) : Except Fault Tokens :=
  match lines text.toList with
  | [] | [] :: _ => .error .noDeclaration
  | declaration :: rest =>
    .ok (ofDeclaration declaration ((rest.filter isEntry).map String.ofList))

end Tokens

end Inflection.Rule
