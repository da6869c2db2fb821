import Inflection.Rule.Ending
import Inflection.Rule.Replacement
import Inflection.Rule.Tokens

/-!
Rules that have been read: a condition on the root, the ending to strip, and
one replacement for each form.
-/

namespace Inflection.Rule

/-- A condition that the end of a root must satisfy. -/
structure Precondition where
  source : String
  pattern : Pattern

namespace Precondition

/-- Two conditions are the same if they are written the same. -/
instance : BEq Precondition where
  beq left right := left.source == right.source

/-- The text of a pattern for roots that end with a match of `source`. -/
def patternText (source : String) : List Char :=
  "^.*(?:".toList ++ source.toList ++ ")$".toList

def ofSource (source : String) : Except Fault Precondition :=
  match Pattern.ofText? (patternText source) with
  | some pattern => .ok ⟨source, pattern⟩
  | none => .error (.invalidPrecondition source)

def isSatisfiedBy (condition : Precondition) (root : String) : Bool :=
  condition.pattern.isFoundIn root.toList

end Precondition

end Inflection.Rule

namespace Inflection

/-- The rule by which a word forms its forms. -/
structure RuleSet where
  precondition : Option Rule.Precondition
  strip : Rule.Strip
  replacements : List Rule.Replacement

namespace RuleSet

open Rule

instance : BEq RuleSet where
  beq left right :=
    left.precondition == right.precondition && left.strip == right.strip &&
      left.replacements == right.replacements

/-- The first replacement that refers to more captured characters than there
are, with its position. -/
def firstExcess? (captures : Nat) (replacements : List Replacement) : Option (Nat × Nat) :=
  (replacements.zipIdx.find? (captures < ·.1.references)).map fun (replacement, position) =>
    (position, replacement.references)

/-- Refuses replacements that refer to characters that are not captured. A
fixed ending captures none, and then question marks stand for themselves. -/
def checkReferences (strip : Strip) (replacements : List Replacement) : Except Fault Unit :=
  match strip with
  | .concatenation _ => .ok ()
  | .pattern source _ captures =>
    match firstExcess? captures replacements with
    | some (position, references) =>
      .error (.tooManyReferences position references source captures)
    | none => .ok ()

/-- The precondition of a declaration, if it has one. -/
def preconditionOf : Option String → Except Fault (Option Precondition)
  | none => .ok none
  | some source => (Precondition.ofSource source).map some

/-- The rule set that the lines of a rule text declare. -/
def ofTokens (tokens : Tokens) : Except Fault RuleSet := do
  if tokens.entries.isEmpty then throw (.noReplacements tokens.ending)
  let precondition ← preconditionOf tokens.precondition
  let strip ← Strip.ofEnding tokens.ending
  let replacements := tokens.entries.map Replacement.ofEntry
  checkReferences strip replacements
  return { precondition, strip, replacements }

/-- The rule set that a rule text declares. -/
def ofText (text : String) : Except Fault RuleSet := do
  ofTokens (← Tokens.ofText text)

end RuleSet

end Inflection
