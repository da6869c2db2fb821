import Inflection.Error

/-!
What can be wrong with a rule text, and how a word can fail to fit a rule.
-/

namespace Inflection.Rule

/-- Why a rule text was refused. -/
inductive Fault where
  | noDeclaration
  | noReplacements (ending : String)
  | invalidPrecondition (source : String)
  | unterminatedClass (ending : String)
  | emptyClass (ending : String)
  | invalidPattern (ending : String)
  /-- The replacement at `position` refers back more often than the pattern
  has captures. -/
  | tooManyReferences (position references : Nat) (source : String) (captures : Nat)
deriving DecidableEq, Repr

/-- The text of a fault. It names a condition or an ending that is no pattern and
ends there: the report of the reader of patterns on what is wrong in it, which
a longer text would give after a colon, is left out. -/
def Fault.message : Fault → String
  | noDeclaration => "rule string has no declaration line"
  | noReplacements ending => "rule '" ++ ending ++ "' declares no replacement entries"
  | invalidPrecondition source => "invalid precondition '" ++ source ++ "'"
  | unterminatedClass ending => "unterminated character class in '" ++ ending ++ "'"
  | emptyClass ending => "empty character class in '" ++ ending ++ "'"
  | invalidPattern ending => "invalid pattern '" ++ ending ++ "'"
  | tooManyReferences position references source captures =>
    "replacement " ++ toString position ++ " uses " ++ toString references ++
      " back-references but pattern '" ++ source ++ "' captures " ++ toString captures

def Fault.toError (fault : Fault) : Error := .rule fault.message

/-- The condition that a root fails, with the text that wrote it. -/
inductive Condition where
  | precondition (source : String)
  | suffix (ending : String)
  | pattern (source : String)
deriving DecidableEq, Repr

def Condition.source : Condition → String
  | precondition source => source
  | suffix ending => ending
  | pattern source => source

def Condition.message : Condition → String
  | precondition _ => "root does not end with the required precondition"
  | suffix _ => "root does not end with the suffix to strip"
  | pattern _ => "root does not end with the pattern to replace"

/-- Why the forms of a root cannot be made. -/
inductive Misfit where
  /-- The root does not fit; `failed` is the first condition that it fails. -/
  | unfit (root : String) (failed : Condition)
  /-- A match that does not tell where it lies. -/
  | unmarkedMatch
deriving DecidableEq, Repr

def Misfit.toError : Misfit → Error
  | unfit root failed => .validation root failed.source failed.message
  | unmarkedMatch => .internal "pattern matched without a whole-match group"

end Inflection.Rule
