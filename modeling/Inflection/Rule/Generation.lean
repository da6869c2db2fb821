import Inflection.FormSet
import Inflection.Rule.RuleSet

/-!
Making the forms of a word from its root and its rule.
-/

namespace Inflection

namespace Rule

/-- Strips a fixed ending from a root and writes each replacement after the
stem. -/
def concatenate (root suffix : String) (replacements : List Replacement) :
    Except Misfit (List (Option String)) :=
  match List.isSuffixOf? suffix.toList root.toList with
  | some stem => .ok (replacements.map (Replacement.after (String.ofList stem)))
  | none => .error (.unfit root (.suffix suffix))

/-- Replaces the leftmost match of a pattern in a root by each replacement. The
text `source` names the pattern in the error. -/
def substitute (root source : String) (pattern : Pattern) (replacements : List Replacement) :
    Except Misfit (List (Option String)) :=
  match pattern.find? root.toList with
  | none => .error (.unfit root (.pattern source))
  | some found =>
    match found.span? 0 with
    | none => .error .unmarkedMatch
    | some (start, stop) =>
      .ok (replacements.map
        (Replacement.form found.group? (root.toList.take start) (root.toList.drop stop)))

/-- Refuses a root that does not satisfy the precondition, if there is one. -/
def checkPrecondition (root : String) : Option Precondition → Except Misfit Unit
  | none => .ok ()
  | some condition =>
    if condition.isSatisfiedBy root then .ok ()
    else .error (.unfit root (.precondition condition.source))

end Rule

namespace RuleSet

open Rule

/-- The forms of a root, one for each replacement. -/
def generate (rules : RuleSet) (root : String) : Except Misfit FormSet := do
  checkPrecondition root rules.precondition
  let forms ←
    match rules.strip with
    | .concatenation suffix => concatenate root suffix rules.replacements
    | .pattern source pattern _ => substitute root source pattern rules.replacements
  return ⟨root, forms⟩

end RuleSet

/-- The forms of a root by a rule text. -/
def generate (root rules : String) : Except Error FormSet :=
  match RuleSet.ofText rules with
  | .error fault => .error fault.toError
  | .ok rules => (rules.generate root).mapError Rule.Misfit.toError

end Inflection
