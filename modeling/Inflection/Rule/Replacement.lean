import Inflection.Pattern.Basic

/-!
The replacements of a rule: what takes the place of the ending of a root.
-/

namespace Inflection.Rule

inductive Replacement where
  /-- A text, in which a question mark may stand for a captured character. -/
  | literal (text : String)
  /-- Nothing: the stem itself is the form. -/
  | empty
  /-- The form does not exist. -/
  | absent
deriving DecidableEq, Repr

namespace Replacement

/-- The replacement that a line writes. -/
def ofEntry (entry : String) : Replacement :=
  if entry = "0" then empty
  else if entry = "\\-" then absent
  else literal entry

/-- The number of question marks. -/
def references : Replacement → Nat
  | literal text => text.toList.count '?'
  | empty | absent => 0

/-- The text of a literal with its question marks, from left to right, replaced
by the texts of the groups from number `next` on. A group that took no part
gives nothing. -/
def resolve (group? : Nat → Option (List Char)) (next : Nat) : List Char → List Char
  | [] => []
  | c :: rest =>
    if c = '?' then (group? next).getD [] ++ resolve group? (next + 1) rest
    else c :: resolve group? next rest

/-- The form made from the stem `head`, an ending made from the replacement,
and the text `tail` after the ending. -/
def form (group? : Nat → Option (List Char)) (head tail : List Char) :
    Replacement → Option String
  | literal text => some (String.ofList (head ++ resolve group? 1 text.toList ++ tail))
  | empty => some (String.ofList (head ++ tail))
  | absent => none

/-- The form made by writing the replacement after a stem as it stands. -/
def after (stem : String) : Replacement → Option String
  | literal text => some (stem ++ text)
  | empty => some stem
  | absent => none

end Replacement

end Inflection.Rule
