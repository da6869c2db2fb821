import Inflection.Pattern.Basic
import Inflection.Rule.Fault

/-!
The ending that a rule strips. An ending without brackets stands for itself. In
an ending with brackets each bracketed class stands for one character of the
class, which is kept for the replacements, and every other character stands
for itself.
-/

namespace Inflection.Rule

/-- One character of an ending. -/
inductive Ending.Item where
  | literal (c : Char)
  /-- One character of the class with the given text between its brackets. -/
  | oneOf (classText : List Char)
deriving DecidableEq, Repr

namespace Ending

/-- Reads the items of an ending. The text of an open class is given with its
last character first. -/
def itemsFrom (ending : String) : Option (List Char) → List Char → Except Fault (List Item)
  | none, [] => .ok []
  | none, c :: rest =>
    if c = '[' then itemsFrom ending (some []) rest
    else (itemsFrom ending none rest).map (.literal c :: ·)
  | some _, [] => .error (.unterminatedClass ending)
  | some classText, c :: rest =>
    if c ≠ ']' then itemsFrom ending (some (c :: classText)) rest
    else if classText = [] then .error (.emptyClass ending)
    else (itemsFrom ending none rest).map (.oneOf classText.reverse :: ·)

def items (ending : String) : Except Fault (List Item) :=
  itemsFrom ending none ending.toList

/-- The text of a pattern for one item. A class becomes a group. -/
def Item.patternText : Item → List Char
  | literal c => Pattern.Escape.quote [c]
  | oneOf classText => ['(', '['] ++ classText ++ [']', ')']

/-- The text of a pattern for the items at the end of a root. -/
def patternText (items : List Item) : List Char :=
  items.flatMap Item.patternText ++ ['$']

def Item.isClass : Item → Bool
  | literal _ => false
  | oneOf _ => true

/-- The number of classes. -/
def captures (items : List Item) : Nat :=
  items.countP Item.isClass

end Ending

/-- How the ending of a root is stripped. -/
inductive Strip where
  /-- A fixed ending, after which the replacements are written as they
  stand. -/
  | concatenation (suffix : String)
  /-- An ending with character classes, whose characters the replacements may
  refer to. -/
  | pattern (source : String) (pattern : Pattern) (captures : Nat)

namespace Strip

/-- The declared ending, empty if nothing is stripped. -/
def source : Strip → String
  | concatenation suffix => suffix
  | pattern source _ _ => source

def isPattern : Strip → Bool
  | concatenation _ => false
  | pattern .. => true

/-- Two ways to strip are the same if they are of one kind and declared by the
same text. -/
instance : BEq Strip where
  beq
    | concatenation left, concatenation right => left == right
    | pattern left _ _, pattern right _ _ => left == right
    | _, _ => false

/-- The way to strip that an ending declares. The ending `0` is empty. -/
def ofEnding (ending : String) : Except Fault Strip :=
  if ending = "0" then .ok (concatenation "")
  else if '[' ∉ ending.toList then .ok (concatenation ending)
  else do
    let items ← Ending.items ending
    match Pattern.ofText? (Ending.patternText items) with
    | some compiled => .ok (pattern ending compiled (Ending.captures items))
    | none => .error (.invalidPattern ending)

end Strip

end Inflection.Rule
