import Inflection.CharSet
import Inflection.Pattern.Boundary

/-!
Patterns without their text. A node is made by `sequence`, `choice`, `repeated`
and `ofSet`, which write equal patterns alike: sequences and choices are
flat, neighbouring literals are one, a set with one member is a literal, and a
choice between characters is a set. Nodes made so prefer the same matches as
those they are made of.
-/

namespace Inflection.Pattern

inductive Node where
  | empty
  /-- Some characters, one after another. -/
  | literal (text : List Char)
  /-- One character of a set. -/
  | set (members : CharSet)
  /-- No character, at a place that satisfies a condition. -/
  | look (boundary : Boundary)
  /-- A part whose text is kept under a number. -/
  | group (index : Nat) (body : Node)
  | seq (first second : Node)
  /-- Either of two parts, the first being preferred. -/
  | alt (first second : Node)
  /-- At least `low` and at most `high` times the body; as often as possible
  if `greedy`, and otherwise as rarely as possible. -/
  | times (low : Nat) (high : Option Nat) (greedy : Bool) (body : Node)
deriving DecidableEq

namespace Node

/-- A set, or a literal if the set has one member. -/
def ofSet (s : CharSet) : Node :=
  match s.sole? with
  | some c => literal [c]
  | none => set s

/-- The parts of a sequence. -/
def parts : Node → List Node
  | empty => []
  | seq first second => first :: second.parts
  | node => [node]

/-- The branches of a choice. -/
def branches : Node → List Node
  | alt first second => first :: second.branches
  | node => [node]

/-- Puts a part before others, where two literals become one. -/
def prepend (node : Node) (rest : List Node) : List Node :=
  match node, rest with
  | literal text, literal more :: rest => literal (text ++ more) :: rest
  | node, rest => node :: rest

/-- One after another. -/
def sequence (nodes : List Node) : Node :=
  let parts := (nodes.flatMap parts).foldr prepend []
  match parts.getLast? with
  | some last => parts.dropLast.foldr seq last
  | none => empty

/-- The only character of a literal. -/
def char? : Node → Option Char
  | literal [c] => some c
  | _ => none

def members? : Node → Option CharSet
  | set members => some members
  | _ => none

/-- Any of several branches, none of which is a choice. Branches that are all
characters or all sets make one set. -/
def oneOf (branches : List Node) : Node :=
  match branches.getLast? with
  | none => set ∅
  | some last =>
    if branches.length = 1 then last
    else if let some cs := branches.mapM char? then ofSet (CharSet.ofChars cs)
    else if let some sets := branches.mapM members? then ofSet (sets.foldl CharSet.union ∅)
    else branches.dropLast.foldr alt last

/-- The longest beginning of two lists. -/
def commonPrefix : List Node → List Node → List Node
  | a :: as, b :: bs => if a = b then a :: commonPrefix as bs else []
  | _, _ => []

/-- The parts with which all of several sequences begin. A branch of one part is no
sequence. -/
def sharedParts (branches : List Node) : List Node :=
  match branches with
  | [] => []
  | first :: others =>
    if branches.all fun node => 2 ≤ node.parts.length then
      others.foldl (fun shared node => commonPrefix shared node.parts) first.parts
    else []

/-- Any of several nodes, the first being preferred. What all begin with is
written once. -/
def choice (nodes : List Node) : Node :=
  let all := nodes.flatMap branches
  let whole := oneOf all
  match whole with
  | alt .. =>
    match sharedParts all with
    | [] => whole
    | shared =>
      let rests := all.map fun node => sequence (node.parts.drop shared.length)
      sequence (shared ++ [oneOf (rests.flatMap branches)])
  | _ => whole

/-- Whether all matches are empty. -/
def isWidthless : Node → Bool
  | empty | look _ => true
  | literal _ | set _ => false
  | group _ body => body.isWidthless
  | seq first second | alt first second => first.isWidthless && second.isWidthless
  | times _ high _ body => high.isSome && body.isWidthless

/-- The least number of characters in a match, unless the node holds a set
without members. -/
def minLength : Node → Option Nat
  | empty | look _ => some 0
  | literal text => some text.length
  | set members => if members.isEmpty then none else some 1
  | group _ body => body.minLength
  | seq first second => return (← first.minLength) + (← second.minLength)
  | alt first second => return min (← first.minLength) (← second.minLength)
  | times low _ _ body => body.minLength.map (low * ·)

/-- Whether every match takes a character. -/
def takesCharacters (node : Node) : Bool :=
  node.minLength.any (0 < ·)

/-- A repetition. What takes no characters is repeated once at most. -/
def repeated (low : Nat) (high : Option Nat) (greedy : Bool) (body : Node) : Node :=
  let (low, high) :=
    if body.isWidthless then (min low 1, some (min (high.getD 1) 1)) else (low, high)
  if high = some 0 then empty
  else if low = 1 ∧ high = some 1 then body
  else times low high greedy body

end Node

end Inflection.Pattern
