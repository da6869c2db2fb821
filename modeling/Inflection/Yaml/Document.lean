import Inflection.Yaml.Node

/-!
Documents with their aliases resolved. A name is given a number when a node is
anchored under it: the count of names known by then. An alias stands for the
node that was last anchored under the number that its name has at the alias,
wherever in the document that node is.
-/

namespace Inflection.Yaml

/-- A node in which aliases hold numbers. -/
inductive Tree where
  | alias (number : Nat)
  | scalar (tag : Option String) (style : ScalarStyle) (text : String)
  | sequence (items : List Tree)
  | mapping (pairs : List (Tree × Tree))

/-- The names known at a place, each with its number, the latest first. -/
abbrev AnchorNames := List (String × Nat)

/-- The nodes anchored under numbers, in the order in which they begin. -/
abbrev AnchoredTrees := List (Nat × Tree)

namespace AnchorNames

def addName (names : AnchorNames) (name : String) : AnchorNames :=
  (name, (names.map (·.1)).eraseDups.length) :: names

/-- The names after an anchor. -/
def after (names : AnchorNames) : Option String → AnchorNames
  | none => names
  | some name => names.addName name

/-- What an anchor adds to the anchored nodes. -/
def anchored (names : AnchorNames) (anchor : Option String) (tree : Tree) : AnchoredTrees :=
  match anchor with
  | none => []
  | some name => ((names.addName name).take 1).map fun (_, number) => (number, tree)

end AnchorNames

/-- A resolved node, the nodes anchored in it, and the names known after it. -/
structure Resolved (α : Type) where
  result : α
  anchored : AnchoredTrees
  names : AnchorNames

mutual

/-- Replaces the names of aliases by numbers, or fails at an unknown name. -/
def Node.resolve? (names : AnchorNames) : Node → Option (Resolved Tree)
  | .alias name => (names.lookup name).map fun number => ⟨.alias number, [], names⟩
  | .scalar anchor tag style text =>
    let tree := .scalar tag style text
    some ⟨tree, names.anchored anchor tree, names.after anchor⟩
  | .sequence anchor items => do
    let items ← resolveItems? (names.after anchor) items
    let tree := .sequence items.result
    return ⟨tree, names.anchored anchor tree ++ items.anchored, items.names⟩
  | .mapping anchor pairs => do
    let pairs ← resolvePairs? (names.after anchor) pairs
    let tree := .mapping pairs.result
    return ⟨tree, names.anchored anchor tree ++ pairs.anchored, pairs.names⟩

def resolveItems? (names : AnchorNames) : List Node → Option (Resolved (List Tree))
  | [] => some ⟨[], [], names⟩
  | item :: items => do
    let item ← item.resolve? names
    let items ← resolveItems? item.names items
    return ⟨item.result :: items.result, item.anchored ++ items.anchored, items.names⟩

def resolvePairs? (names : AnchorNames) :
    List (Node × Node) → Option (Resolved (List (Tree × Tree)))
  | [] => some ⟨[], [], names⟩
  | (key, value) :: pairs => do
    let key ← key.resolve? names
    let value ← value.resolve? key.names
    let pairs ← resolvePairs? value.names pairs
    return ⟨(key.result, value.result) :: pairs.result,
      key.anchored ++ value.anchored ++ pairs.anchored, pairs.names⟩

end

/-- A document: its node, if it has one, and the nodes that aliases may stand
for. -/
structure Document where
  root : Option Tree
  anchored : AnchoredTrees

namespace Document

/-- The only document of a stream. -/
def ofText? (text : List Char) : Option Document := do
  match ← Node.ofTokens? (← Token.ofText? text) with
  | none => return ⟨none, []⟩
  | some node =>
    let resolved ← node.resolve? []
    return ⟨some resolved.result, resolved.anchored⟩

/-- The node that a node stands for. -/
def follow? (d : Document) : Tree → Option Tree
  | .alias number => (d.anchored.reverse.find? (·.1 = number)).map (·.2)
  | tree => some tree

end Document

mutual

/-- The number of steps in which a tree is written: one for a scalar or an
alias, and two more than its parts for a collection. -/
def Tree.steps : Tree → Nat
  | .alias _ => 1
  | .scalar .. => 1
  | .sequence items => stepsOfItems items + 2
  | .mapping pairs => stepsOfPairs pairs + 2

def stepsOfItems : List Tree → Nat
  | [] => 0
  | item :: items => item.steps + stepsOfItems items

def stepsOfPairs : List (Tree × Tree) → Nat
  | [] => 0
  | (key, value) :: pairs => key.steps + value.steps + stepsOfPairs pairs

end

namespace Document

/-- The number of aliases followed in reading a tree to the given depth. -/
def aliasCount (d : Document) : Nat → Tree → Nat
  | 0, _ => 0
  | depth + 1, tree =>
    let here := match tree with
      | .alias _ => 1
      | _ => 0
    match d.follow? tree with
    | some (.sequence items) => items.foldl (fun n item => n + d.aliasCount depth item) here
    | some (.mapping pairs) =>
      pairs.foldl (fun n (key, value) => n + d.aliasCount depth key + d.aliasCount depth value)
        here
    | _ => here

/-- Whether a document of the given depth repeats itself within bounds: at most
a hundred aliases for each step in which it is written. -/
def repeatsWithinBounds (d : Document) (depth : Nat) : Bool :=
  d.root.all fun root => d.aliasCount depth root ≤ 100 * root.steps

/-- The text of a scalar of any style. -/
def text? (d : Document) (tree : Tree) : Option String :=
  match d.follow? tree with
  | some (.scalar _ _ text) => some text
  | _ => none

/-- The items of a sequence. A plain scalar without text stands for none. -/
def items? (d : Document) (tree : Tree) : Option (List Tree) :=
  match d.follow? tree with
  | some (.sequence items) => some items
  | some (.scalar _ .plain "") => some []
  | _ => none

/-- The pairs of a mapping. A plain scalar without text stands for none. -/
def pairs? (d : Document) (tree : Tree) : Option (List (Tree × Tree)) :=
  match d.follow? tree with
  | some (.mapping pairs) => some pairs
  | some (.scalar _ .plain "") => some []
  | _ => none

end Document

end Inflection.Yaml
