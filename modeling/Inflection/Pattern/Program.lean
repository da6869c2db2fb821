import Inflection.Pattern.Node

/-!
Patterns as programs. An instruction stands at an address and names the
addresses of those that may follow it. The instructions of a node stand side
by side, begin at the first of their addresses and leave to the address that
is given for them.
-/

namespace Inflection.Pattern

inductive Instruction where
  /-- Takes a character of a set. -/
  | take (members : CharSet) (next : Nat)
  /-- Takes one character. -/
  | literal (c : Char) (next : Nat)
  | look (boundary : Boundary) (next : Nat)
  /-- Begins or ends the text of a group. -/
  | openGroup (index : Nat) (next : Nat)
  | closeGroup (index : Nat) (next : Nat)
  /-- Goes either way, the first being preferred. -/
  | fork (first second : Nat)
  | jump (next : Nat)
  | accept
deriving DecidableEq

namespace Instruction

/-- Goes round again or on, as the greed of a repetition has it. -/
def again (greedy : Bool) (round on : Nat) : Instruction :=
  if greedy then fork round on else fork on round

end Instruction

namespace Node

open Instruction

/-- The number of instructions. -/
def size : Node → Nat
  | literal text => text.length + 1
  | empty | set _ | look _ => 1
  | group _ body => body.size + 2
  | seq first second => first.size + second.size
  | alt first second => first.size + second.size + 1
  | times 0 none _ body => if body.takesCharacters then body.size + 1 else body.size + 2
  | times low none _ body => low * body.size + 1
  | times low (some high) _ body => low * body.size + (high - low) * (body.size + 1) + 1

/-- Instructions that take characters one after another. -/
def literalCode : Nat → Nat → List Char → List Instruction
  | _, next, [] => [jump next]
  | base, next, c :: rest => Instruction.literal c (base + 1) :: literalCode (base + 1) next rest

/-- The same code several times, each leaving to the next. -/
def copies (code : Nat → Nat → List Instruction) (size base count : Nat) : List Instruction :=
  (List.range count).flatMap fun k => code (base + k * size) (base + (k + 1) * size)

/-- The instructions of a node from address `base` on, which leave to `next`. What
may take no characters is repeated as something optional that occurs once or
more, so that a first time that takes none is preferred to no time where the
pattern says so. -/
def code : Node → Nat → Nat → List Instruction
  | empty, _, next => [jump next]
  | literal text, base, next => literalCode base next text
  | set members, _, next => [take members next]
  | look boundary, _, next => [Instruction.look boundary next]
  | group index body, base, next =>
    openGroup index (base + 1) :: body.code (base + 1) (base + body.size + 1) ++
      [closeGroup index next]
  | seq first second, base, next =>
    first.code base (base + first.size) ++ second.code (base + first.size) next
  | alt first second, base, next =>
    fork (base + 1) (base + first.size + 1) :: first.code (base + 1) next ++
      second.code (base + first.size + 1) next
  | times 0 none greedy body, base, next =>
    if body.takesCharacters then again greedy (base + 1) next :: body.code (base + 1) base
    else
      let last := base + body.size + 1
      again greedy (base + 1) next :: body.code (base + 1) last ++ [again greedy (base + 1) next]
  | times (low + 1) none greedy body, base, next =>
    let last := base + (low + 1) * body.size
    copies body.code body.size base (low + 1) ++ [again greedy (last - body.size) next]
  | times low (some high) greedy body, base, next =>
    let optional := fun base after => again greedy (base + 1) next :: body.code (base + 1) after
    let middle := base + low * body.size
    copies body.code body.size base low ++
      copies optional (body.size + 1) middle (high - low) ++ [jump next]

/-- A node that may begin anywhere, as early as possible, and is kept as group
zero. -/
def anywhere (node : Node) : Node :=
  seq (times 0 none false (set CharSet.all)) (group 0 node)

end Node

/-- The instructions by address. A search begins at the first of them, and a
match ends at the last. -/
structure Program where
  instructions : Array Instruction

namespace Program

def ofNode (node : Node) : Program :=
  let whole := node.anywhere
  ⟨(whole.code 0 whole.size ++ [Instruction.accept]).toArray⟩

end Program

end Inflection.Pattern
