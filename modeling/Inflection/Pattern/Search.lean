import Inflection.Pattern.Program
import Std.Data.TreeSet

/-!
Running a program on a text. A thread is an address of the program with a place
in the text. Threads are followed depth first, the preferred way first, and no
address is tried twice at one place: what can follow depends on these two
alone, so that a second try cannot succeed where the first has failed.
-/

namespace Inflection.Pattern

/-- Depth-first search for a value that is accepted, among those that follow from
the given ones. Of values with the same key only the first is followed.
The number bounds the values that are looked at. -/
def firstAccepted {α : Type} (key : α → Nat) (accepts : α → Bool) (following : α → List α) :
    Nat → Std.TreeSet Nat → List α → Option α
  | 0, _, _ => none
  | _, _, [] => none
  | steps + 1, seen, a :: pending =>
    if seen.contains (key a) then firstAccepted key accepts following steps seen pending
    else if accepts a then some a
    else
      firstAccepted key accepts following steps (seen.insert (key a)) (following a ++ pending)

/-- An end of a group: its number, whether the group begins or ends there, and how
many characters stand before. -/
structure GroupMark where
  index : Nat
  opens : Bool
  offset : Nat

structure Thread where
  address : Nat
  /-- How many characters stand before the place, and the last of them. -/
  offset : Nat
  before : Option Char
  rest : List Char
  /-- The ends of groups that have been passed, the latest first. -/
  marks : List GroupMark := []

namespace Thread

/-- Goes on at an address after the next character, if that satisfies a condition. -/
def take (thread : Thread) (holds : Char → Bool) (next : Nat) : List Thread :=
  match thread.rest with
  | [] => []
  | c :: rest =>
    if holds c then
      [{ thread with address := next, offset := thread.offset + 1, before := some c, rest }]
    else []

/-- Notes an end of a group and goes on at an address. -/
def mark (thread : Thread) (index : Nat) (opens : Bool) (next : Nat) : Thread :=
  { thread with address := next, marks := ⟨index, opens, thread.offset⟩ :: thread.marks }

/-- The offset of the last begin or end of a group. -/
def offset? (thread : Thread) (index : Nat) (opens : Bool) : Option Nat :=
  (thread.marks.find? fun mark => mark.index = index && mark.opens == opens).map GroupMark.offset

end Thread

namespace Program

/-- The threads that follow one, the preferred first. -/
def following (program : Program) (thread : Thread) : List Thread :=
  match program.instructions[thread.address]? with
  | none | some .accept => []
  | some (.take members next) => thread.take members.contains next
  | some (.literal c next) => thread.take (· == c) next
  | some (.look boundary next) =>
    if boundary.holds thread.before thread.rest.head? then [{ thread with address := next }]
    else []
  | some (.openGroup index next) => [thread.mark index true next]
  | some (.closeGroup index next) => [thread.mark index false next]
  | some (.fork first second) =>
    [{ thread with address := first }, { thread with address := second }]
  | some (.jump next) => [{ thread with address := next }]

/-- A number for the address and the place of a thread. -/
def key (program : Program) (thread : Thread) : Nat :=
  thread.offset * program.instructions.size + thread.address

def accepts (program : Program) (thread : Thread) : Bool :=
  program.instructions[thread.address]? = some .accept

/-- The thread that ends the first match: the leftmost, and of those that begin at
one place the preferred. Each thread that is followed adds two at most. -/
def run (program : Program) (text : List Char) : Option Thread :=
  let keys := (text.length + 1) * program.instructions.size
  firstAccepted program.key program.accepts program.following (2 * keys + 2) ∅
    [{ address := 0, offset := 0, before := none, rest := text }]

end Program

end Inflection.Pattern
