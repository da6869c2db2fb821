import Inflection.Pattern.Reader
import Inflection.Pattern.Search
import Inflection.Pattern.Storage

/-!
Patterns and their use: compiling one from its text and finding the leftmost
match in a text.
-/

namespace Inflection

/-- A pattern that has been read, with the program that finds it. -/
structure Pattern where
  node : Pattern.Node
  program : Pattern.Program := .ofNode node
  program_eq : program = .ofNode node := by rfl

namespace Pattern

/-- A match in a text. -/
structure Match where
  text : List Char
  /-- The offsets where a group begins and ends, if it took part. -/
  span? : Nat → Option (Nat × Nat)

/-- The text between two offsets. -/
def between (text : List Char) (start stop : Nat) : List Char :=
  (text.drop start).take (stop - start)

/-- The text of a group, if it took part. -/
def Match.group? (found : Match) (index : Nat) : Option (List Char) :=
  (found.span? index).map fun (start, stop) => between found.text start stop

/-- The match in a text that a thread has ended. -/
def Match.ofThread (text : List Char) (thread : Thread) : Match where
  text
  span? index := return (← thread.offset? index true, ← thread.offset? index false)

/-- Whether a reader that has come to the end of its text has read a pattern. -/
def Reader.isComplete (r : Reader) : Bool :=
  r.outer.isEmpty && r.piece.height ≤ heightLimit

/-- What a reader has read, if it is a pattern that is not too large. -/
def Reader.pattern? (r : Reader) : Option Pattern :=
  if r.isComplete && r.piece.node.fits then some { node := r.piece.node } else none

/-- The pattern that a text writes, if it writes one that is not too large. -/
def ofText? (text : List Char) : Option Pattern := do
  (← Reader.read? {} text).pattern?

/-- The leftmost match, and of those that begin there the preferred one. -/
def find? (p : Pattern) (text : List Char) : Option Match :=
  (p.program.run text).map (Match.ofThread text)

/-- Whether some part of the text matches. -/
def isFoundIn (p : Pattern) (text : List Char) : Bool :=
  (p.find? text).isSome

end Pattern

end Inflection
