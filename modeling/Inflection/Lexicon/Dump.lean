import Inflection.File
import Inflection.Lexicon.Line
import Inflection.Lines

/-!
Dumps of a lexicon. A dump is a sequence of bytes with one word or form in a
line; lines of blanks count but hold nothing.
-/

namespace Inflection.Lexicon

namespace Dump

def isBlank (line : List Char) : Bool :=
  line.all Unicode.isBlank

/-- The lines of a dump, without their ends. What follows the last line feed is a
line without an end. -/
def lines (bytes : List UInt8) : List (List UInt8) :=
  let parts := bytes.splitOn 0x0A
  parts.dropLast.map (Lines.dropFinal 0x0D) ++ parts.getLast?.toList

/-- What the line with the given number adds, if it is not blank. The error ends
with the number: the report of the reader of JSON on what is wrong in the line,
which a longer text would give after a colon, is left out. -/
def readLine (number : Nat) (bytes : List UInt8) : Except Error (Option Line) := do
  let text ← File.decodeUtf8 bytes
  if isBlank text.toList then return none
  match Line.ofText? text.toList with
  | some line => return some line
  | none => throw (.serialization ("invalid lexicon line " ++ toString number))

/-- Adds the lines from the given number on to a lexicon. -/
def addLines (lexicon : Lexicon) (number : Nat) : List (List UInt8) → Except Error Lexicon
  | [] => .ok lexicon
  | bytes :: rest =>
    match readLine number bytes with
    | .error error => .error error
    | .ok none => addLines lexicon (number + 1) rest
    | .ok (some line) => addLines (lexicon.add line) (number + 1) rest

end Dump

/-- The lexicon of a dump, or the error of its first line that cannot be
read. -/
def ofDump (bytes : List UInt8) : Except Error Lexicon :=
  Dump.addLines {} 1 (Dump.lines bytes)

def ofFile (file : File) : Except Error Lexicon := do
  ofDump (← file.contents)

end Inflection.Lexicon
