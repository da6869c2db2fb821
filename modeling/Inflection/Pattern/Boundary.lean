import Inflection.Unicode.Classes

/-!
Conditions on a place between two characters. A place is given by the
character before it and the character after it, where the ends of the text
have none.
-/

namespace Inflection.Pattern

/-- The conditions on which side of a place holds a word character. -/
inductive WordBorder where
  /-- Where exactly one side is a word character. -/
  | either
  | neither
  | start
  | stop
  /-- Where no word character stands before, whatever follows. -/
  | startHalf
  /-- Where no word character follows, whatever stands before. -/
  | stopHalf
deriving DecidableEq

namespace WordBorder

/-- Whether the condition holds where a word character stands before or after
as told. -/
def holds (before after : Bool) : WordBorder → Bool
  | either => before != after
  | neither => before == after
  | start => !before && after
  | stop => before && !after
  | startHalf => !before
  | stopHalf => !after

end WordBorder

inductive Boundary where
  | startOfText
  | endOfText
  /-- The start of the text or the place after a line feed. -/
  | startOfLine
  /-- The end of the text or the place before a line feed. -/
  | endOfLine
  /-- As `startOfLine`, where a carriage return also ends a line, but not
  between it and a line feed. -/
  | startOfAnyLine
  /-- As `endOfLine`, where a carriage return also ends a line, but not between
  it and a line feed. -/
  | endOfAnyLine
  /-- A border of words, whose characters are those of ASCII text or of all
  text. -/
  | word (border : WordBorder) (unicode : Bool)
deriving DecidableEq

namespace Boundary

/-- The letters, digits and low line of ASCII text. -/
def isAsciiWordCharacter (c : Char) : Bool := c.isAlphanum || c = '_'

def isWordCharacter (unicode : Bool) (c : Char) : Bool :=
  if unicode then Unicode.wordCharacters.contains c else isAsciiWordCharacter c

def holds (before after : Option Char) : Boundary → Bool
  | startOfText => before.isNone
  | endOfText => after.isNone
  | startOfLine => before.isNone || before = some '\n'
  | endOfLine => after.isNone || after = some '\n'
  | startOfAnyLine =>
    before.isNone || before = some '\n' || (before = some '\r' && after ≠ some '\n')
  | endOfAnyLine =>
    after.isNone || after = some '\r' || (after = some '\n' && before ≠ some '\r')
  | word border unicode =>
    border.holds (before.any (isWordCharacter unicode)) (after.any (isWordCharacter unicode))

end Boundary

end Inflection.Pattern
