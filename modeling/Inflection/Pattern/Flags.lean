import Inflection.Pattern.Boundary
import Inflection.Unicode.CaseFolding
import Inflection.Unicode.Classes

/-!
The switches that a pattern may set for itself, and what depends on them
alone: which characters a literal stands for, what an end of line is, and
which blanks between the parts of a pattern are layout.
-/

namespace Inflection.Pattern

structure Flags where
  ignoreCase : Bool := false
  /-- Whether `^` and `$` hold at the ends of lines too. -/
  multiLine : Bool := false
  /-- Whether `.` stands for line ends too. -/
  dotAll : Bool := false
  /-- Whether repetitions are as rare as possible unless marked. -/
  swapGreed : Bool := false
  /-- Whether carriage returns end lines. -/
  anyLineEnd : Bool := false
  /-- Whether the named classes hold more than ASCII characters. -/
  unicode : Bool := true
  /-- Whether blanks and comments between parts are layout. -/
  spaced : Bool := false

namespace Flags

/-- The flags with the one of the given letter set to `value`. -/
def set? (flags : Flags) (letter : Char) (value : Bool) : Option Flags :=
  match letter with
  | 'i' => some { flags with ignoreCase := value }
  | 'm' => some { flags with multiLine := value }
  | 's' => some { flags with dotAll := value }
  | 'U' => some { flags with swapGreed := value }
  | 'R' => some { flags with anyLineEnd := value }
  | 'u' => some { flags with unicode := value }
  | 'x' => some { flags with spaced := value }
  | _ => none

/-- The text without the blanks and comments it begins with. The first argument
tells whether a comment is open. -/
def skipLayout : Bool → List Char → List Char
  | _, [] => []
  | true, c :: rest => skipLayout (c != '\n') rest
  | false, c :: rest =>
    if Unicode.isBlank c then skipLayout false rest
    else if c = '#' then skipLayout true rest
    else c :: rest

/-- The text without the layout it begins with. A comment runs from a number
sign to the end of the line. -/
def skip (flags : Flags) (text : List Char) : List Char :=
  if flags.spaced then skipLayout false text else text

/-- The characters before the first closing brace and the text after it. -/
def untilBrace (flags : Flags) (inComment : Bool) : List Char → Option (List Char × List Char)
  | [] => none
  | c :: rest =>
    if inComment then flags.untilBrace (c != '\n') rest
    else if flags.spaced && Unicode.isBlank c then flags.untilBrace false rest
    else if flags.spaced && c == '#' then flags.untilBrace true rest
    else if c = '}' then some ([], rest)
    else (flags.untilBrace false rest).map fun (inside, rest) => (c :: inside, rest)

def swapAsciiCase (c : Char) : Char :=
  if c.isUpper then c.toLower else c.toUpper

/-- The least set that holds `s` and ignores case, if case is to be ignored at
all. -/
def foldCase (flags : Flags) (s : CharSet) : CharSet :=
  if !flags.ignoreCase then s
  else if flags.unicode then Unicode.CaseFolding.close s
  else s ∪ CharSet.ascii fun c => c.isAlpha && s.contains (swapAsciiCase c)

/-- The characters that a literal stands for. -/
def literal (flags : Flags) (c : Char) : CharSet :=
  if !flags.ignoreCase then CharSet.single c
  else if flags.unicode then CharSet.ofChars (Unicode.CaseFolding.equivalents c)
  else if c.isAlpha then CharSet.ofChars [c, swapAsciiCase c]
  else CharSet.single c

/-- What a dot stands for. Without Unicode it would stand for parts of
characters, and so for nothing. -/
def dot? (flags : Flags) : Option CharSet :=
  if !flags.unicode then none
  else if flags.dotAll then some CharSet.all
  else if flags.anyLineEnd then some (CharSet.ofChars ['\n', '\r']).compl
  else some (CharSet.single '\n').compl

def caret (flags : Flags) : Boundary :=
  if !flags.multiLine then .startOfText
  else if flags.anyLineEnd then .startOfAnyLine
  else .startOfLine

def dollar (flags : Flags) : Boundary :=
  if !flags.multiLine then .endOfText
  else if flags.anyLineEnd then .endOfAnyLine
  else .endOfLine

def wordBorder (flags : Flags) (border : WordBorder) : Boundary :=
  .word border flags.unicode

def words (flags : Flags) : CharSet :=
  if flags.unicode then Unicode.wordCharacters else CharSet.ascii Boundary.isAsciiWordCharacter

def digits (flags : Flags) : CharSet :=
  if flags.unicode then Unicode.decimalDigits else CharSet.ascii Char.isDigit

def spaces (flags : Flags) : CharSet :=
  if flags.unicode then Unicode.blanks else CharSet.ascii Unicode.isBlank

/-- The complement, which without Unicode would hold parts of characters. -/
def complement? (flags : Flags) (s : CharSet) : Option CharSet :=
  if flags.unicode then some s.compl else none

end Flags

end Inflection.Pattern
