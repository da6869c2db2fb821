/-!
The text of a YAML stream and the places in it. All ends of lines but two rare
ones are read as line feeds, and some characters may not occur at all.
-/

namespace Inflection.Yaml

def isBreak (c : Char) : Bool :=
  c = '\n' || c = '\u2028' || c = '\u2029'

def isBlank (c : Char) : Bool :=
  c = ' ' || c = '\t'

/-- The characters of names: the letters and digits of ASCII text, hyphen and
low line. -/
def isNameCharacter (c : Char) : Bool :=
  c.isAlphanum || c = '_' || c = '-'

/-- The characters that a stream may hold. -/
def isAllowed (c : Char) : Bool :=
  let n := c.toNat
  n = 0x09 || n = 0x0A || n = 0x0D || (0x20 ≤ n && n ≤ 0x7E) || n = 0x85 ||
    (0xA0 ≤ n && n ≤ 0xFFFD) || 0x10000 ≤ n

/-- The text with carriage returns, alone or before a line feed, and next-line
characters replaced by line feeds. -/
def unifyBreaks : List Char → List Char
  | '\r' :: '\n' :: rest => '\n' :: unifyBreaks rest
  | c :: rest => (if c = '\r' ∨ c = '\u0085' then '\n' else c) :: unifyBreaks rest
  | [] => []

/-- A place in a stream: the bytes and the lines before it, and the characters
before it on its line. -/
structure Place where
  bytes : Nat := 0
  line : Nat := 0
  column : Nat := 0

/-- The place after a character. -/
def Place.pass (place : Place) (c : Char) : Place :=
  let bytes := place.bytes + c.utf8Size
  if isBreak c then { bytes, line := place.line + 1 }
  else { place with bytes, column := place.column + 1 }

/-- The text from a place on. -/
structure Input where
  rest : List Char
  place : Place := {}

namespace Input

def column (input : Input) : Nat := input.place.column

/-- The place after the next character, given that it is `c`. -/
def pass (input : Input) (c : Char) (rest : List Char) : Input :=
  { rest, place := input.place.pass c }

/-- The place after the next `count` characters. -/
def drop (input : Input) : Nat → Input
  | 0 => input
  | count + 1 =>
    match input.rest with
    | [] => input
    | c :: rest => (input.pass c rest).drop count

end Input

/-- Whether a text is at its end, or its next character is a blank or ends a
line. -/
def atBlank : List Char → Bool
  | [] => true
  | c :: _ => isBlank c || isBreak c

/-- Whether a text is at its end or at the end of a line. -/
def atBreak : List Char → Bool
  | [] => true
  | c :: _ => isBreak c

/-- Whether a text begins with the mark of a start or an end of a document. -/
def atDocumentMark : List Char → Bool
  | '-' :: '-' :: '-' :: rest => atBlank rest
  | '.' :: '.' :: '.' :: rest => atBlank rest
  | _ => false

end Inflection.Yaml
