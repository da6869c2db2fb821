import Inflection.Hexadecimal
import Inflection.Yaml.Input

/-!
Scalars: plain, quoted, and written as blocks. Line breaks inside a scalar are
folded: a single one becomes a blank, and of several the first is dropped.
-/

namespace Inflection.Yaml

inductive ScalarStyle where
  | plain
  | singleQuoted
  | doubleQuoted
  | literal
  | folded
deriving DecidableEq, Repr

/-- Blanks and line breaks between the characters of a scalar. -/
structure Gap where
  /-- The blanks before the first break, the last one first. -/
  blanks : List Char := []
  /-- The breaks, the last one first. -/
  breaks : List Char := []
  /-- Whether a break that does not count stands before the others. -/
  escaped : Bool := false

namespace Gap

def isBroken (gap : Gap) : Bool := gap.escaped || !gap.breaks.isEmpty

def isEmpty (gap : Gap) : Bool := gap.blanks.isEmpty && !gap.isBroken

/-- Blanks after a break do not count. -/
def addBlank (gap : Gap) (c : Char) : Gap :=
  if gap.isBroken then gap else { gap with blanks := c :: gap.blanks }

def addBreak (gap : Gap) (c : Char) : Gap :=
  { gap with blanks := [], breaks := c :: gap.breaks }

/-- The breaks that are kept of several in a row, and what stands for the
first if it is the only one. -/
def foldBreaks : List Char → List Char
  | ['\n'] => [' ']
  | '\n' :: more => more
  | breaks => breaks

/-- What stands for the gap, the last character first. -/
def folded (gap : Gap) : List Char :=
  if gap.escaped then gap.breaks
  else if gap.breaks.isEmpty then gap.blanks
  else (foldBreaks gap.breaks.reverse).reverse

end Gap

namespace Scalar

/-- A plain scalar that has been read: its text, whether line breaks follow it,
and the place after those. -/
structure Plain where
  text : List Char
  broken : Bool
  after : Input

/-- Whether a plain scalar ends before a text that begins with `c`. -/
def endsPlain (inFlow : Bool) (c : Char) (rest : List Char) : Bool :=
  (c = ':' && atBlank rest) || (inFlow && ",[]\x7b\x7d".toList.contains c)

/-- Whether a colon stands before an indicator of a flow collection. -/
def isStrayColon (inFlow : Bool) (c : Char) (rest : List Char) : Bool :=
  inFlow && c = ':' && rest.head?.any ",?[]\x7b\x7d".toList.contains

/-- Reads a plain scalar whose later lines must be indented to the column
`indent`; `text` is what has been read, the last character first. -/
def plainFrom (inFlow : Bool) (indent : Nat) (text : List Char) (gap : Gap)
    (place : Place) : List Char → Option Plain
  | [] => some ⟨text.reverse, gap.isBroken, ⟨[], place⟩⟩
  | c :: rest =>
    let column := place.column
    let finish := some ⟨text.reverse, gap.isBroken, ⟨c :: rest, place⟩⟩
    if isBlank c then
      if gap.isBroken && column < indent && c = '\t' then none
      else plainFrom inFlow indent text (gap.addBlank c) (place.pass c) rest
    else if isBreak c then plainFrom inFlow indent text (gap.addBreak c) (place.pass c) rest
    else if !gap.isEmpty &&
        ((!inFlow && column < indent) || c = '#' || (column = 0 && atDocumentMark (c :: rest))) then
      finish
    else if isStrayColon inFlow c rest then none
    else if endsPlain inFlow c rest then finish
    else plainFrom inFlow indent (c :: gap.folded ++ text) {} (place.pass c) rest

def plain (inFlow : Bool) (indent : Nat) (input : Input) : Option Plain :=
  plainFrom inFlow indent [] {} input.place input.rest

/-- Reads a scalar in single quotes after its opening quote. -/
def singleQuotedFrom (text : List Char) (gap : Gap) (place : Place) :
    List Char → Option (List Char × Input)
  | [] => none
  | c :: rest =>
    if isBlank c then singleQuotedFrom text (gap.addBlank c) (place.pass c) rest
    else if isBreak c then singleQuotedFrom text (gap.addBreak c) (place.pass c) rest
    else if place.column = 0 && atDocumentMark (c :: rest) then none
    else if c = '\'' then
      match rest with
      | '\'' :: rest =>
        singleQuotedFrom ('\'' :: gap.folded ++ text) {} ((place.pass c).pass c) rest
      | _ => some ((gap.folded ++ text).reverse, ⟨rest, place.pass c⟩)
    else singleQuotedFrom (c :: gap.folded ++ text) {} (place.pass c) rest

/-- The character that a backslash and the given character write. -/
def escaped? (c : Char) : Option Char :=
  match c with
  | '0' => some '\x00'
  | 'a' => some '\x07'
  | 'b' => some '\x08'
  | 't' | '\t' => some '\t'
  | 'n' => some '\n'
  | 'v' => some '\x0b'
  | 'f' => some '\x0c'
  | 'r' => some '\r'
  | 'e' => some '\x1b'
  | ' ' => some ' '
  | '"' => some '"'
  | '/' => some '/'
  | '\\' => some '\\'
  | 'N' => some '\u0085'
  | '_' => some '\u00a0'
  | 'L' => some '\u2028'
  | 'P' => some '\u2029'
  | _ => none

/-- The number of hexadecimal digits that follow a backslash and the given
character. -/
def escapeWidth? (c : Char) : Option Nat :=
  match c with
  | 'x' => some 2
  | 'u' => some 4
  | 'U' => some 8
  | _ => none

/-- What a backslash in double quotes announces. -/
inductive Escape where
  /-- A line break that does not count. -/
  | lineBreak
  /-- A character, written by so many characters after the backslash. -/
  | char (c : Char) (width : Nat)

def escape? : List Char → Option Escape
  | [] => none
  | c :: rest =>
    if isBreak c then some .lineBreak
    else
      match escapeWidth? c with
      | some width =>
        let digits := rest.take width
        if digits.length < width then none
        else (Hexadecimal.char? digits).map (.char · (width + 1))
      | none => (escaped? c).map (.char · 1)

/-- Reads a scalar in double quotes after its opening quote. The first argument
bounds the steps, each of which takes at least one character. -/
def doubleQuotedFrom : Nat → List Char → Gap → Input → Option (List Char × Input)
  | 0, _, _, _ => none
  | steps + 1, text, gap, input =>
    match input.rest with
    | [] => none
    | c :: rest =>
      if isBlank c then doubleQuotedFrom steps text (gap.addBlank c) (input.pass c rest)
      else if isBreak c then doubleQuotedFrom steps text (gap.addBreak c) (input.pass c rest)
      else if input.column = 0 && atDocumentMark (c :: rest) then none
      else if c = '"' then some ((gap.folded ++ text).reverse, input.pass c rest)
      else if c = '\\' then
        match escape? rest with
        | none => none
        | some .lineBreak =>
          let after := input.pass c rest
          doubleQuotedFrom steps (gap.folded ++ text) { escaped := true }
            (after.pass '\n' (rest.drop 1))
        | some (.char d width) =>
          doubleQuotedFrom steps (d :: gap.folded ++ text) {} (input.drop (width + 1))
      else doubleQuotedFrom steps (c :: gap.folded ++ text) {} (input.pass c rest)

def singleQuoted (input : Input) : Option (List Char × Input) :=
  singleQuotedFrom [] {} input.place input.rest

def doubleQuoted (input : Input) : Option (List Char × Input) :=
  doubleQuotedFrom (input.rest.length + 1) [] {} input

/-- What is done with the line breaks at the end of a block. -/
inductive Chomping where
  | strip
  | clip
  | keep
deriving DecidableEq, Repr

/-- The marks after the sign that opens a block: how to treat its end, and the
depth of its indentation if it is given. -/
structure BlockHeader where
  chomping : Chomping := .clip
  increment : Option Nat := none

/-- A plus sign keeps all breaks at the end of a block, a hyphen none. -/
def chomping? (c : Char) : Option Chomping :=
  match c with
  | '+' => some .keep
  | '-' => some .strip
  | _ => none

/-- Reads a digit if there is one. Zero is not allowed. -/
def increment? (text : List Char) : Option (Option Nat × List Char) :=
  match text with
  | c :: rest =>
    if c = '0' then none
    else if c.isDigit then some (some (c.toNat - '0'.toNat), rest)
    else some (none, text)
  | [] => some (none, [])

/-- Reads the marks, in either order. -/
def blockHeader (text : List Char) : Option (BlockHeader × List Char) :=
  match text.head?.bind chomping? with
  | some chomping => do
    let (increment, rest) ← increment? (text.drop 1)
    return ({ chomping, increment }, rest)
  | none => do
    let (increment, rest) ← increment? text
    match rest.head?.bind chomping?, increment with
    | some chomping, some _ => return ({ chomping, increment }, rest.drop 1)
    | _, _ => return ({ increment }, rest)

/-- Passes empty lines and the indentation of the next line. Gives the breaks,
the last one first, the greatest column reached and the place. The indentation
is `indent` columns deep, or not yet known. -/
def blockBreaks (indent : Option Nat) (breaks : List Char) (deepest : Nat) (place : Place) :
    List Char → Option (List Char × Nat × Input)
  | [] => some (breaks, max deepest place.column, ⟨[], place⟩)
  | c :: rest =>
    let column := place.column
    let isIndentation := indent.all (column < ·)
    if isIndentation && c = ' ' then blockBreaks indent breaks deepest (place.pass c) rest
    else if isIndentation && c = '\t' then none
    else if isBreak c then
      blockBreaks indent (c :: breaks) (max deepest column) (place.pass c) rest
    else some (breaks, max deepest column, ⟨c :: rest, place⟩)

/-- The line break at a place, if there is one, and the place after it. -/
def lineBreak (input : Input) : List Char × Input :=
  match input.rest with
  | c :: rest => if isBreak c then ([c], input.pass c rest) else ([], input)
  | [] => ([], input)

/-- The lines of a block that have been read. -/
structure BlockLines where
  /-- The text without the end of its last line, the last character first. -/
  text : List Char
  /-- The end of the last line. -/
  lastBreak : List Char
  /-- The ends of the empty lines after it, the last one first. -/
  emptyLines : List Char
  after : Input

/-- What stands for the end of a line and the empty lines after it, the last
character first. In a folded block a line feed between two lines that do not
begin with blanks is folded. -/
def joinLines (isFolded : Bool) (lastBreak emptyLines : List Char) : List Char :=
  if isFolded && lastBreak = ['\n'] then
    if emptyLines.isEmpty then [' '] else emptyLines
  else emptyLines ++ lastBreak

/-- Reads the lines of a block that is indented to the column `indent`. The
first argument bounds the number of lines. -/
def blockLines (isFolded : Bool) (indent : Nat) :
    Nat → Bool → BlockLines → Option BlockLines
  | 0, _, _ => none
  | lines + 1, afterBlank, block =>
    let input := block.after
    if input.column ≠ indent || input.rest.isEmpty then some block
    else do
      let beginsBlank := input.rest.head?.any isBlank
      let joined := joinLines (isFolded && !afterBlank && !beginsBlank)
        block.lastBreak block.emptyLines
      let line := input.rest.takeWhile (!isBreak ·)
      let (lastBreak, next) := lineBreak (input.drop line.length)
      let (emptyLines, _, after) ←
        blockBreaks (some indent) [] 0 next.place next.rest
      blockLines isFolded indent lines beginsBlank
        { text := line.reverse ++ joined ++ block.text, lastBreak, emptyLines, after }

/-- Passes blanks and a comment up to the end of the line. -/
def restOfLine (input : Input) : Option Input :=
  let input := input.drop (input.rest.takeWhile isBlank).length
  let input :=
    if input.rest.head? = some '#' then
      input.drop (input.rest.takeWhile (!isBreak ·)).length
    else input
  if atBreak input.rest then some (lineBreak input).2 else none

/-- Reads a block after the sign that opens it. The column `outer` is that of
the collection around it, or -1. -/
def block (isFolded : Bool) (outer : Int) (input : Input) : Option (List Char × Input) := do
  let (header, rest) ← blockHeader input.rest
  let start ← restOfLine (input.drop (input.rest.length - rest.length))
  let given := header.increment.map fun increment => increment + outer.toNat
  let (emptyLines, deepest, after) ←
    blockBreaks given [] 0 start.place start.rest
  let indent := given.getD (max (max deepest (outer + 1).toNat) 1)
  let lines ← blockLines isFolded indent (after.rest.length + 1) false
    { text := [], lastBreak := [], emptyLines, after }
  let kept :=
    match header.chomping with
    | .strip => []
    | .clip => lines.lastBreak
    | .keep => lines.emptyLines ++ lines.lastBreak
  return ((kept ++ lines.text).reverse, lines.after)

end Scalar

end Inflection.Yaml
