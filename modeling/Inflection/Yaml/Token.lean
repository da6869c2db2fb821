import Inflection.Utf8
import Inflection.Yaml.Scalar

/-!
The tokens of a YAML stream. In block context the indentation of the text opens
and closes collections; a line is seen to hold a key only when the colon after
it is reached, so the tokens that open a mapping and mark a key are put before
tokens that have been read already.
-/

namespace Inflection.Yaml

inductive Token where
  | version (major minor : Nat)
  | tagHandle (handle expansion : String)
  | documentStart
  | documentEnd
  | blockSequenceStart
  | blockMappingStart
  | blockEnd
  | flowSequenceStart
  | flowSequenceEnd
  | flowMappingStart
  | flowMappingEnd
  | blockEntry
  | flowEntry
  | key
  | value
  | alias (name : String)
  | anchor (name : String)
  | tag (handle suffix : String)
  | scalar (text : String) (style : ScalarStyle)
deriving DecidableEq, Repr

/-- A place at which a key may have begun: the count of tokens before it, the
place, and whether nothing but a key may stand there. -/
structure KeyStart where
  tokenCount : Nat
  place : Place
  required : Bool

/-- How far a stream has been read. -/
structure Lexer where
  input : Input
  /-- The tokens, the last one first. -/
  tokens : List Token := []
  tokenCount : Nat := 0
  /-- The column of the innermost block collection, or -1. -/
  indent : Int := -1
  /-- The columns of the collections around it. -/
  indents : List Int := []
  /-- Whether a key may begin here. -/
  keyAllowed : Bool := true
  /-- The last place where a key may have begun, in block context or the
  innermost flow collection, and in each of those around it. -/
  keyStart : Option KeyStart := none
  outerKeyStarts : List (Option KeyStart) := []

namespace Lexer

def inFlow (l : Lexer) : Bool := !l.outerKeyStarts.isEmpty

def add (l : Lexer) (token : Token) : Lexer :=
  { l with tokens := token :: l.tokens, tokenCount := l.tokenCount + 1 }

/-- Puts tokens before all but the first `count` tokens. -/
def insert (l : Lexer) (count : Nat) (tokens : List Token) : Lexer :=
  let (later, earlier) := l.tokens.splitAt (l.tokenCount - count)
  { l with
    tokens := later ++ tokens.reverse ++ earlier
    tokenCount := l.tokenCount + tokens.length }

/-- Passes blanks, comments and line breaks, and a byte order mark that begins a
line. Tabs do not indent: they are passed only where no key may begin or in a
flow collection. -/
def skipFrom (inFlow inComment keyAllowed : Bool) (place : Place) :
    List Char → Bool × Input
  | [] => (keyAllowed, ⟨[], place⟩)
  | c :: rest =>
    if isBreak c then skipFrom inFlow false (keyAllowed || !inFlow) (place.pass c) rest
    else if inComment || c = ' ' || (c = '\t' && (inFlow || !keyAllowed)) ||
        (c = '\ufeff' && place.column = 0) then
      skipFrom inFlow inComment keyAllowed (place.pass c) rest
    else if c = '#' then skipFrom inFlow true keyAllowed (place.pass c) rest
    else (keyAllowed, ⟨c :: rest, place⟩)

def skip (l : Lexer) : Lexer :=
  let (keyAllowed, input) := skipFrom l.inFlow false l.keyAllowed l.input.place l.input.rest
  { l with keyAllowed, input }

/-- A key must end on the line on which it began and within 1024 bytes. -/
def isStale (l : Lexer) (start : KeyStart) : Bool :=
  start.place.line < l.input.place.line || start.place.bytes + 1024 < l.input.place.bytes

/-- Forgets a place where a key can no longer have begun. Fails if nothing but
a key may stand there. -/
def dropStale? (l : Lexer) (start : Option KeyStart) : Option (Option KeyStart) :=
  match start with
  | none => some none
  | some start =>
    if l.isStale start then (if start.required then none else some none) else some (some start)

def dropAllStale? (l : Lexer) : Option Lexer := do
  let keyStart ← l.dropStale? l.keyStart
  let outerKeyStarts ← l.outerKeyStarts.mapM l.dropStale?
  return { l with keyStart, outerKeyStarts }

/-- Forgets where a key may have begun. -/
def removeKeyStart? (l : Lexer) : Option Lexer :=
  if l.keyStart.any (·.required) then none else some { l with keyStart := none }

/-- Notes that a key may begin here, if that is so. -/
def saveKeyStart? (l : Lexer) : Option Lexer :=
  if !l.keyAllowed then some l
  else do
    let l ← l.removeKeyStart?
    let required := !l.inFlow && l.indent = l.input.column
    return { l with
      keyStart := some ⟨l.tokenCount, l.input.place, required⟩ }

/-- Whether a block collection opens at a column. -/
def opensBlock (l : Lexer) (column : Nat) : Bool :=
  !l.inFlow && l.indent < column

/-- The state inside a block collection that begins at a column. -/
def indentTo (l : Lexer) (column : Nat) : Lexer :=
  { l with indent := column, indents := l.indent :: l.indents }

/-- Opens a block collection at the present column unless one is open there. -/
def openBlock (l : Lexer) (token : Token) : Lexer :=
  if l.opensBlock l.input.column then (l.indentTo l.input.column).add token else l

/-- Closes the block collections that lie beyond a column. The outer columns
are given as they are left. -/
def closeBlocksFrom (l : Lexer) (column : Int) : List Int → Lexer
  | [] => if l.indent > column then { l.add .blockEnd with indent := -1, indents := [] } else l
  | outer :: indents =>
    if l.indent > column then
      closeBlocksFrom { l.add .blockEnd with indent := outer, indents } column indents
    else l

/-- Closes the block collections that lie beyond a column. In a flow collection
indentation does not count. -/
def closeBlocks (l : Lexer) (column : Int) : Lexer :=
  if l.inFlow then l else closeBlocksFrom l column l.indents

def drop (l : Lexer) (count : Nat) : Lexer :=
  { l with input := l.input.drop count }

/-- Begins anew at the outermost level, for a directive or a document mark. -/
def outermost? (l : Lexer) : Option Lexer := do
  let l ← (l.closeBlocks (-1)).removeKeyStart?
  return { l with keyAllowed := false }

def openFlow? (l : Lexer) (token : Token) : Option Lexer := do
  let l ← l.saveKeyStart?
  return { (l.drop 1).add token with
    keyAllowed := true
    keyStart := none
    outerKeyStarts := l.keyStart :: l.outerKeyStarts }

def closeFlow? (l : Lexer) (token : Token) : Option Lexer := do
  let l ← l.removeKeyStart?
  let l := { (l.drop 1).add token with keyAllowed := false }
  match l.outerKeyStarts with
  | [] => return l
  | keyStart :: outerKeyStarts => return { l with keyStart, outerKeyStarts }

def flowEntry? (l : Lexer) : Option Lexer := do
  let l ← l.removeKeyStart?
  return { (l.drop 1).add .flowEntry with keyAllowed := true }

def blockEntry? (l : Lexer) : Option Lexer := do
  if !l.inFlow && !l.keyAllowed then none
  let l ← (l.openBlock .blockSequenceStart).removeKeyStart?
  return { (l.drop 1).add .blockEntry with keyAllowed := true }

def key? (l : Lexer) : Option Lexer := do
  if !l.inFlow && !l.keyAllowed then none
  let l ← (l.openBlock .blockMappingStart).removeKeyStart?
  return { (l.drop 1).add .key with keyAllowed := !l.inFlow }

/-- A colon before a value. If a key may have begun, it did. -/
def value? (l : Lexer) : Option Lexer :=
  match l.keyStart with
  | some start =>
    let column := start.place.column
    let l :=
      if l.opensBlock column then
        (l.insert start.tokenCount [.blockMappingStart, .key]).indentTo column
      else l.insert start.tokenCount [.key]
    some { (l.drop 1).add .value with keyStart := none, keyAllowed := false }
  | none =>
    if !l.inFlow && !l.keyAllowed then none
    else
      let l := l.openBlock .blockMappingStart
      some { (l.drop 1).add .value with keyAllowed := !l.inFlow }

/-- Reads the name of an anchor or an alias. -/
def name? (l : Lexer) (token : String → Token) : Option Lexer := do
  let l ← l.saveKeyStart?
  let l := l.drop 1
  let name := l.input.rest.takeWhile isNameCharacter
  let l := l.drop name.length
  let ends := atBlank l.input.rest || l.input.rest.head?.any "?:,]\x7d%@\x60".toList.contains
  if name.isEmpty || !ends then none
  return { l.add (token (String.ofList name)) with keyAllowed := false }

def plain? (l : Lexer) : Option Lexer := do
  let l ← l.saveKeyStart?
  let scalar ← Scalar.plain l.inFlow (l.indent + 1).toNat l.input
  let l := { l with input := scalar.after, keyAllowed := scalar.broken }
  return l.add (.scalar (String.ofList scalar.text) .plain)

def quoted? (l : Lexer) (style : ScalarStyle)
    (read : Input → Option (List Char × Input)) : Option Lexer := do
  let l ← l.saveKeyStart?
  let (text, input) ← read (l.input.drop 1)
  let l := { l with input, keyAllowed := false }
  return l.add (.scalar (String.ofList text) style)

def block? (l : Lexer) (style : ScalarStyle) : Option Lexer := do
  let l ← l.removeKeyStart?
  let (text, input) ← Scalar.block (style = .folded) l.indent (l.input.drop 1)
  let l := { l with input, keyAllowed := true }
  return l.add (.scalar (String.ofList text) style)

end Lexer

namespace Tag

/-- The characters of tags; those of `more` may occur too. -/
def isUriCharacter (more : List Char) (c : Char) : Bool :=
  isNameCharacter c || ";/?:@&=+$.%!~*'()".toList.contains c || more.contains c

/-- The number of bytes in the encoding of a character, by its first byte. -/
def byteCount? (first : Nat) : Option Nat :=
  if first < 0x80 then some 1
  else if first / 0x20 = 6 then some 2
  else if first / 0x10 = 14 then some 3
  else if first / 0x08 = 30 then some 4
  else none

/-- Reads `count` bytes, each a percent sign and two digits. -/
def bytes? : Nat → List Char → Option (List Nat × List Char)
  | 0, text => some ([], text)
  | count + 1, '%' :: a :: b :: rest => do
    let byte ← Hexadecimal.number? [a, b]
    let (bytes, rest) ← bytes? count rest
    return (byte :: bytes, rest)
  | _, _ => none

/-- Reads a character given by its bytes. Bytes that encode no character stand
for the replacement character. -/
def byteEscape? (text : List Char) : Option (Char × List Char) := do
  let (first, _) ← bytes? 1 text
  let (bytes, rest) ← bytes? (← first.head?.bind byteCount?) text
  if (bytes.drop 1).any (· / 0x40 ≠ 2) then none
  return (((Utf8.decode? bytes).bind List.head?).getD '\ufffd', rest)

/-- Reads the characters of a tag. The first argument bounds the steps. -/
def uriFrom (more : List Char) : Nat → List Char → Option (List Char × List Char)
  | 0, _ => none
  | steps + 1, text =>
    match text with
    | [] => some ([], [])
    | c :: rest =>
      if !isUriCharacter more c then some ([], text)
      else if c = '%' then do
        let (decoded, rest) ← byteEscape? text
        let (uri, rest) ← uriFrom more steps rest
        return (decoded :: uri, rest)
      else do
        let (uri, rest) ← uriFrom more steps rest
        return (c :: uri, rest)

def uri (more text : List Char) : Option (List Char × List Char) :=
  uriFrom more (text.length + 1) text

/-- What counts of a tag or of a part of one: all before the first null
character. -/
def significant (text : List Char) : List Char :=
  text.takeWhile (· ≠ '\x00')

/-- Reads an exclamation mark, the name characters after it, and a second mark
if there is one. -/
def handle (text : List Char) : Option (List Char × List Char) :=
  match text with
  | '!' :: rest =>
    let name := rest.takeWhile isNameCharacter
    match rest.drop name.length with
    | '!' :: rest => some ('!' :: name ++ ['!'], rest)
    | rest => some ('!' :: name, rest)
  | _ => none

/-- Reads a tag as its handle and its suffix. -/
def read (text : List Char) : Option (List Char × List Char × List Char) :=
  match text with
  | '!' :: '<' :: rest => do
    let (uri, rest) ← uri [',', '[', ']'] rest
    if uri.isEmpty then none
    match rest with
    | '>' :: rest => return ([], significant uri, rest)
    | _ => none
  | _ => do
    let (first, rest) ← handle text
    let (suffix, rest) ← uri [] rest
    if 1 < first.length && first.getLast? = some '!' then
      if suffix.isEmpty then none else return (first, significant suffix, rest)
    else
      let suffix := significant (first.drop 1 ++ suffix)
      return if suffix.isEmpty then ([], ['!'], rest) else (['!'], suffix, rest)

end Tag

namespace Lexer

def tag? (l : Lexer) : Option Lexer := do
  let l ← l.saveKeyStart?
  let (handle, suffix, rest) ← Tag.read l.input.rest
  if !atBlank rest && !(l.inFlow && rest.head? = some ',') then none
  let l := l.drop (l.input.rest.length - rest.length)
  return { l.add (.tag (String.ofList handle) (String.ofList suffix)) with keyAllowed := false }

/-- Reads a number of at most nine digits. -/
def versionNumber? (text : List Char) : Option (Nat × List Char) :=
  let digits := text.takeWhile Char.isDigit
  if digits.isEmpty || 9 < digits.length then none
  else
    some (digits.foldl (fun n c => 10 * n + (c.toNat - '0'.toNat)) 0, text.drop digits.length)

/-- Reads the two numbers of a version. -/
def version? (text : List Char) : Option (Token × List Char) := do
  let (major, rest) ← versionNumber? (text.dropWhile isBlank)
  match rest with
  | '.' :: rest =>
    let (minor, rest) ← versionNumber? rest
    return (.version major minor, rest)
  | _ => none

/-- Reads a handle and what it stands for. -/
def tagHandle? (text : List Char) : Option (Token × List Char) := do
  let (handle, rest) ← Tag.handle (text.dropWhile isBlank)
  if handle ≠ ['!'] && handle.getLast? ≠ some '!' then none
  if !rest.head?.any isBlank then none
  let (expansion, rest) ← Tag.uri [',', '[', ']'] (rest.dropWhile isBlank)
  if expansion.isEmpty || !atBlank rest then none
  return (.tagHandle (String.ofList handle) (String.ofList (Tag.significant expansion)), rest)

/-- Reads a directive, which takes the rest of its line. -/
def directive? (l : Lexer) : Option Lexer := do
  let l ← (l.drop 1).outermost?
  let name := l.input.rest.takeWhile isNameCharacter
  let text := l.input.rest.drop name.length
  if !atBlank text then none
  let (token, rest) ←
    match String.ofList name with
    | "YAML" => version? text
    | "TAG" => tagHandle? text
    | _ => none
  let input ← Scalar.restOfLine (l.input.drop (l.input.rest.length - rest.length))
  return { l.add token with input }

def documentMark? (l : Lexer) (token : Token) : Option Lexer := do
  let l ← l.outermost?
  return (l.drop 3).add token

/-- Whether a plain scalar may begin with `c` before `rest`. -/
def startsPlain (inFlow : Bool) (c : Char) (rest : List Char) : Bool :=
  !"-?:,[]\x7b\x7d#&*!|>'\"%@\x60".toList.contains c && !isBlank c ||
    (c = '-' && !rest.head?.any isBlank) ||
    (!inFlow && (c = '?' || c = ':') && !atBlank rest)

/-- Reads the token that begins with `c` before `rest`. -/
def token? (l : Lexer) (c : Char) (rest : List Char) : Option Lexer :=
  if l.input.column = 0 && c = '%' then l.directive?
  else if l.input.column = 0 && atDocumentMark (c :: rest) then
    l.documentMark? (if c = '-' then .documentStart else .documentEnd)
  else
    match c with
    | '[' => l.openFlow? .flowSequenceStart
    | '{' => l.openFlow? .flowMappingStart
    | ']' => l.closeFlow? .flowSequenceEnd
    | '}' => l.closeFlow? .flowMappingEnd
    | ',' => l.flowEntry?
    | '*' => l.name? .alias
    | '&' => l.name? .anchor
    | '!' => l.tag?
    | '\'' => l.quoted? .singleQuoted Scalar.singleQuoted
    | '"' => l.quoted? .doubleQuoted Scalar.doubleQuoted
    | _ =>
      if c = '-' && atBlank rest then l.blockEntry?
      else if c = '?' && (l.inFlow || atBlank rest) then l.key?
      else if c = ':' && (l.inFlow || atBlank rest) then l.value?
      else if c = '|' && !l.inFlow then l.block? .literal
      else if c = '>' && !l.inFlow then l.block? .folded
      else if startsPlain l.inFlow c rest then l.plain?
      else none

/-- Reads all tokens. The first argument bounds their number, each of which
takes at least one character. -/
def run : Nat → Lexer → Option Lexer
  | 0, _ => none
  | steps + 1, l => do
    let l ← l.skip.dropAllStale?
    match l.input.rest with
    | [] => (l.closeBlocks (-1)).removeKeyStart?
    | c :: rest =>
      let l ← (l.closeBlocks l.input.column).token? c rest
      run steps l

end Lexer

/-- The tokens of a stream, or nothing if it cannot be read. -/
def Token.ofText? (text : List Char) : Option (List Token) :=
  if text.all isAllowed then
    let text := unifyBreaks text
    let start : Lexer := { input := { rest := text } }
    (start.run (text.length + 1)).map (·.tokens.reverse)
  else none

end Inflection.Yaml
