import Inflection.Hexadecimal
import Inflection.Pattern.Flags
import Inflection.Unicode.Property

/-!
What a backslash and the characters after it stand for: a character, a set of
characters or a condition on the place.
-/

namespace Inflection.Pattern

/-- A part of a pattern that is not made of parts. -/
inductive Atom where
  | char (c : Char)
  | set (members : CharSet)
  | look (boundary : Boundary)

namespace Escape

/-- The characters that have a meaning of their own in patterns. -/
def metaCharacters : List Char := "\\.+*?()|[]\x7b\x7d^$#&-~".toList

/-- Writes a text so that it stands for itself in a pattern. -/
def quote (text : List Char) : List Char :=
  text.flatMap fun c => if metaCharacters.contains c then ['\\', c] else [c]

/-- Reads `count` hexadecimal digits, which layout may separate. -/
def hexDigits (flags : Flags) : Nat → List Char → Option (List Char × List Char)
  | 0, text => some ([], text)
  | count + 1, c :: rest => do
    let _ ← Hexadecimal.digit? c
    let (digits, rest) ← hexDigits flags count (flags.skip rest)
    return (c :: digits, rest)
  | _ + 1, [] => none

/-- A character by number, with the given count of digits or any number of
them in braces. Two digits alone cannot name a character beyond ASCII unless
Unicode is on, as they then name a byte. -/
def hexadecimal (flags : Flags) (count : Nat) (text : List Char) :
    Option (Atom × List Char) :=
  match flags.skip text with
  | '{' :: rest => do
    let (digits, rest) ← flags.untilBrace false rest
    if digits.isEmpty then none
    let c ← Hexadecimal.char? digits
    return (.char c, rest)
  | text => do
    let (digits, rest) ← hexDigits flags count text
    let c ← Hexadecimal.char? digits
    if count = 2 && !flags.unicode && 128 ≤ c.toNat then none
    return (.char c, rest)

/-- Splits at the first place where `separator` begins. -/
def splitAtFirst (separator : List Char) : List Char → Option (List Char × List Char)
  | [] => none
  | c :: rest =>
    if separator.isPrefixOf (c :: rest) then some ([], (c :: rest).drop separator.length)
    else (splitAtFirst separator rest).map fun (left, right) => (c :: left, right)

/-- The set that the text inside the braces of a property stands for, and whether
its complement is meant. The complement is meant by `name!=value`: all characters
but those whose property `name` has the given value. -/
def property? (inside : List Char) : Option (CharSet × Bool) :=
  match splitAtFirst ['!', '='] inside with
  | some (name, value) => (Unicode.Property.ofValue? name value).map (·, true)
  | none =>
    match splitAtFirst [':'] inside <|> splitAtFirst ['='] inside with
    | some (name, value) => (Unicode.Property.ofValue? name value).map (·, false)
    | none => (Unicode.Property.ofName? inside).map (·, false)

/-- Reads what names a property: one letter, or a text in braces. -/
def propertyText (flags : Flags) (text : List Char) : Option (List Char × List Char) :=
  match flags.skip text with
  | [] => none
  | '{' :: rest => flags.untilBrace false rest
  | c :: rest => if c = '\\' then none else some ([c], rest)

/-- The set of a property, or what it lacks if it is negated. The two ways to ask
for a complement cancel: `P` with `name!=value` is `p` with `name=value`. -/
def propertySet? (flags : Flags) (negated : Bool) (inside : List Char) : Option CharSet := do
  let (s, isComplement) ← property? inside
  if !flags.unicode then none
  let folded := flags.foldCase s
  return if negated = isComplement then folded else folded.compl

/-- Reads a property. -/
def propertyClass (flags : Flags) (negated : Bool) (text : List Char) :
    Option (Atom × List Char) := do
  let (inside, rest) ← propertyText flags text
  return (.set (← propertySet? flags negated inside), rest)

/-- The kind of a word border with a name. -/
def namedBorder? (name : List Char) : Option WordBorder :=
  match String.ofList name with
  | "start" => some .start
  | "end" => some .stop
  | "start-half" => some .startHalf
  | "end-half" => some .stopHalf
  | _ => none

/-- Reads the text after a backslash. -/
def read (flags : Flags) : List Char → Option (Atom × List Char)
  | [] => none
  | c :: rest =>
    let named := fun (s : CharSet) => some (Atom.set s, rest)
    let others := fun (s : CharSet) => (flags.complement? s).map fun s => (Atom.set s, rest)
    let place := fun (boundary : Boundary) => some (Atom.look boundary, rest)
    match c with
    | 'x' => hexadecimal flags 2 rest
    | 'u' => hexadecimal flags 4 rest
    | 'U' => hexadecimal flags 8 rest
    | 'p' => propertyClass flags false rest
    | 'P' => propertyClass flags true rest
    | 'd' => named flags.digits
    | 's' => named flags.spaces
    | 'w' => named flags.words
    | 'D' => others flags.digits
    | 'S' => others flags.spaces
    | 'W' => others flags.words
    | 'a' => some (.char '\x07', rest)
    | 'f' => some (.char '\x0c', rest)
    | 'n' => some (.char '\n', rest)
    | 'r' => some (.char '\r', rest)
    | 't' => some (.char '\t', rest)
    | 'v' => some (.char '\x0b', rest)
    | 'A' => place .startOfText
    | 'z' => place .endOfText
    | 'b' => place (flags.wordBorder .either)
    | 'B' => place (flags.wordBorder .neither)
    | '<' => place (flags.wordBorder .start)
    | '>' => place (flags.wordBorder .stop)
    | _ => if c.toNat < 128 && !c.isAlphanum then some (.char c, rest) else none

end Escape

end Inflection.Pattern
