import Inflection.Pattern.CharacterClass
import Inflection.Pattern.Node

/-!
Reading a pattern from its text. The text is read once from left to right;
the groups open at a place form a stack, and a switch set inside a group holds
up to the end of that group. A pattern may nest 250 levels deep.
-/

namespace Inflection.Pattern

/-- A part that has been read, with the height of the text that wrote it. A switch
is a part too, but cannot be repeated. -/
structure Piece where
  node : Node
  height : Nat := 0
  repeatable : Bool := true

/-- The greatest height of a pattern. -/
def heightLimit : Nat := 250

namespace Piece

/-- The height of a text with parts of its own. -/
def heightOver (pieces : List Piece) : Nat :=
  (pieces.map Piece.height).foldl max 0 + 1

/-- One after another; the pieces are given the last first. -/
def sequence : List Piece → Piece
  | [] => { node := .empty }
  | [piece] => piece
  | pieces =>
    { node := Node.sequence (pieces.reverse.map Piece.node), height := heightOver pieces }

/-- Any of several, the first being preferred; the pieces are given the last
first. -/
def choice : List Piece → Piece
  | [piece] => piece
  | pieces => { node := Node.choice (pieces.reverse.map Piece.node), height := heightOver pieces }

end Piece

/-- What stood before a group that is still open: the alternatives and the
parts of the last alternative, both the last first, and the flags to return
to. -/
structure OpenGroup where
  index : Option Nat
  flags : Flags
  alternatives : List Piece
  parts : List Piece

/-- What has been read. -/
structure Reader where
  flags : Flags := {}
  /-- The alternatives that are complete and the parts of the one that is
  not, both the last first. -/
  alternatives : List Piece := []
  parts : List Piece := []
  outer : List OpenGroup := []
  groupCount : Nat := 0
  names : List (List Char) := []

namespace Reader

def push (r : Reader) (piece : Piece) : Reader :=
  { r with parts := piece :: r.parts }

/-- Adds a character that stands for itself. -/
def pushLiteral (r : Reader) (c : Char) : Reader :=
  r.push { node := Node.ofSet (r.flags.literal c) }

def pushSet (r : Reader) (members : CharSet) (height : Nat := 0) : Reader :=
  r.push { node := Node.ofSet members, height }

def pushLook (r : Reader) (boundary : Boundary) : Reader :=
  r.push { node := .look boundary }

/-- Completes the last alternative and begins another. -/
def alternative (r : Reader) : Reader :=
  { r with alternatives := Piece.sequence r.parts :: r.alternatives, parts := [] }

/-- The current group as one piece. -/
def piece (r : Reader) : Piece :=
  Piece.choice (Piece.sequence r.parts :: r.alternatives)

/-- Opens a group, whose text is kept if it has a number. Its parts are read with
the given flags. -/
def openGroup (r : Reader) (index : Option Nat) (flags : Flags) : Reader :=
  { r with
    flags
    alternatives := []
    parts := []
    outer := ⟨index, r.flags, r.alternatives, r.parts⟩ :: r.outer }

/-- Opens a group whose text is kept under the next number. -/
def openCapture (r : Reader) : Reader :=
  { r.openGroup (some (r.groupCount + 1)) r.flags with groupCount := r.groupCount + 1 }

/-- Ends the innermost group, if one is open. -/
def closeGroup? (r : Reader) : Option Reader :=
  match r.outer with
  | [] => none
  | opened :: outer =>
    let body := r.piece
    let piece : Piece :=
      match opened.index with
      | some index => { node := .group index body.node, height := body.height + 1 }
      | none => { node := body.node, height := body.height + 1 }
    some { r with
      flags := opened.flags
      alternatives := opened.alternatives
      parts := piece :: opened.parts
      outer }

/-- Repeats the last part, if there is one and it can be repeated. -/
def repeatLast? (r : Reader) (low : Nat) (high : Option Nat) (lazy : Bool) :
    Option Reader :=
  match r.parts with
  | [] => none
  | last :: parts =>
    if !last.repeatable then none
    else
      let piece : Piece :=
        { node := Node.repeated low high (lazy == r.flags.swapGreed) last.node
          height := last.height + 1 }
      some { r with parts := piece :: parts }

/-- Reads a group name up to its closing bracket. -/
def groupName? : Bool → List Char → Option (List Char × List Char)
  | _, [] => none
  | first, c :: rest =>
    if c = '>' then some ([], rest)
    else
      let isValid :=
        if first then c == '_' || Unicode.alphabetic.contains c
        else
          c == '_' || c == '.' || c == '[' || c == ']' || Unicode.alphanumeric.contains c
      if isValid then (groupName? false rest).map fun (name, rest) => (c :: name, rest) else none

/-- A list of switches: the flags that it leaves, whether it is for a group that
begins here, and whether there are any switches in it. -/
structure Switches where
  flags : Flags
  opensGroup : Bool
  isEmpty : Bool

/-- Reads switches up to a colon or a closing parenthesis. Each may be named
once, and a hyphen, which may occur once and not at the end, turns off those
after it. -/
def switches? (flags : Flags) (value : Bool) (seen : List Char) (afterHyphen : Bool) :
    List Char → Option (Switches × List Char)
  | [] => none
  | c :: rest =>
    if c = ':' ∨ c = ')' then
      if afterHyphen then none
      else some (⟨flags, c == ':', value && seen.isEmpty⟩, rest)
    else if c = '-' then
      if value then switches? flags false seen true rest else none
    else if seen.contains c then none
    else
      match flags.set? c value with
      | some flags => switches? flags value (c :: seen) false rest
      | none => none

/-- Reads the name of a group and opens the group. No two groups share a name. -/
def namedCapture? (r : Reader) (text : List Char) : Option (Reader × List Char) := do
  let (name, rest) ← groupName? true text
  if name.isEmpty || r.names.contains name then none
  return ({ r.openCapture with names := name :: r.names }, rest)

/-- Begins a group with switches of its own, or sets switches for the rest of the
current one. -/
def applySwitches? (r : Reader) (switches : Switches) : Option Reader :=
  if switches.opensGroup then some (r.openGroup none switches.flags)
  else if switches.isEmpty then none
  else
    let switch : Piece := { node := .empty, repeatable := false }
    some { r.push switch with flags := switches.flags }

/-- Reads switches and what they are for. -/
def switch? (r : Reader) (text : List Char) : Option (Reader × List Char) := do
  let (switches, rest) ← switches? r.flags true [] false text
  return (← r.applySwitches? switches, rest)

/-- Reads what follows a question mark after an opening parenthesis: a name or
switches. There is no way to look ahead or behind. -/
def extension? (r : Reader) (text : List Char) : Option (Reader × List Char) :=
  match text with
  | '<' :: rest | 'P' :: '<' :: rest => r.namedCapture? rest
  | _ => r.switch? text

/-- Reads what follows an opening parenthesis. -/
def group? (r : Reader) (text : List Char) : Option (Reader × List Char) :=
  match r.flags.skip text with
  | '?' :: rest => r.extension? rest
  | rest => some (r.openCapture, rest)

/-- A decimal number below 2³² with blanks around it. -/
def countOf? (digits : List Char) : Option Nat :=
  let digits := (digits.dropWhile Unicode.isBlank).reverse.dropWhile Unicode.isBlank
  if digits.isEmpty || !digits.all Char.isDigit then none
  else
    let n := digits.foldr (fun c n => 10 * n + (c.toNat - '0'.toNat)) 0
    if n < UInt32.size then some n else none

/-- The bounds written inside the braces of a repetition. -/
def bounds? (inside : List Char) : Option (Nat × Option Nat) :=
  match inside.span (· != ',') with
  | (low, []) => (countOf? low).map fun n => (n, some n)
  | (low, [_]) => (countOf? low).map fun n => (n, none)
  | (low, _ :: high) => do
    let low ← countOf? low
    let high ← countOf? high
    if low ≤ high then some (low, some high) else none

/-- Whether a question mark comes next, and the text after it. -/
def marked (text : List Char) : Bool × List Char :=
  match text with
  | '?' :: rest => (true, rest)
  | _ => (false, text)

/-- Repeats the last part; a question mark changes what is preferred. -/
def repetition? (r : Reader) (low : Nat) (high : Option Nat) (text : List Char) :
    Option (Reader × List Char) := do
  let (lazy, rest) := marked text
  return (← r.repeatLast? low high lazy, rest)

/-- Repeats the last part within the bounds that are written inside braces. -/
def boundedRepetition? (r : Reader) (inside : List Char) (text : List Char) :
    Option (Reader × List Char) := do
  let (low, high) ← bounds? inside
  r.repetition? low high (r.flags.skip text)

/-- Repeats the last part within the bounds that are read up to the closing brace. -/
def countedRepetition? (r : Reader) (text : List Char) : Option (Reader × List Char) := do
  let (inside, rest) ← r.flags.untilBrace false text
  r.boundedRepetition? inside rest

/-- Reads a word border of a kind named in braces. Braces that name none repeat
a border of the common kind. -/
def bracedBorder? (r : Reader) (text : List Char) : Option (Reader × List Char) := do
  let (inside, rest) ← r.flags.untilBrace false text
  match Escape.namedBorder? inside with
  | some border => return (r.pushLook (r.flags.wordBorder border), rest)
  | none => (r.pushLook (r.flags.wordBorder .either)).boundedRepetition? inside rest

def pushAtom (r : Reader) : Atom → Reader
  | .char c => r.pushLiteral c
  | .set members => r.pushSet members
  | .look boundary => r.pushLook boundary

/-- Reads what follows a backslash. -/
def escape? (r : Reader) (text : List Char) : Option (Reader × List Char) :=
  match text with
  | 'b' :: '{' :: rest => r.bracedBorder? rest
  | _ => do
    let (atom, rest) ← Escape.read r.flags text
    return (r.pushAtom atom, rest)

/-- Reads one part, given its first character and the text after it. -/
def step? (r : Reader) (c : Char) (rest : List Char) : Option (Reader × List Char) :=
  match c with
  | '(' => r.group? rest
  | ')' => r.closeGroup?.map (·, rest)
  | '|' => some (r.alternative, rest)
  | '[' => do
    let (operand, rest) ← CharacterClass.read r.flags rest
    return (r.pushSet operand.members operand.height, rest)
  | '?' => r.repetition? 0 (some 1) rest
  | '*' => r.repetition? 0 none rest
  | '+' => r.repetition? 1 none rest
  | '{' => r.countedRepetition? rest
  | '\\' => r.escape? rest
  | '.' => r.flags.dot?.map fun members => (r.pushSet members, rest)
  | '^' => some (r.pushLook r.flags.caret, rest)
  | '$' => some (r.pushLook r.flags.dollar, rest)
  | _ => some (r.pushLiteral c, rest)

/-- Reads the whole text. The number bounds the parts, each of which takes at
least one character. -/
def readFrom : Nat → Reader → List Char → Option Reader
  | 0, _, _ => none
  | parts + 1, r, text =>
    match r.flags.skip text with
    | [] => some r
    | c :: rest =>
      match r.step? c rest with
      | some (r, rest) => readFrom parts r rest
      | none => none

/-- Reads the whole text, given what has been read before it. -/
def read? (r : Reader) (text : List Char) : Option Reader :=
  readFrom (text.length + 1) r text

end Reader

end Inflection.Pattern
